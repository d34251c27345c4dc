import AfsToken.Credential.CredentialFile
import AfsToken.Proofs.Kerberos.Faults
import Mathlib.Data.List.Forall2

/-!
# What a selection gives

A credential that is selected for a cell is that of one entry of the file, and the entry names the
service of the cell.  The maximum of a list is one of its elements, so nothing of two entries is
ever mixed.
-/

namespace AfsToken

open AfsToken.Asn1 AfsToken.Kerberos AfsToken.Text

/-! ## The maximum of a list -/

section LastMaximum

variable {α κ : Type} {key : α → κ} {le : κ → κ → Bool}

variable (key le) in
theorem laterBy_eq_or (first second : α) :
    laterBy key le first second = first ∨ laterBy key le first second = second := by
  unfold laterBy
  split
  · exact .inr rfl
  · exact .inl rfl

theorem mem_of_lastMaximum {items : List α} {item : α} (h : lastMaximum key le items = some item) :
    item ∈ items := by
  cases items with
  | nil => cases h
  | cons first rest =>
      cases h
      -- The element kept so far is the first one, or one of those that were already passed.
      induction rest generalizing first with
      | nil => exact List.mem_singleton.mpr rfl
      | cons second rest ih =>
          rw [List.foldl_cons]
          rcases List.mem_cons.mp (ih (laterBy key le first second)) with hkept | hlater
          · rw [hkept]
            rcases laterBy_eq_or key le first second with hfirst | hsecond
            · rw [hfirst]
              exact List.mem_cons_self
            · rw [hsecond]
              exact List.mem_cons_of_mem _ List.mem_cons_self
          · exact List.mem_cons_of_mem _ (List.mem_cons_of_mem _ hlater)

end LastMaximum

/-! ## Entries of a cache -/

namespace Ccache

/-- An entry of a cache names the service of a cell in its realm, up to the case of ASCII
letters. -/
def Entry.Serves (cell : Cell) (entry : Entry) : Prop :=
  entry.isConfiguration = false ∧ names entry.service.realm cell.realm = true ∧
    ∃ service name, entry.service.components = [service, name] ∧ names service "afs" = true ∧
      names name cell.name = true

theorem Entry.isFor_iff {cell : Cell} {entry : Entry} :
    entry.isFor cell = true ↔ names entry.service.realm cell.realm = true ∧
      ∃ service name, entry.service.components = [service, name] ∧ names service "afs" = true ∧
        names name cell.name = true := by
  rw [isFor, Bool.and_eq_true, Bool.and_eq_true, beq_iff_eq, and_assoc]
  apply and_congr_right
  intro _
  constructor
  · rintro ⟨hlength, hall⟩
    obtain ⟨service, name, hcomponents⟩ := List.length_eq_two.mp hlength
    rw [hcomponents] at hall
    simp only [Cell.service, Cell.serviceName, List.zip_cons_cons, List.zip_nil_left,
      List.all_cons, List.all_nil, Bool.and_true, Bool.and_eq_true] at hall
    exact ⟨service, name, hcomponents, hall.1, hall.2⟩
  · rintro ⟨service, name, hcomponents, hservice, hname⟩
    rw [hcomponents]
    simp [Cell.service, Cell.serviceName, hservice, hname]

theorem Entry.serves_of_isFor {cell : Cell} {entry : Entry}
    (hkind : entry.isConfiguration = false) (h : entry.isFor cell = true) : entry.Serves cell :=
  ⟨hkind, Entry.isFor_iff.mp h⟩

/-- A ticket has no times in the clear. -/
theorem Entry.readTicket_ne_noSuchTime (entry : Entry) : entry.readTicket ≠ .error .noSuchTime :=
  fun h ↦ ((Ticket.traced False).shows (run_eq_error_of_front h)).1

/-- What can be selected is among the entries, serves the cell and stores a ticket. -/
theorem of_mem_eligible {cell : Cell} {entries found : List Entry}
    (h : (eligible cell entries).outcome = .ok found) {entry : Entry} (hmem : entry ∈ found) :
    entry ∈ entries ∧ entry.Serves cell ∧ ∃ ticket, entry.readTicket = .ok ticket := by
  induction entries generalizing found with
  | nil => cases h; cases hmem
  | cons first rest ih =>
      have hlater {found : List Entry} (hfound : (eligible cell rest).outcome = .ok found)
          (hmem : entry ∈ found) :
          entry ∈ first :: rest ∧ entry.Serves cell ∧ ∃ ticket, entry.readTicket = .ok ticket := by
        obtain ⟨hentry, hserves⟩ := ih hfound hmem
        exact ⟨List.mem_cons_of_mem _ hentry, hserves⟩
      rw [eligible] at h
      split at h
      next => exact hlater h hmem
      next hfor =>
        rw [Bool.or_eq_true, not_or, Bool.not_eq_true, Bool.not_eq_true', Bool.not_eq_false] at hfor
        split at h
        next ticket hticket =>
          obtain ⟨later, hrest, hcons⟩ := Report.bind_outcome_eq_ok_iff.mp h
          cases hcons
          rcases List.mem_cons.mp hmem with rfl | hmem
          · exact ⟨List.mem_cons_self, Entry.serves_of_isFor hfor.1 hfor.2, ticket, hticket⟩
          · exact hlater hrest hmem
        next => exact hlater h hmem
        next => cases h

/-- An entry breaks the selection for a cell off: it is for the cell, and a field of its ticket
overruns. -/
def Entry.BreaksOff (cell : Cell) (entry : Entry) : Prop :=
  entry.isConfiguration = false ∧ entry.isFor cell = true ∧ entry.readTicket = .error .overrun

theorem Entry.not_breaksOff_of_isEligible {cell : Cell} {entry : Entry}
    (h : entry.IsEligible cell) : ¬entry.BreaksOff cell := by
  rintro ⟨-, -, hticket⟩
  have hhas := h.2.2
  rw [hasTicket, hticket] at hhas
  cases hhas

/-- What one entry adds: it breaks the selection off, it is found, or it is passed over. -/
theorem outcome_eligible_cons (cell : Cell) (entry : Entry) (rest : List Entry) :
    (entry.BreaksOff cell ∧ (eligible cell (entry :: rest)).outcome = .error .breakdown) ∨
    (entry.IsEligible cell ∧ (eligible cell (entry :: rest)).outcome =
      (entry :: ·) <$> (eligible cell rest).outcome) ∨
    (¬entry.IsEligible cell ∧ ¬entry.BreaksOff cell ∧
      (eligible cell (entry :: rest)).outcome = (eligible cell rest).outcome) := by
  rw [eligible]
  by_cases hskip : (entry.isConfiguration || !entry.isFor cell) = true
  case pos =>
    have hnot (hkind : entry.isConfiguration = false) : entry.isFor cell ≠ true := by
      intro hfor
      simp [hkind, hfor] at hskip
    rw [if_pos hskip]
    exact .inr (.inr ⟨fun h ↦ hnot h.1 h.2.1, fun h ↦ hnot h.1 h.2.1, rfl⟩)
  case neg =>
    rw [if_neg hskip]
    rw [Bool.or_eq_true, not_or, Bool.not_eq_true, Bool.not_eq_true', Bool.not_eq_false] at hskip
    cases hticket : entry.readTicket with
    | ok ticket =>
        have hhas : entry.hasTicket = true := by
          rw [Entry.hasTicket, hticket]
          rfl
        refine .inr (.inl ⟨⟨hskip.1, hskip.2, hhas⟩, ?_⟩)
        rw [Report.outcome_bind]
        rfl
    | error fault =>
        have hnot : ¬entry.IsEligible cell := by
          rintro ⟨-, -, hhas⟩
          rw [Entry.hasTicket, hticket] at hhas
          cases hhas
        cases fault with
        | malformed =>
            refine .inr (.inr ⟨hnot, fun h ↦ ?_, rfl⟩)
            cases hticket.symm.trans h.2.2
        | noSuchTime => exact absurd hticket entry.readTicket_ne_noSuchTime
        | overrun => exact .inl ⟨⟨hskip.1, hskip.2, hticket⟩, rfl⟩

/-- If no entry breaks the selection off, all eligible entries are found, in their order. -/
theorem outcome_eligible {cell : Cell} {entries : List Entry}
    (h : ∀ entry ∈ entries, ¬entry.BreaksOff cell) :
    (eligible cell entries).outcome = .ok (entries.filter fun entry ↦ entry.IsEligible cell) := by
  induction entries with
  | nil => rfl
  | cons entry rest ih =>
      have hrest := ih fun other hother ↦ h other (List.mem_cons_of_mem _ hother)
      rcases outcome_eligible_cons cell entry rest with
        ⟨hbreaks, -⟩ | ⟨heligible, hcons⟩ | ⟨hnot, -, hcons⟩
      · exact absurd hbreaks (h entry List.mem_cons_self)
      · rw [hcons, hrest, List.filter_cons_of_pos (by simpa using heligible)]
        rfl
      · rw [hcons, hrest, List.filter_cons_of_neg (by simpa using hnot)]

/-- An entry that breaks off leaves no outcome but this one. -/
theorem outcome_eligible_of_breaksOff {cell : Cell} {entries : List Entry} {entry : Entry}
    (hentry : entry ∈ entries) (h : entry.BreaksOff cell) :
    (eligible cell entries).outcome = .error .breakdown := by
  induction entries with
  | nil => cases hentry
  | cons first rest ih =>
      rcases outcome_eligible_cons cell first rest with
        ⟨-, hcons⟩ | ⟨heligible, hcons⟩ | ⟨-, hbreaks, hcons⟩
      · exact hcons
      · rcases List.mem_cons.mp hentry with rfl | hrest
        · exact absurd h (Entry.not_breaksOff_of_isEligible heligible)
        · rw [hcons, ih hrest]
          rfl
      · rcases List.mem_cons.mp hentry with rfl | hrest
        · exact absurd h hbreaks
        · rw [hcons, ih hrest]

/-- Of the eligible entries that end last, the last one. -/
def Cache.latestFor (cell : Cell) (cache : Cache) : Option Entry :=
  lastMaximum Entry.endTime (fun left right ↦ left ≤ right)
    (cache.entries.filter fun entry ↦ entry.IsEligible cell)

theorem Cache.outcome_select {cache : Cache} {cell : Cell}
    (h : ∀ entry ∈ cache.entries, ¬entry.BreaksOff cell) :
    (cache.select cell).outcome = .ok ((cache.latestFor cell).map Entry.credential) := by
  rw [select, Report.outcome_bind, outcome_eligible h]
  rfl

theorem Cache.outcome_select_of_breaksOff {cache : Cache} {cell : Cell} {entry : Entry}
    (hentry : entry ∈ cache.entries) (h : entry.BreaksOff cell) :
    (cache.select cell).outcome = .error .breakdown := by
  rw [select, Report.outcome_bind, outcome_eligible_of_breaksOff hentry h]
  rfl

/-- The credential that a cache has for a cell is that of one of its entries. -/
theorem Cache.select_eq_ok {cache : Cache} {cell : Cell} {credential : Credential}
    (h : (cache.select cell).outcome = .ok (some credential)) :
    ∃ entry ∈ cache.entries, entry.Serves cell ∧
      (∃ ticket, entry.readTicket = .ok ticket) ∧ credential = entry.credential := by
  obtain ⟨found, hfound, hselect⟩ := Report.bind_outcome_eq_ok_iff.mp h
  rw [Report.outcome_note_bind, Report.outcome_pure, Except.ok.injEq, Option.map_eq_some_iff]
    at hselect
  obtain ⟨entry, hlatest, rfl⟩ := hselect
  obtain ⟨hentry, hserves, hticket⟩ := of_mem_eligible hfound (mem_of_lastMaximum hlatest)
  exact ⟨entry, hentry, hserves, hticket, rfl⟩

end Ccache

/-! ## Tickets of a message -/

/-- Some information names the service of a cell in its realm, up to the lower-case mapping. -/
def Kerberos.CredInfo.Serves (cell : Cell) (info : CredInfo) : Prop :=
  ∃ realm principal service name, info.serviceRealm = some realm ∧ info.service = some principal ∧
    principal.components = [service, name] ∧ Casing.lower realm = Casing.lower cell.realm ∧
    Casing.lower service = Casing.lower "afs" ∧ Casing.lower name = Casing.lower cell.name

namespace DescribedTicket

theorem map_lower_eq_iff {left right : List String} :
    left.map Casing.lower = right.map Casing.lower ↔
      List.Forall₂ (fun l r ↦ Casing.lower l = Casing.lower r) left right := by
  rw [← List.forall₂_eq_eq_eq, List.forall₂_map_left_iff, List.forall₂_map_right_iff]

theorem sameComponents_iff {left right : List String} :
    sameComponents left right = true ↔ left.map Casing.lower = right.map Casing.lower := by
  rw [map_lower_eq_iff, List.forall₂_iff_zip, sameComponents]
  simp [Casing.sameLower]

theorem isInRealm_iff {realm : String} {entry : DescribedTicket} :
    entry.isInRealm realm = true ↔ ∃ serviceRealm, entry.info.serviceRealm = some serviceRealm ∧
      Casing.lower serviceRealm = Casing.lower realm := by
  rw [isInRealm, Option.any_eq_true]
  simp only [Casing.sameLower, beq_iff_eq]

theorem isForService_iff {components : List String} {entry : DescribedTicket} :
    entry.isForService components = true ↔ ∃ service, entry.info.service = some service ∧
      service.components.map Casing.lower = components.map Casing.lower := by
  rw [isForService, Option.any_eq_true]
  simp only [sameComponents_iff]

theorem serves_iff {cell : Cell} {entry : DescribedTicket} :
    entry.info.Serves cell ↔
      entry.isInRealm cell.realm = true ∧ entry.isForService cell.service = true := by
  rw [isInRealm_iff, isForService_iff]
  constructor
  · rintro ⟨realm, principal, service, name, hrealm, hprincipal, hcomponents, hlower, hafs, hname⟩
    refine ⟨⟨realm, hrealm, hlower⟩, principal, hprincipal, ?_⟩
    rw [hcomponents, List.map_cons, List.map_cons, List.map_nil, hafs, hname]
    rfl
  · rintro ⟨⟨realm, hrealm, hlower⟩, principal, hprincipal, hparts⟩
    rw [Cell.service, List.map_cons, List.map_cons, List.map_nil, List.map_eq_cons_iff] at hparts
    obtain ⟨service, rest, hcomponents, hafs, hrest⟩ := hparts
    obtain ⟨name, rfl, hname⟩ := List.map_eq_singleton_iff.mp hrest
    exact ⟨realm, principal, service, name, hrealm, hprincipal, hcomponents, hlower, hafs, hname⟩

instance (cell : Cell) (entry : DescribedTicket) : Decidable (entry.info.Serves cell) :=
  decidable_of_iff _ serves_iff.symm

/-- The credential of a ticket has the seconds of the end of the ticket, neither wrapped nor cut. -/
theorem credential_eq_ok {entry : DescribedTicket} {credential : Credential}
    (h : entry.credential = .ok credential) :
    ∃ time, entry.info.endTime = some time ∧ (credential.expiry.toNat : Int) = time.toSeconds ∧
      credential.key = ⟨entry.info.key.etype, entry.info.key.octets⟩ ∧
      credential.ticket = entry.ticket.encode := by
  unfold DescribedTicket.credential at h
  split at h
  next => cases h
  next seconds hseconds =>
    obtain ⟨time, htime, rfl⟩ := Option.map_eq_some_iff.mp hseconds
    split at h
    next hrange =>
      cases h
      refine ⟨time, htime, ?_, rfl, rfl⟩
      have hlt : time.toSeconds.toNat < UInt32.size := by omega
      rw [UInt32.toNat_ofNat_of_lt' hlt, Int.toNat_of_nonneg hrange.1]
    next => cases h

end DescribedTicket

namespace DescribedTickets

variable {tickets : List Ticket} {infos : List CredInfo} {entry : DescribedTicket}

theorem forCell_eq_filter (cell : Cell) (entries : DescribedTickets) :
    entries.forCell cell = entries.filter fun entry ↦ entry.info.Serves cell := by
  rw [forCell, forService, inRealm, List.filter_filter]
  apply List.filter_congr
  intro entry _
  rw [Bool.eq_iff_iff, decide_eq_true_iff, Bool.and_eq_true, and_comm, DescribedTicket.serves_iff]

theorem mem_forCell_iff {cell : Cell} {entries : DescribedTickets} :
    entry ∈ entries.forCell cell ↔ entry ∈ entries ∧ entry.info.Serves cell := by
  rw [forCell_eq_filter, List.mem_filter, decide_eq_true_iff]

/-- A pair stands where its ticket and its information stand. -/
theorem getElem?_pair_eq_some_iff {index : Nat} :
    (pair tickets infos)[index]? = some entry ↔
      tickets[index]? = some entry.ticket ∧ infos[index]? = some entry.info := by
  rw [pair, List.getElem?_map, Option.map_eq_some_iff]
  constructor
  · rintro ⟨⟨ticket, info⟩, hzip, rfl⟩
    exact List.getElem?_zip_eq_some.mp hzip
  · intro hboth
    exact ⟨(entry.ticket, entry.info), List.getElem?_zip_eq_some.mpr hboth, rfl⟩

/-- Tickets go with the information at their own place. -/
theorem mem_pair_iff :
    entry ∈ pair tickets infos ↔
      ∃ index : Nat, tickets[index]? = some entry.ticket ∧ infos[index]? = some entry.info := by
  rw [List.mem_iff_getElem?]
  exact exists_congr fun _ ↦ getElem?_pair_eq_some_iff

end DescribedTickets

/-- The credential that tickets have for a cell is that of one of them. -/
theorem CredentialFile.selectTicket_eq_ok {cell : Cell} {tickets : DescribedTickets}
    {credential : Credential} (h : (selectTicket tickets cell).outcome = .ok (some credential)) :
    ∃ entry ∈ tickets, entry.info.Serves cell ∧ entry.credential = .ok credential := by
  rw [selectTicket, Report.outcome_note_bind] at h
  split at h
  next => cases h
  next entry hlatest =>
    obtain ⟨hentry, hserves⟩ := DescribedTickets.mem_forCell_iff.mp (mem_of_lastMaximum hlatest)
    refine ⟨entry, hentry, hserves, ?_⟩
    cases hcredential : entry.credential with
    | ok value => rw [hcredential] at h; cases h; rfl
    | error fault => rw [hcredential] at h; cases h

end AfsToken
