import AfsToken.Proofs.Credential.Selection
import AfsToken.Proofs.Text.CaseForms

/-!
# The service of a cell in both formats

A cache and a message name a service by the same texts, and both disregard case when they look for
that of a cell.  But a cache disregards the case of ASCII letters alone, while a message compares
lower-case mappings.  So a service that is found in a cache is found in a message, and the converse
holds for a cell exactly if neither its realm nor its name has another form.
-/

namespace AfsToken

open AfsToken.Ccache AfsToken.Text AfsToken.Text.Casing

variable {cell : Cell} {realm : String} {components : List String}

/-! ## Comparisons -/

/-- A service is that of a cell, up to a comparison of texts. -/
def Cell.IsService (same : String → String → Prop) (cell : Cell) (realm : String)
    (components : List String) : Prop :=
  same realm cell.realm ∧ List.Forall₂ same components cell.service

namespace Cell.IsService

/-- Of two components one is the name of the service and the other the name of the cell. -/
theorem pair_iff {same : String → String → Prop} {service name : String} :
    cell.IsService same realm [service, name] ↔
      same realm cell.realm ∧ same service "afs" ∧ same name cell.name := by
  simp [IsService, Cell.service, Cell.serviceName]

/-- What a comparison finds is found by another one that is coarser on the texts that are
compared. -/
theorem imp {same coarser : String → String → Prop} (h : cell.IsService same realm components)
    (hcoarser : ∀ text ∈ realm :: components, ∀ wanted ∈ cell.realm :: cell.service,
      same text wanted → coarser text wanted) : cell.IsService coarser realm components := by
  obtain ⟨hlength, hparts⟩ := List.forall₂_iff_zip.mp h.2
  refine ⟨hcoarser _ List.mem_cons_self _ List.mem_cons_self h.1,
    List.forall₂_iff_zip.mpr ⟨hlength, fun hmem ↦ ?_⟩⟩
  obtain ⟨htext, hwanted⟩ := List.of_mem_zip hmem
  exact hcoarser _ (List.mem_cons_of_mem _ htext) _ (List.mem_cons_of_mem _ hwanted) (hparts hmem)

end Cell.IsService

/-! ## Entries -/

namespace Ccache.Entry

variable {entry : Entry}

/-- The service of an entry is written in the octets of some texts. -/
structure HasService (realm : String) (components : List String) (entry : Entry) : Prop where
  realm : entry.service.realm = Utf8.encode realm
  components : entry.service.components = components.map Utf8.encode

theorem names_encode (text wanted : String) :
    names (Utf8.encode text) wanted = sameAscii text wanted := by
  rw [names, Utf8.decodeLossy_encode]

theorem isFor_iff_of_hasService (h : HasService realm components entry) :
    entry.isFor cell = true ↔
      cell.IsService (fun text wanted ↦ sameAscii text wanted = true) realm components := by
  have hcomponents :
      List.Forall₂ (fun text wanted ↦ sameAscii text wanted = true) components cell.service ↔
      List.Forall₂ (fun octets wanted ↦ names octets wanted = true) entry.service.components
        cell.service := by
    rw [h.components, List.forall₂_map_left_iff]
    simp only [names_encode]
  rw [Cell.IsService, hcomponents, List.forall₂_iff_zip, isFor, h.realm, names_encode]
  simp only [Bool.and_eq_true, beq_iff_eq, List.all_eq_true, Prod.forall, and_assoc]

/-- An entry that names a service and holds nothing else. -/
def ofService (realm : String) (components : List String) : Entry where
  client := ⟨0, [], []⟩
  service := ⟨0, Utf8.encode realm, components.map Utf8.encode⟩
  keyType := 0
  key := []
  authTime := 0
  startTime := 0
  endTime := 0
  renewTill := 0
  isSessionKey := 0
  flags := 0
  addresses := []
  authorization := []
  ticket := []
  secondTicket := []

theorem hasService_ofService (realm : String) (components : List String) :
    HasService realm components (ofService realm components) :=
  ⟨rfl, rfl⟩

end Ccache.Entry

/-! ## Tickets -/

namespace DescribedTicket

variable {entry : DescribedTicket}

/-- The information of a ticket names a service by some texts. -/
structure HasService (realm : String) (components : List String) (entry : DescribedTicket) :
    Prop where
  realm : entry.info.serviceRealm = some realm
  components : ∃ nameType, entry.info.service = some ⟨nameType, components⟩

theorem serves_iff_of_hasService (h : HasService realm components entry) :
    entry.info.Serves cell ↔
      cell.IsService (fun text wanted ↦ lower text = lower wanted) realm components := by
  obtain ⟨nameType, hservice⟩ := h.components
  rw [serves_iff, isInRealm_iff, isForService_iff, h.realm, hservice, Cell.IsService,
    ← map_lower_eq_iff]
  simp only [Option.some.injEq, exists_eq_left']

/-- A ticket that is described by its service and a key. -/
def ofService (realm : String) (components : List String) : DescribedTicket where
  ticket := {
    version := 5
    realm := realm
    service := ⟨2, components⟩
    encrypted := ⟨1, none, []⟩ }
  info := {
    key := ⟨1, []⟩
    clientRealm := none
    client := none
    flags := none
    authTime := none
    startTime := none
    endTime := none
    renewTill := none
    serviceRealm := some realm
    service := some ⟨2, components⟩
    addresses := none }

theorem hasService_ofService (realm : String) (components : List String) :
    HasService realm components (ofService realm components) :=
  ⟨rfl, 2, rfl⟩

end DescribedTicket

/-! ## The formats -/

namespace Cell

/-- Both formats find the same services for a cell: an entry and a ticket that name one service by
the same texts are found together or not at all. -/
def FindsAlike (cell : Cell) : Prop :=
  ∀ (realm : String) (components : List String) (entry : Entry) (ticket : DescribedTicket)
    (tickets : DescribedTickets), entry.HasService realm components →
      ticket.HasService realm components → ticket ∈ tickets →
        (entry.isFor cell = true ↔ ticket ∈ tickets.forCell cell)

theorem mem_forCell_iff_of_hasService {ticket : DescribedTicket} {tickets : DescribedTickets}
    (h : ticket.HasService realm components) (hmem : ticket ∈ tickets) :
    ticket ∈ tickets.forCell cell ↔
      cell.IsService (fun text wanted ↦ lower text = lower wanted) realm components := by
  rw [DescribedTickets.mem_forCell_iff, and_iff_right hmem,
    DescribedTicket.serves_iff_of_hasService h]

theorem findsAlike_iff_isService :
    cell.FindsAlike ↔ ∀ realm components,
      cell.IsService (fun text wanted ↦ sameAscii text wanted = true) realm components ↔
        cell.IsService (fun text wanted ↦ lower text = lower wanted) realm components := by
  constructor
  · intro h realm components
    have hentry := Entry.hasService_ofService realm components
    have hticket := DescribedTicket.hasService_ofService realm components
    have hmem := List.mem_singleton_self (DescribedTicket.ofService realm components)
    rw [← Entry.isFor_iff_of_hasService hentry, ← mem_forCell_iff_of_hasService hticket hmem]
    exact h realm components _ _ _ hentry hticket hmem
  · intro h realm components entry ticket tickets hentry hticket hmem
    rw [Entry.isFor_iff_of_hasService hentry, mem_forCell_iff_of_hasService hticket hmem]
    exact h realm components

theorem isService_lower_of_sameAscii
    (h : cell.IsService (fun text wanted ↦ sameAscii text wanted = true) realm components) :
    cell.IsService (fun text wanted ↦ lower text = lower wanted) realm components :=
  h.imp fun _ _ _ _ ↦ lower_eq_of_sameAscii

/-- The comparisons agree for a cell exactly if none of its texts has another form. -/
theorem findsAlike_iff_not_hasOtherForm :
    cell.FindsAlike ↔ ¬HasOtherForm cell.realm ∧ ¬HasOtherForm cell.name := by
  rw [findsAlike_iff_isService]
  constructor
  · intro h
    constructor
    -- A service that is named by the other form is found in a message alone.
    · rintro ⟨other, hlower, hother⟩
      have hsame := (h other cell.service).mpr (IsService.pair_iff.mpr ⟨hlower, rfl, rfl⟩)
      exact Bool.false_ne_true (hother.symm.trans hsame.1)
    · rintro ⟨other, hlower, hother⟩
      have hsame := (h cell.realm ["afs", other]).mpr (IsService.pair_iff.mpr ⟨rfl, rfl, hlower⟩)
      exact Bool.false_ne_true (hother.symm.trans (IsService.pair_iff.mp hsame).2.2)
  · rintro ⟨hrealm, hname⟩ realm components
    have hafs : ¬HasOtherForm "afs" := by
      rw [hasOtherForm_iff_of_isAscii (by decide)]
      decide
    have hnone : ∀ wanted ∈ cell.realm :: cell.service, ¬HasOtherForm wanted := by
      simp [Cell.service, Cell.serviceName, hrealm, hname, hafs]
    exact ⟨isService_lower_of_sameAscii, fun h ↦ h.imp fun _ _ wanted hwanted ↦
      sameAscii_of_not_hasOtherForm (hnone wanted hwanted)⟩

/-- What is found for a cell in a cache is found in a message.  Both find alike exactly if neither
the realm of the cell nor its name has another form, which for texts of ASCII means that they do not
have the letter `k`. -/
theorem findsAlike_unless_otherForm (cell : Cell) :
    (∀ (realm : String) (components : List String) (entry : Entry) (ticket : DescribedTicket)
      (tickets : DescribedTickets), entry.HasService realm components →
        ticket.HasService realm components → ticket ∈ tickets →
          entry.isFor cell = true → ticket ∈ tickets.forCell cell) ∧
    (cell.FindsAlike ↔ ¬HasOtherForm cell.realm ∧ ¬HasOtherForm cell.name) ∧
    (IsAscii cell.realm → IsAscii cell.name →
      (cell.FindsAlike ↔ 'k' ∉ cell.realm.toList ++ cell.name.toList ∧
        'K' ∉ cell.realm.toList ++ cell.name.toList)) := by
  refine ⟨?_, findsAlike_iff_not_hasOtherForm, ?_⟩
  · intro realm components entry ticket tickets hentry hticket hmem hfound
    rw [mem_forCell_iff_of_hasService hticket hmem]
    exact isService_lower_of_sameAscii ((Entry.isFor_iff_of_hasService hentry).mp hfound)
  · intro hrealm hname
    rw [findsAlike_iff_not_hasOtherForm, hasOtherForm_iff_of_isAscii hrealm,
      hasOtherForm_iff_of_isAscii hname, List.mem_append, List.mem_append]
    simp only [not_or, and_and_and_comm]

theorem findsAlike_of_exampleCom : (⟨"example.com", "EXAMPLE.COM"⟩ : Cell).FindsAlike := by
  have hrealm : IsAscii "EXAMPLE.COM" := by decide
  have hname : IsAscii "example.com" := by decide
  exact ((findsAlike_unless_otherForm ⟨"example.com", "EXAMPLE.COM"⟩).2.2 hrealm hname).mpr
    (by decide)

/-- The cell `ü` in the realm `Ü` has a service that a message finds and a cache does not, for the
letter is not one of ASCII. -/
theorem not_findsAlike_of_umlaut :
    isName "ü" = true ∧ make "ü" none = ⟨"ü", "Ü"⟩ ∧
      (Entry.ofService "Ü" ["afs", "Ü"]).isFor ⟨"ü", "Ü"⟩ = false ∧
      DescribedTicket.ofService "Ü" ["afs", "Ü"] ∈
        DescribedTickets.forCell ⟨"ü", "Ü"⟩ [DescribedTicket.ofService "Ü" ["afs", "Ü"]] ∧
      ¬(⟨"ü", "Ü"⟩ : Cell).FindsAlike := by
  have hcache : (Entry.ofService "Ü" ["afs", "Ü"]).isFor ⟨"ü", "Ü"⟩ = false := by decide +kernel
  have hmessage : DescribedTicket.ofService "Ü" ["afs", "Ü"] ∈
      DescribedTickets.forCell ⟨"ü", "Ü"⟩ [DescribedTicket.ofService "Ü" ["afs", "Ü"]] := by
    decide
  refine ⟨by decide, by decide, hcache, hmessage, fun halike ↦ ?_⟩
  have hfound := (halike "Ü" ["afs", "Ü"] _ _ _ (Entry.hasService_ofService _ _)
    (DescribedTicket.hasService_ofService _ _) (List.mem_singleton_self _)).mpr hmessage
  exact Bool.false_ne_true (hcache.symm.trans hfound)

end Cell

end AfsToken
