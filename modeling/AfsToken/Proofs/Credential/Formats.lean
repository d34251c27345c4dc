import AfsToken.Credential.CredentialFile
import AfsToken.Proofs.Credential.LastMaximum
import AfsToken.Proofs.Credential.ServiceNames
import AfsToken.Proofs.Time.Civil

/-!
# One selection for both formats

A credential can be kept in a cache and in a message, if its service is named in ASCII and its
numbers fit the fields of a cache.  The two formats have selections of their own: one disregards the
case of ASCII letters and the other compares lower-case mappings, one orders unsigned ends and the
other optional signed ones.  On the same credentials in the same order both take the same one.
-/

namespace AfsToken

open AfsToken.Asn1 AfsToken.Ccache AfsToken.Kerberos AfsToken.Text AfsToken.Time

/-- A credential that both formats can hold.  Its service is named in ASCII and is not the place
where a cache keeps its configuration, its encryption type fits 16 bits, its end fits 32 bits, and
its ticket is read back from what is written of it. -/
structure PortableCredential where
  realm : String
  components : List String
  etype : Enctype
  key : Octets
  endTime : UInt32
  ticket : Ticket
  ascii_realm : IsAscii realm
  realm_ne : realm ≠ "X-CACHECONF:"
  ascii_components : ∀ component ∈ components, IsAscii component
  least_etype : -32768 ≤ etype.toInt
  etype_lt : etype.toInt < 32768
  readsBack : Reader.front Ticket.read ticket.encode = .ok ticket

namespace PortableCredential

/-- The entry of a cache that keeps a credential.  Of the encryption type it has the low 16 bits. -/
structure IsStoredAs (credential : PortableCredential) (entry : Entry) : Prop where
  realm : entry.service.realm = Utf8.encode credential.realm
  components : entry.service.components = credential.components.map Utf8.encode
  keyType : entry.keyType = credential.etype.toInt16.toUInt16
  key : entry.key = credential.key
  endTime : entry.endTime = credential.endTime
  ticket : entry.ticket = credential.ticket.encode

/-- The ticket of a message that keeps a credential, with the information that describes it. -/
structure IsDescribedAs (credential : PortableCredential) (entry : DescribedTicket) : Prop where
  realm : entry.info.serviceRealm = some credential.realm
  service : ∃ nameType, entry.info.service = some ⟨nameType, credential.components⟩
  key : entry.info.key = ⟨credential.etype, credential.key⟩
  endTime : ∃ time, entry.info.endTime = some time ∧ time.toSeconds = credential.endTime.toNat
  ticket : entry.ticket = credential.ticket

/-- Whether a credential is for the service of a cell, up to the case of ASCII letters. -/
def isFor (cell : Cell) (credential : PortableCredential) : Bool :=
  Casing.sameAscii credential.realm cell.realm &&
    match credential.components with
    | [service, name] => Casing.sameAscii service "afs" && Casing.sameAscii name cell.name
    | _ => false

/-- What a run takes of a credential. -/
def taken (credential : PortableCredential) : Credential where
  key := ⟨credential.etype, credential.key⟩
  ticket := credential.ticket.encode
  expiry := credential.endTime

variable {credential : PortableCredential} {cell : Cell}

theorem isFor_iff : credential.isFor cell = true ↔
    cell.IsService (fun text wanted ↦ Casing.sameAscii text wanted = true) credential.realm
      credential.components := by
  rw [isFor, Bool.and_eq_true, Cell.IsService]
  apply and_congr_right
  intro _
  split
  next service name hcomponents => simp [hcomponents, Cell.service, Cell.serviceName]
  next hother =>
    refine iff_of_false Bool.false_ne_true fun h ↦ ?_
    obtain ⟨service, name, hcomponents⟩ := List.length_eq_two.mp h.length_eq
    exact hother service name hcomponents

/-! ## In a cache -/

/-- The entry that keeps a credential and nothing else. -/
def toEntry (credential : PortableCredential) : Entry where
  client := ⟨0, [], []⟩
  service := ⟨0, Utf8.encode credential.realm, credential.components.map Utf8.encode⟩
  keyType := credential.etype.toInt16.toUInt16
  key := credential.key
  authTime := 0
  startTime := 0
  endTime := credential.endTime
  renewTill := 0
  isSessionKey := 0
  flags := 0
  addresses := []
  authorization := []
  ticket := credential.ticket.encode
  secondTicket := []

theorem isStoredAs_toEntry (credential : PortableCredential) :
    credential.IsStoredAs credential.toEntry where
  realm := rfl
  components := rfl
  keyType := rfl
  key := rfl
  endTime := rfl
  ticket := rfl

namespace IsStoredAs

variable {entry : Entry} (h : credential.IsStoredAs entry)

include h

theorem isConfiguration_eq_false : entry.isConfiguration = false := by
  have hconfiguration : configurationRealm = Utf8.encode "X-CACHECONF:" := by decide
  rw [Entry.isConfiguration, h.realm, hconfiguration, beq_eq_false_iff_ne]
  intro hsame
  have hrealm := congrArg Utf8.decode? hsame
  rw [Utf8.decode?_encode, Utf8.decode?_encode] at hrealm
  exact credential.realm_ne (Option.some.inj hrealm)

theorem readTicket_eq_ok : entry.readTicket = .ok credential.ticket := by
  rw [Entry.readTicket, h.ticket, credential.readsBack]

theorem isEligible_iff : entry.IsEligible cell ↔ credential.isFor cell = true := by
  have hticket : entry.hasTicket = true := by
    rw [Entry.hasTicket, h.readTicket_eq_ok]
    rfl
  rw [Entry.IsEligible, and_iff_right h.isConfiguration_eq_false, and_iff_left hticket,
    Entry.isFor_iff_of_hasService ⟨h.realm, h.components⟩, PortableCredential.isFor_iff]

theorem credential_eq : entry.credential = credential.taken := by
  -- A type that fits 16 bits is what its low 16 bits are as a signed number.
  have hetype : credential.etype.toInt16.toInt32 = credential.etype := by
    apply Int32.toInt_inj.mp
    have hleast := credential.least_etype
    have hlt := credential.etype_lt
    rw [Int16.toInt_toInt32, Int32.toInt_toInt16]
    exact Int.bmod_eq_of_le (by omega) (by omega)
  rw [Entry.credential, h.keyType, h.key, h.ticket, h.endTime, Int16.toInt16_toUInt16, hetype,
    taken]

end IsStoredAs

/-! ## In a message -/

/-- The ticket of a credential, with no other information than that of the credential. -/
def toDescribedTicket (credential : PortableCredential) : DescribedTicket where
  ticket := credential.ticket
  info := {
    key := ⟨credential.etype, credential.key⟩
    clientRealm := none
    client := none
    flags := none
    authTime := none
    startTime := none
    endTime := some (Civil.ofSeconds credential.endTime.toNat)
    renewTill := none
    serviceRealm := some credential.realm
    service := some ⟨2, credential.components⟩
    addresses := none }

theorem isDescribedAs_toDescribedTicket (credential : PortableCredential) :
    credential.IsDescribedAs credential.toDescribedTicket where
  realm := rfl
  service := ⟨2, rfl⟩
  key := rfl
  endTime := ⟨_, rfl, Civil.toSeconds_ofSeconds _⟩
  ticket := rfl

namespace IsDescribedAs

variable {entry : DescribedTicket} (h : credential.IsDescribedAs entry)

include h

theorem serves_iff (hname : IsAscii cell.name) (hrealm : IsAscii cell.realm) :
    entry.info.Serves cell ↔ credential.isFor cell = true := by
  have hasciiText : ∀ text ∈ credential.realm :: credential.components, IsAscii text :=
    List.forall_mem_cons.mpr ⟨credential.ascii_realm, credential.ascii_components⟩
  have hasciiCell : ∀ wanted ∈ cell.realm :: cell.service, IsAscii wanted := by
    have hafs : IsAscii "afs" := by decide
    simp [Cell.service, Cell.serviceName, hrealm, hname, hafs]
  rw [DescribedTicket.serves_iff_of_hasService ⟨h.realm, h.service⟩, isFor_iff]
  constructor
  · intro hlower
    exact hlower.imp fun text htext wanted hwanted ↦
      (Casing.lower_eq_lower_iff_of_isAscii (hasciiText text htext) (hasciiCell wanted hwanted)).mp
  · exact Cell.isService_lower_of_sameAscii

theorem endSeconds_eq : entry.endSeconds = some (credential.endTime.toNat : Int) := by
  obtain ⟨time, htime, hseconds⟩ := h.endTime
  rw [DescribedTicket.endSeconds, htime, Option.map_some, hseconds]

theorem credential_eq : entry.credential = .ok credential.taken := by
  have hlt := credential.endTime.toNat_lt
  have hrange : (0 : Int) ≤ credential.endTime.toNat ∧
      (credential.endTime.toNat : Int) < UInt32.size := by
    constructor
    · omega
    · exact_mod_cast hlt
  rw [DescribedTicket.credential, h.endSeconds_eq]
  simp only [if_pos hrange, h.key, h.ticket, Int.toNat_natCast, UInt32.ofNat_toNat]
  rfl

end IsDescribedAs

/-! ## The selections -/

variable {credentials : List PortableCredential}

/-- The last of the credentials for a cell that end last. -/
def latestFor (cell : Cell) (credentials : List PortableCredential) : Option PortableCredential :=
  lastMaximum endTime (fun left right ↦ left ≤ right) (credentials.filter (·.isFor cell))

/-- The credential that is selected has its place in the list. -/
theorem exists_split_of_latestFor (h : latestFor cell credentials = some credential) :
    ∃ front back, credentials = front ++ credential :: back ∧
      IsLastMaximum endTime (fun left right ↦ left ≤ right) (·.isFor cell) front credential
        back :=
  exists_split_of_lastMaximum_unsigned h

theorem latestFor_eq_none_iff :
    latestFor cell credentials = none ↔
      ∀ credential ∈ credentials, credential.isFor cell = false := by
  rw [latestFor, lastMaximum_eq_none_iff, List.filter_eq_nil_iff]
  simp

/-- A cache selects the last of the credentials for a cell that end last. -/
theorem outcome_select {cache : Cache} (h : List.Forall₂ IsStoredAs credentials cache.entries) :
    (cache.select cell).outcome = .ok ((latestFor cell credentials).map taken) := by
  have hreadable : ∀ entry ∈ cache.entries, ¬entry.BreaksOff cell := by
    rintro entry hentry ⟨-, -, hfault⟩
    obtain ⟨index, hindex, rfl⟩ := List.getElem_of_mem hentry
    have hstored := h.get (h.length_eq ▸ hindex) hindex
    rw [List.get_eq_getElem, List.get_eq_getElem] at hstored
    cases hstored.readTicket_eq_ok.symm.trans hfault
  have heligible : List.Forall₂ IsStoredAs (credentials.filter (·.isFor cell))
      (cache.entries.filter fun entry ↦ entry.IsEligible cell) :=
    List.rel_filter (fun _ _ hstored ↦ by simp [hstored.isEligible_iff]) h
  have hlatest : Option.Rel IsStoredAs (latestFor cell credentials) (cache.latestFor cell) :=
    rel_lastMaximum (fun hleft hright ↦ by rw [hleft.endTime, hright.endTime]) heligible
  rw [Cache.outcome_select hreadable]
  generalize latestFor cell credentials = selected at hlatest ⊢
  generalize cache.latestFor cell = stored at hlatest ⊢
  cases hlatest with
  | none => rfl
  | some hstored => rw [Option.map_some, Option.map_some, hstored.credential_eq]

/-- Tickets give the last of the credentials for a cell that end last. -/
theorem outcome_selectTicket {tickets : DescribedTickets}
    (h : List.Forall₂ IsDescribedAs credentials tickets) (hname : IsAscii cell.name)
    (hrealm : IsAscii cell.realm) :
    (CredentialFile.selectTicket tickets cell).outcome =
      .ok ((latestFor cell credentials).map taken) := by
  have hfor : List.Forall₂ IsDescribedAs (credentials.filter (·.isFor cell))
      (tickets.forCell cell) := by
    rw [DescribedTickets.forCell_eq_filter]
    exact List.rel_filter
      (fun _ _ hdescribed ↦ by simp [hdescribed.serves_iff hname hrealm]) h
  have hlatest : Option.Rel IsDescribedAs (latestFor cell credentials)
      (tickets.forCell cell).latest :=
    rel_lastMaximum
      (fun hleft hright ↦ by
        rw [hleft.endSeconds_eq, hright.endSeconds_eq]
        simp [DescribedTicket.endsBy, UInt32.le_iff_toNat_le])
      hfor
  rw [CredentialFile.selectTicket, Report.outcome_note_bind]
  generalize latestFor cell credentials = selected at hlatest ⊢
  generalize (tickets.forCell cell).latest = described at hlatest ⊢
  cases hlatest with
  | none => rfl
  | some hdescribed =>
      dsimp only
      rw [hdescribed.credential_eq]
      rfl

/-- Where the same credentials are kept in a cache and in a message, for every cell that is named in
ASCII the two select alike.  Either no credential is for the cell, and neither has one.  Or both
take what stands at the place of the last of the credentials that end last. -/
theorem select_same_place {cache : Cache} {tickets : DescribedTickets}
    (hcache : List.Forall₂ IsStoredAs credentials cache.entries)
    (htickets : List.Forall₂ IsDescribedAs credentials tickets)
    (hname : IsAscii cell.name) (hrealm : IsAscii cell.realm) :
    ((∀ credential ∈ credentials, credential.isFor cell = false) ∧
      (cache.select cell).outcome = .ok none ∧
      (CredentialFile.selectTicket tickets cell).outcome = .ok none) ∨
    ∃ front credential back entry described,
      credentials = front ++ credential :: back ∧
      IsLastMaximum endTime (fun left right ↦ left ≤ right) (·.isFor cell) front credential back ∧
      cache.entries[front.length]? = some entry ∧
      tickets[front.length]? = some described ∧
      entry.credential = credential.taken ∧
      described.credential = .ok credential.taken ∧
      (cache.select cell).outcome = .ok (some credential.taken) ∧
      (CredentialFile.selectTicket tickets cell).outcome = .ok (some credential.taken) := by
  rw [outcome_select hcache, outcome_selectTicket htickets hname hrealm]
  cases hlatest : latestFor cell credentials with
  | none => exact .inl ⟨latestFor_eq_none_iff.mp hlatest, rfl, rfl⟩
  | some credential =>
      obtain ⟨front, back, rfl, hplace⟩ := exists_split_of_latestFor hlatest
      obtain ⟨entry, hentry, hstored⟩ := exists_getElem?_of_forall₂ hcache
      obtain ⟨described, hticket, hdescribed⟩ := exists_getElem?_of_forall₂ htickets
      exact .inr ⟨front, credential, back, entry, described, rfl, hplace, hentry, hticket,
        hstored.credential_eq, hdescribed.credential_eq, rfl, rfl⟩

/-- A credential for the cell `a` in the realm `A` that ends at the start of 14 November 2023. -/
def forCellA (etype : Int16) (key : Octets) : PortableCredential where
  realm := "A"
  components := ["AFS", "a"]
  etype := etype.toInt32
  key := key
  endTime := 1699920000
  ticket := {
    version := 5
    realm := "A"
    service := ⟨2, ["afs", "a"]⟩
    encrypted := ⟨1, none, [7]⟩ }
  ascii_realm := by decide
  realm_ne := by decide
  ascii_components := by decide
  least_etype := by
    rw [Int16.toInt_toInt32]
    exact etype.le_toInt
  etype_lt := by
    rw [Int16.toInt_toInt32]
    exact etype.toInt_lt
  readsBack := by decide +kernel

/-- Of two credentials that end together both formats give the second one. -/
theorem select_same_place_of_forCellA :
    ((Cache.mk ⟨0, []⟩ ⟨0, [], []⟩
      ([forCellA 17 [1], forCellA (-2) [2]].map toEntry)).select ⟨"a", "A"⟩).outcome =
        .ok (some (forCellA (-2) [2]).taken) ∧
    (CredentialFile.selectTicket
      ([forCellA 17 [1], forCellA (-2) [2]].map toDescribedTicket) ⟨"a", "A"⟩).outcome =
        .ok (some (forCellA (-2) [2]).taken) := by
  have hcache : List.Forall₂ IsStoredAs [forCellA 17 [1], forCellA (-2) [2]]
      (Cache.mk ⟨0, []⟩ ⟨0, [], []⟩
        ([forCellA 17 [1], forCellA (-2) [2]].map toEntry)).entries :=
    .cons (isStoredAs_toEntry _) (.cons (isStoredAs_toEntry _) .nil)
  have htickets : List.Forall₂ IsDescribedAs [forCellA 17 [1], forCellA (-2) [2]]
      ([forCellA 17 [1], forCellA (-2) [2]].map toDescribedTicket) :=
    .cons (isDescribedAs_toDescribedTicket _) (.cons (isDescribedAs_toDescribedTicket _) .nil)
  have hname : IsAscii (⟨"a", "A"⟩ : Cell).name := by decide
  have hrealm : IsAscii (⟨"a", "A"⟩ : Cell).realm := by decide
  rcases select_same_place hcache htickets hname hrealm with
    ⟨hnone, -⟩ | ⟨front, credential, back, _, _, hsplit, hplace, -, -, -, -, hboth⟩
  · cases hnone _ List.mem_cons_self
  -- The first credential has not the place, for the second one does not end before it.
  match front with
  | [] =>
      cases hsplit
      cases hplace.smaller _ List.mem_cons_self rfl
  | [first] =>
      cases hsplit
      exact hboth
  | first :: second :: rest => simp at hsplit

end PortableCredential

end AfsToken
