import AfsToken.Proofs.Ccache.Reading
import AfsToken.Proofs.Credential.Selection
import AfsToken.Proofs.Kerberos.RoundTrip

/-!
# Messages as credential files

Tickets are filtered by the realm of their service, by its name, or by a cell.  Filters in sequence
keep the tickets that all of them admit, in their order, so neither the order of the filters nor
their repetition matters.  The tickets that are left can be written as a message.  They are read
back, each with its own information, and a file of that message gives the credentials that the
tickets give.  The one thing asked of the tickets is that their times are written in a form that is
read back, which holds of all years of four digits; the length of the message must be a number of 64
bits.
-/

namespace AfsToken

open AfsToken.Asn1 AfsToken.Ccache AfsToken.Kerberos AfsToken.Text

/-! ## Filters in sequence -/

/-- A choice of tickets by what their information says of the service. -/
inductive TicketFilter
  | realm (realm : String)
  | service (components : List String)
  | cell (cell : Cell)
  deriving DecidableEq, Repr

namespace TicketFilter

/-- The tickets that a filter keeps. -/
def apply (tickets : DescribedTickets) : TicketFilter → DescribedTickets
  | .realm wanted => tickets.inRealm wanted
  | .service wanted => tickets.forService wanted
  | .cell wanted => tickets.forCell wanted

/-- The tickets that are left behind filters in sequence. -/
def applyAll (filters : List TicketFilter) (tickets : DescribedTickets) : DescribedTickets :=
  filters.foldl apply tickets

/-- What a filter asks of a ticket: names that have the same lower case. -/
def Admits (entry : DescribedTicket) : TicketFilter → Prop
  | .realm wanted => ∃ serviceRealm, entry.info.serviceRealm = some serviceRealm ∧
      Casing.lower serviceRealm = Casing.lower wanted
  | .service wanted => ∃ service, entry.info.service = some service ∧
      service.components.map Casing.lower = wanted.map Casing.lower
  | .cell wanted => entry.info.Serves wanted

instance (entry : DescribedTicket) (filter : TicketFilter) : Decidable (Admits entry filter) :=
  match filter with
  | .realm _ => decidable_of_iff _ DescribedTicket.isInRealm_iff
  | .service _ => decidable_of_iff _ DescribedTicket.isForService_iff
  | .cell _ => decidable_of_iff _ DescribedTicket.serves_iff.symm

/-- A filter keeps the tickets that it admits. -/
theorem apply_eq_filter (tickets : DescribedTickets) (filter : TicketFilter) :
    apply tickets filter = tickets.filter fun entry ↦ Admits entry filter := by
  cases filter with
  | realm wanted =>
      apply List.filter_congr
      intro entry _
      rw [Bool.eq_iff_iff, decide_eq_true_iff]
      exact DescribedTicket.isInRealm_iff
  | service wanted =>
      apply List.filter_congr
      intro entry _
      rw [Bool.eq_iff_iff, decide_eq_true_iff]
      exact DescribedTicket.isForService_iff
  | cell wanted =>
      exact DescribedTickets.forCell_eq_filter wanted tickets

/-- Filters in sequence keep the tickets that all of them admit. -/
theorem applyAll_eq_filter (filters : List TicketFilter) (tickets : DescribedTickets) :
    applyAll filters tickets =
      tickets.filter fun entry ↦ ∀ filter ∈ filters, Admits entry filter := by
  induction filters generalizing tickets with
  | nil => simp [applyAll]
  | cons filter filters ih =>
      rw [applyAll, List.foldl_cons, ← applyAll, ih, apply_eq_filter, List.filter_filter]
      apply List.filter_congr
      intro entry _
      rw [Bool.eq_iff_iff, Bool.and_eq_true, decide_eq_true_iff, decide_eq_true_iff,
        decide_eq_true_iff, List.forall_mem_cons, and_comm]

/-- Filters in another order, or repeated, keep the same tickets. -/
theorem applyAll_congr {filters others : List TicketFilter}
    (h : ∀ filter, filter ∈ others ↔ filter ∈ filters) (tickets : DescribedTickets) :
    applyAll others tickets = applyAll filters tickets := by
  simp only [applyAll_eq_filter, h]

end TicketFilter

/-! ## Messages -/

namespace Ccache

/-- A file that does not start with the version of the format is no cache. -/
theorem Cache.ofOctets?_of_take_ne {octets : Octets} (h : octets.take 2 ≠ formatVersion) :
    ofOctets? octets = none := by
  have hheader : readHeader.run octets = .error .unreadable := by
    rw [readHeader, StateT.run_bind, run_take]
    split
    · rfl
    · change StateT.run (ite (octets.take 2 ≠ formatVersion) _ _) (octets.drop 2) = _
      rw [if_pos h]
      rfl
  have hstart : readStart.run octets = .error .unreadable := by
    rw [readStart, StateT.run_bind, hheader]
    rfl
  rw [ofOctets?, hstart]

end Ccache

/-- Reading a file writes no records. -/
theorem CredentialFile.credentialOf_eq {path : String} {octets : Octets} {file : CredentialFile}
    (h : read path octets = .ok file) (cell : Cell) :
    credentialOf path (.ok octets) cell = file.credential path cell := by
  change (Report.ofExcept (read path octets) >>= fun file ↦ file.credential path cell) = _
  rw [h]
  rfl

/-- A file that is read gives a credential as its content does. -/
theorem CredentialFile.outcome_credentialOf {path : String} {octets : Octets}
    {file : CredentialFile} (h : read path octets = .ok file) (cell : Cell) :
    (credentialOf path (.ok octets) cell).outcome = (file.credential path cell).outcome :=
  congrArg Report.outcome (credentialOf_eq h cell)

namespace DescribedTickets

/-- Tickets that are taken apart are paired as they were. -/
theorem pair_map (tickets : DescribedTickets) :
    pair (tickets.map (·.ticket)) (tickets.map (·.info)) = tickets := by
  rw [pair, List.zip_map', List.map_map]
  exact List.map_id tickets

/-- Within a message its part is shorter than the message. -/
theorem length_toPart_lt (tickets : DescribedTickets) :
    tickets.toPart.encode.length < tickets.toMessage.encode.length := by
  calc tickets.toPart.encode.length
      < (encodeOctets tickets.toPart.encode).length := length_lt_element _ _
    _ < (encodeField 2 (encodeOctets tickets.toPart.encode)).length := length_lt_element _ _
    _ < tickets.toMessage.encrypted.encode.length := length_lt_encodeSequence (by simp [toMessage])
    _ < (encodeField 3 tickets.toMessage.encrypted.encode).length := length_lt_element _ _
    _ < _ := length_lt_encodeSequence (List.mem_of_getElem? (i := 3) rfl)
    _ < tickets.toMessage.encode.length := length_lt_element _ _

/-- The part that describes tickets is read back if their times are. -/
theorem front_read_toPart {tickets : DescribedTickets}
    (htimes : ∀ entry ∈ tickets, ∀ time ∈ entry.info.times, ReadsBack time)
    (hsize : tickets.toPart.encode.length < UInt64.size) :
    Reader.front CredPart.read tickets.toPart.encode = .ok tickets.toPart := by
  have hinfos : ∀ info ∈ tickets.toPart.infos, ∀ time ∈ info.times, ReadsBack time := by
    intro info hinfo
    obtain ⟨entry, hentry, rfl⟩ := List.mem_map.mp hinfo
    exact htimes entry hentry
  have hpart := CredPart.reads hinfos (fun _ hnone ↦ by cases hnone) hsize []
  rw [List.append_nil] at hpart
  rw [Reader.front]
  exact congrArg (Except.map _) hpart

section RoundTrip

variable {tickets : DescribedTickets}
  (htimes : ∀ entry ∈ tickets, ∀ time ∈ entry.info.times, ReadsBack time)
  (hsize : tickets.toMessage.encode.length < UInt64.size)

include hsize in
theorem run_read_toMessage :
    CredMessage.read.run tickets.toMessage.encode = .ok (tickets.toMessage, []) := by
  have hread := tickets.toMessage.reads hsize []
  rwa [List.append_nil] at hread

include htimes hsize in
theorem ofMessage_toMessage : ofMessage tickets.toMessage = .ok tickets := by
  have hfront : Reader.front CredPart.read tickets.toMessage.encrypted.cipher =
      .ok tickets.toPart :=
    front_read_toPart htimes (Nat.lt_trans tickets.length_toPart_lt hsize)
  have hplain : ¬tickets.toMessage.encrypted.etype ≠ plain := not_not.mpr rfl
  rw [ofMessage, if_neg hplain, hfront]
  exact congrArg Except.ok tickets.pair_map

/-- A message is no cache, whatever tickets it has. -/
theorem ofOctets?_toMessage (tickets : DescribedTickets) :
    Cache.ofOctets? tickets.toMessage.encode = none := by
  apply Cache.ofOctets?_of_take_ne
  intro h
  have hfirst : some (Tag.message 22).encode = some 5 := congrArg List.head? h
  exact absurd hfirst (by decide)

include htimes hsize in
theorem read_toMessage (path : String) :
    CredentialFile.read path tickets.toMessage.encode = .ok (.ofMessage tickets) := by
  have hfront : Reader.front CredMessage.read tickets.toMessage.encode = .ok tickets.toMessage := by
    rw [Reader.front, run_read_toMessage hsize]
    rfl
  rw [CredentialFile.read, ofOctets?_toMessage, CredentialFile.readMessage, hfront]
  exact congrArg (Except.map _) (ofMessage_toMessage htimes hsize)

end RoundTrip

/-- What tickets give for a cell when they are selected directly.  The path is for the failure. -/
def credentialFor (path : String) (cell : Cell) (tickets : DescribedTickets) :
    Except Stop Credential :=
  match (tickets.forCell cell).latest with
  | none => .error (.failure (.request (.noTicket cell.principal path)))
  | some entry => entry.credential.mapError fun fault ↦ .failure (.data fault)

/-- A file of tickets gives what they give directly. -/
theorem outcome_credential (path : String) (cell : Cell) (tickets : DescribedTickets) :
    (CredentialFile.credential path (.ofMessage tickets) cell).outcome =
      tickets.credentialFor path cell := by
  rw [CredentialFile.credential, Report.outcome_note_bind, Report.outcome_bind,
    CredentialFile.select, CredentialFile.selectTicket, Report.outcome_note_bind, credentialFor]
  cases hlatest : (tickets.forCell cell).latest with
  | none => rfl
  | some entry =>
      dsimp only
      cases entry.credential <;> rfl

/-- Tickets are left by any filters as they would be by one filter for all of them.  They are read
back from their message, and a file of the message gives for every cell what they give directly. -/
theorem message_roundTrip {start kept : DescribedTickets} {filters : List TicketFilter}
    (hkept : TicketFilter.applyAll filters start = kept)
    (htimes : ∀ entry ∈ kept, ∀ time ∈ entry.info.times,
      readTime.run (encodeTime time) = .ok (time, []))
    (hsize : kept.toMessage.encode.length < UInt64.size) :
    kept = start.filter (fun entry ↦ ∀ filter ∈ filters, TicketFilter.Admits entry filter) ∧
    (∀ others, (∀ filter, filter ∈ others ↔ filter ∈ filters) →
      TicketFilter.applyAll others start = kept) ∧
    CredMessage.read.run kept.toMessage.encode = .ok (kept.toMessage, []) ∧
    ofMessage kept.toMessage = .ok kept ∧
    Cache.ofOctets? kept.toMessage.encode = none ∧
    ∀ path cell, (CredentialFile.credentialOf path (.ok kept.toMessage.encode) cell).outcome =
      kept.credentialFor path cell := by
  refine ⟨?_, ?_, run_read_toMessage hsize, ofMessage_toMessage htimes hsize,
    ofOctets?_toMessage kept, ?_⟩
  · rw [← hkept, TicketFilter.applyAll_eq_filter]
  · intro others hothers
    rw [TicketFilter.applyAll_congr hothers, hkept]
  · intro path cell
    rw [← outcome_credential]
    exact CredentialFile.outcome_credentialOf (read_toMessage htimes hsize path) cell

/-- A ticket for a service in the realm `A`, with the fields that a message must have and the end of
its validity. -/
def ticketFor (components : List String) : DescribedTicket where
  ticket := {
    version := 5
    realm := "A"
    service := ⟨2, components⟩
    encrypted := ⟨1, none, [7]⟩ }
  info := {
    key := ⟨1, [1, 2, 4, 7, 8, 11, 13, 14]⟩
    clientRealm := none
    client := none
    flags := none
    authTime := none
    startTime := none
    endTime := some ⟨2023, 11, 14, 22, 13, 20⟩
    renewTill := none
    serviceRealm := some "A"
    service := some ⟨2, components⟩
    addresses := none }

theorem message_roundTrip_of_ticketFor :
    TicketFilter.applyAll [.realm "a", .cell ⟨"a", "A"⟩]
        [ticketFor ["AFS", "a"], ticketFor ["krbtgt", "A"], ticketFor ["afs", "a"]] =
      [ticketFor ["AFS", "a"], ticketFor ["afs", "a"]] ∧
    ofMessage (toMessage [ticketFor ["AFS", "a"], ticketFor ["afs", "a"]]) =
      .ok [ticketFor ["AFS", "a"], ticketFor ["afs", "a"]] := by
  have hkept : TicketFilter.applyAll [.realm "a", .cell ⟨"a", "A"⟩]
      [ticketFor ["AFS", "a"], ticketFor ["krbtgt", "A"], ticketFor ["afs", "a"]] =
        [ticketFor ["AFS", "a"], ticketFor ["afs", "a"]] := by decide
  have hroundTrip := message_roundTrip hkept (by decide +kernel) (by decide +kernel)
  exact ⟨hkept, hroundTrip.2.2.2.1⟩

end DescribedTickets

end AfsToken
