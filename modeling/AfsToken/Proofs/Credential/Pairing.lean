import AfsToken.Proofs.Credential.MessageFile

/-!
# Tickets and their information

A message has its tickets in the clear and what describes them in its part, and the two lists
correspond one to one.  A message is accepted if its part is not encrypted and can be read.  Whether
the lists have the same length is not asked: the tickets, or the information, behind the end of the
shorter list are left out.  So a message is kept as a whole exactly if they have.
-/

namespace AfsToken.DescribedTickets

open AfsToken.Asn1 AfsToken.Kerberos

variable {message : CredMessage} {part : CredPart} {tickets : List Ticket} {infos : List CredInfo}

theorem map_ticket_pair (h : tickets.length = infos.length) :
    (pair tickets infos).map (·.ticket) = tickets := by
  rw [pair, List.map_map]
  exact List.map_fst_zip (Nat.le_of_eq h)

theorem map_info_pair (h : tickets.length = infos.length) :
    (pair tickets infos).map (·.info) = infos := by
  rw [pair, List.map_map]
  exact List.map_snd_zip (Nat.le_of_eq h.symm)

/-- A part that is not encrypted and is read is all that is asked of a message. -/
theorem ofMessage_eq_ok_iff {entries : DescribedTickets} :
    ofMessage message = .ok entries ↔
      message.encrypted.etype = plain ∧
        ∃ part, Reader.front CredPart.read message.encrypted.cipher = .ok part ∧
          entries = pair message.tickets part.infos := by
  rw [ofMessage]
  by_cases hplain : message.encrypted.etype = plain
  · rw [if_neg (not_not.mpr hplain), and_iff_right hplain]
    cases Reader.front CredPart.read message.encrypted.cipher with
    | ok part => simp [eq_comm]
    | error fault => simp
  · rw [if_pos hplain]
    exact iff_of_false (fun h ↦ by cases h) fun h ↦ hplain h.1

/-- Pairs keep a message with its part: each ticket and each information is in the pair at its own
place, and the message that is written of the pairs has the same tickets and, in its part, the same
information. -/
structure IsKept (message : CredMessage) (part : CredPart) (entries : DescribedTickets) : Prop where
  tickets : entries.map (·.ticket) = message.tickets
  infos : entries.map (·.info) = part.infos
  ticketsAgain : entries.toMessage.tickets = message.tickets
  infosAgain : ∃ again, Reader.front CredPart.read entries.toMessage.encrypted.cipher = .ok again ∧
    again.infos = part.infos

/-- Only lists of one length are kept. -/
theorem IsKept.length_eq {entries : DescribedTickets} (h : IsKept message part entries) :
    message.tickets.length = part.infos.length := by
  rw [← h.tickets, ← h.infos, List.length_map, List.length_map]

/-- A message whose part is read is accepted, and ticket and information at one place make a pair.
The message is kept as a whole exactly if it has as many tickets as its part has information. -/
theorem isKept_iff_length_eq (hplain : message.encrypted.etype = plain)
    (hpart : Reader.front CredPart.read message.encrypted.cipher = .ok part)
    (htimes : ∀ info ∈ part.infos, ∀ time ∈ info.times,
      readTime.run (encodeTime time) = .ok (time, []))
    (hsize : (pair message.tickets part.infos).toPart.encode.length < UInt64.size) :
    ∃ entries, ofMessage message = .ok entries ∧
      (∀ (index : Nat) entry, entries[index]? = some entry ↔
        message.tickets[index]? = some entry.ticket ∧ part.infos[index]? = some entry.info) ∧
      (IsKept message part entries ↔ message.tickets.length = part.infos.length) := by
  have hentries : ∀ entry ∈ pair message.tickets part.infos, ∀ time ∈ entry.info.times,
      ReadsBack time := by
    intro entry hentry
    obtain ⟨index, -, hinfo⟩ := mem_pair_iff.mp hentry
    exact htimes entry.info (List.mem_of_getElem? hinfo)
  refine ⟨pair message.tickets part.infos,
    ofMessage_eq_ok_iff.mpr ⟨hplain, part, hpart, rfl⟩,
    fun index entry ↦ getElem?_pair_eq_some_iff, IsKept.length_eq, fun hlength ↦ ?_⟩
  have hinfos := map_info_pair hlength
  exact {
    tickets := map_ticket_pair hlength
    infos := hinfos
    ticketsAgain := map_ticket_pair hlength
    infosAgain := ⟨_, front_read_toPart hentries hsize, hinfos⟩ }

theorem isKept_of_ticketFor :
    ∃ entries, ofMessage (toMessage [ticketFor ["afs", "a"], ticketFor ["krbtgt", "A"]]) =
        .ok entries ∧
      IsKept (toMessage [ticketFor ["afs", "a"], ticketFor ["krbtgt", "A"]])
        (toPart [ticketFor ["afs", "a"], ticketFor ["krbtgt", "A"]]) entries := by
  have hplain : (toMessage [ticketFor ["afs", "a"], ticketFor ["krbtgt", "A"]]).encrypted.etype =
      plain := rfl
  have hpart : Reader.front CredPart.read
      (toMessage [ticketFor ["afs", "a"], ticketFor ["krbtgt", "A"]]).encrypted.cipher =
        .ok (toPart [ticketFor ["afs", "a"], ticketFor ["krbtgt", "A"]]) := by decide +kernel
  obtain ⟨entries, haccepted, -, hkept⟩ :=
    isKept_iff_length_eq hplain hpart (by decide +kernel) (by decide +kernel)
  exact ⟨entries, haccepted, hkept.mpr rfl⟩

/-- A message with two tickets and the information of the second alone is accepted.  The first
ticket is paired with that information, and the second is lost. -/
theorem not_isKept_of_missingInfo :
    let first := ticketFor ["krbtgt", "A"]
    let second := ticketFor ["afs", "a"]
    let message : CredMessage := { toMessage [second] with tickets := [first.ticket, second.ticket] }
    ofMessage message = .ok [⟨first.ticket, second.info⟩] ∧
      ¬IsKept message (toPart [second]) [⟨first.ticket, second.info⟩] := by
  refine ⟨by decide +kernel, fun hkept ↦ ?_⟩
  exact absurd hkept.length_eq (by decide)

end AfsToken.DescribedTickets
