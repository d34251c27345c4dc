import AfsToken.Proofs.Ccache.Reading
import AfsToken.Proofs.Credential.MessageFile
import AfsToken.Proofs.Credential.Selection

/-!
# Files that break a run off

Whatever a credential file holds, a run answers it: with a credential, or with a failure, which
names the data if the file cannot be read.  The exceptions are an entry of a cache for the cell, a
message, and the part of a message, that are not read for another reason than malformed octets.  The
octets of such a file contain the cause, a time that does not exist or a field that overruns.
-/

namespace AfsToken.CredentialFile

open AfsToken.Asn1 AfsToken.Ccache AfsToken.Kerberos AfsToken.Octets

variable {path : String} {octets : Octets} {cell : Cell}

/-- The content of a file breaks off every run for a cell. -/
inductive BreaksOff (cell : Cell) (octets : Octets) : Prop
  | ofEntry {cache : Cache} {entry : Entry} (hcache : Cache.ofOctets? octets = some cache)
      (hentry : entry ∈ cache.entries) (hbreaks : entry.BreaksOff cell)
  | ofMessage (hcache : Cache.ofOctets? octets = none)
      (hmessage : Reader.front CredMessage.read octets = .error .overrun)
  | ofPart {message : CredMessage} {fault : Asn1.Fault} (hcache : Cache.ofOctets? octets = none)
      (hmessage : Reader.front CredMessage.read octets = .ok message)
      (hplain : message.encrypted.etype = DescribedTickets.plain)
      (hpart : Reader.front CredPart.read message.encrypted.cipher = .error fault)
      (hfault : fault ≠ .malformed)

/-- A run answers a file: it does not break off, and if the file is not read it names the data. -/
structure IsAnswered (path : String) (octets : Octets) (cell : Cell) : Prop where
  goesOn : (credentialOf path (.ok octets) cell).outcome ≠ .error .breakdown
  notRead : (∀ file, read path octets ≠ .ok file) →
    ∃ fault, (credentialOf path (.ok octets) cell).outcome = .error (.failure (.data fault))

/-! ## Reading -/

theorem ofFault_of_ne_malformed {failure : Failure} {fault : Asn1.Fault} (h : fault ≠ .malformed) :
    Stop.ofFault failure fault = .breakdown := by
  cases fault with
  | malformed => exact absurd rfl h
  | noSuchTime => rfl
  | overrun => rfl

theorem front_credMessage_ne_noSuchTime (octets : Octets) :
    Reader.front CredMessage.read octets ≠ .error .noSuchTime :=
  fun h ↦ ((CredMessage.traced False).shows (run_eq_error_of_front h)).1

/-- A file that is not read breaks off, or its data is at fault. -/
theorem breaksOff_or_of_read_eq_error {stop : Stop} (cell : Cell)
    (h : read path octets = .error stop) :
    stop = .breakdown ∧ BreaksOff cell octets ∨ ∃ fault, stop = .failure (.data fault) := by
  unfold CredentialFile.read at h
  split at h
  next => cases h
  next hcache =>
    unfold readMessage at h
    split at h
    next fault hmessage =>
      cases h
      cases fault with
      | malformed => exact .inr ⟨_, rfl⟩
      | noSuchTime => exact absurd hmessage (front_credMessage_ne_noSuchTime octets)
      | overrun => exact .inl ⟨rfl, .ofMessage hcache hmessage⟩
    next message hmessage =>
      unfold DescribedTickets.ofMessage at h
      split at h
      next =>
        cases h
        exact .inr ⟨_, rfl⟩
      next hplain =>
        split at h
        next fault hpart =>
          cases h
          by_cases hfault : fault = .malformed
          · rw [hfault]
            exact .inr ⟨_, rfl⟩
          · exact .inl ⟨ofFault_of_ne_malformed hfault,
              .ofPart hcache hmessage (not_not.mp hplain) hpart hfault⟩
        next => cases h

theorem outcome_of_read_eq_error {stop : Stop} (h : read path octets = .error stop)
    (cell : Cell) : (credentialOf path (.ok octets) cell).outcome = .error stop := by
  change (Report.ofExcept (read path octets) >>= _).outcome = _
  rw [Report.outcome_bind, Report.outcome_ofExcept, h]
  rfl

/-! ## Runs -/

/-- Tickets that were read never break off. -/
theorem credentialFor_ne_breakdown (tickets : DescribedTickets) :
    tickets.credentialFor path cell ≠ .error .breakdown := by
  unfold DescribedTickets.credentialFor
  split
  next => exact fun h ↦ by cases h
  next entry _ => cases entry.credential <;> exact fun h ↦ by cases h

/-- A file that was read breaks off where the selection of its cache does. -/
theorem outcome_credential_of_select_ne {file : CredentialFile}
    (h : (file.select cell).outcome ≠ .error .breakdown) :
    (file.credential path cell).outcome ≠ .error .breakdown := by
  rw [credential, Report.outcome_note_bind, Report.outcome_bind]
  cases hselect : (file.select cell).outcome with
  | error stop =>
      intro hstop
      cases hstop
      exact h hselect
  | ok found => cases found <;> exact fun h ↦ by cases h

theorem outcome_credentialOf_of_breaksOff (h : BreaksOff cell octets) :
    (credentialOf path (.ok octets) cell).outcome = .error .breakdown := by
  cases h with
  | @ofEntry cache entry hcache hentry hbreaks =>
      have hread : read path octets = .ok (.ofCache cache) := by rw [CredentialFile.read, hcache]
      rw [outcome_credentialOf hread, credential, Report.outcome_note_bind, Report.outcome_bind,
        select, Cache.outcome_select_of_breaksOff hentry hbreaks]
      rfl
  | ofMessage hcache hmessage =>
      refine outcome_of_read_eq_error ?_ cell
      rw [CredentialFile.read, hcache, readMessage, hmessage]
      rfl
  | ofPart hcache hmessage hplain hpart hfault =>
      refine outcome_of_read_eq_error ?_ cell
      rw [CredentialFile.read, hcache, readMessage, hmessage]
      dsimp only
      rw [DescribedTickets.ofMessage, if_neg (not_not.mpr hplain), hpart]
      dsimp only
      rw [ofFault_of_ne_malformed hfault]
      rfl

theorem isAnswered_of_not_breaksOff (h : ¬BreaksOff cell octets) : IsAnswered path octets cell := by
  cases hread : read path octets with
  | error stop =>
      obtain ⟨fault, rfl⟩ := (breaksOff_or_of_read_eq_error cell hread).resolve_left
        fun hbreaks ↦ h hbreaks.2
      have houtcome := outcome_of_read_eq_error hread cell
      constructor
      · rw [houtcome]
        exact fun hbreakdown ↦ by cases hbreakdown
      · exact fun _ ↦ ⟨fault, houtcome⟩
  | ok file =>
      refine ⟨?_, fun hnone ↦ absurd hread (hnone file)⟩
      rw [outcome_credentialOf hread]
      unfold CredentialFile.read at hread
      split at hread
      next cache hcache =>
        cases hread
        apply outcome_credential_of_select_ne
        rw [select, Cache.outcome_select fun entry hentry hbreaks ↦
          h (.ofEntry hcache hentry hbreaks)]
        exact fun hbreakdown ↦ by cases hbreakdown
      next hcache =>
        cases htickets : readMessage path octets with
        | error stop => rw [htickets] at hread; cases hread
        | ok tickets =>
            rw [htickets] at hread
            cases hread
            rw [DescribedTickets.outcome_credential]
            exact credentialFor_ne_breakdown tickets

/-! ## Causes -/

/-- A file that breaks a run off contains the cause. -/
theorem exists_cause_of_breaksOff (h : BreaksOff cell octets) :
    ∃ part, part <:+: octets ∧ (IsImpossibleTime part ∨ IsOverrun part) := by
  cases h with
  | ofEntry hcache hentry hbreaks =>
      obtain ⟨part, hpart, hoverrun⟩ :=
        (Ticket.traced False).shows (run_eq_error_of_front hbreaks.2.2)
      exact ⟨part, hpart.trans (Cache.infix_of_mem_entries hcache hentry), .inr hoverrun⟩
  | ofMessage hcache hmessage =>
      obtain ⟨part, hpart, hoverrun⟩ :=
        (CredMessage.traced False).shows (run_eq_error_of_front hmessage)
      exact ⟨part, hpart, .inr hoverrun⟩
  | @ofPart message fault hcache hmessage hplain hpart hfault =>
      obtain ⟨rest, hrun⟩ := exists_run_of_front hmessage
      have hcipher := CredMessage.finds_cipher hrun
      have hshows := CredPart.traced.shows (run_eq_error_of_front hpart)
      cases fault with
      | malformed => exact absurd rfl hfault
      | noSuchTime =>
          obtain ⟨-, part, hin, hcause⟩ := hshows
          exact ⟨part, hin.trans hcipher, .inl hcause⟩
      | overrun =>
          obtain ⟨part, hin, hcause⟩ := hshows
          exact ⟨part, hin.trans hcipher, .inr hcause⟩

/-- Every file is answered for every cell, except those that break off, and these contain a time
that does not exist or a field that overruns. -/
theorem isAnswered_iff (path : String) (octets : Octets) (cell : Cell) :
    (IsAnswered path octets cell ↔ ¬BreaksOff cell octets) ∧
    (BreaksOff cell octets → (credentialOf path (.ok octets) cell).outcome = .error .breakdown ∧
      ∃ part, part <:+: octets ∧ (IsImpossibleTime part ∨ IsOverrun part)) := by
  refine ⟨⟨fun h hbreaks ↦ ?_, isAnswered_of_not_breaksOff⟩, fun hbreaks ↦ ?_⟩
  · exact h.goesOn (outcome_credentialOf_of_breaksOff hbreaks)
  · exact ⟨outcome_credentialOf_of_breaksOff hbreaks, exists_cause_of_breaksOff hbreaks⟩

/-- A ticket for the cell `a` whose end is said to be in a thirteenth month. -/
def endingInMonth13 : DescribedTicket :=
  let entry := DescribedTickets.ticketFor ["afs", "a"]
  { entry with info := { entry.info with endTime := some ⟨2023, 13, 1, 0, 0, 0⟩ } }

theorem not_isAnswered_of_endingInMonth13 :
    ¬IsAnswered "cache" (DescribedTickets.toMessage [endingInMonth13]).encode ⟨"a", "A"⟩ :=
  fun h ↦ h.goesOn (by decide +kernel)

end AfsToken.CredentialFile
