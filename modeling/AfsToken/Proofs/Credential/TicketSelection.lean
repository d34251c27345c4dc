import AfsToken.Proofs.Credential.LastMaximum
import AfsToken.Proofs.Credential.Selection

/-!
# The latest ticket of a message

Of the tickets that serve a cell a message gives the last of those that end last, where an unknown
end comes before every known one.  Only then is the end of that ticket looked at: it must be known
and fit 32 bits.  A ticket that fails this is not passed over for another one.
-/

namespace AfsToken

namespace DescribedTicket

variable {entry other : DescribedTicket}

/-- A ticket does not end later than another: its end is unknown, or the end of the other is known
and not before it. -/
def EndsBy (other entry : DescribedTicket) : Prop :=
  ∀ seconds ∈ other.endSeconds, ∃ last ∈ entry.endSeconds, seconds ≤ last

/-- A ticket ends before another: the end of the other is known, and its own is unknown or
earlier. -/
def EndsBefore (other entry : DescribedTicket) : Prop :=
  ∃ last ∈ entry.endSeconds, ∀ seconds ∈ other.endSeconds, seconds < last

/-- What a ticket gives that was selected: its key, its encoding and its end, where the end is known
and fits 32 bits, and otherwise a fault that tells which of the two is not so. -/
inductive Yields (entry : DescribedTicket) : Except Stop (Option Credential) → Prop
  | credential (expiry : UInt32) (hend : entry.endSeconds = some (expiry.toNat : Int)) :
      Yields entry (.ok (some
        ⟨⟨entry.info.key.etype, entry.info.key.octets⟩, entry.ticket.encode, expiry⟩))
  | unknownEnd (hend : entry.endSeconds = none) :
      Yields entry (.error (.failure (.data .noEndTime)))
  | endOutOfRange (seconds : Int) (hend : entry.endSeconds = some seconds)
      (hrange : seconds < 0 ∨ UInt32.size ≤ seconds) :
      Yields entry (.error (.failure (.data (.endTimeOutOfRange seconds))))

theorem endsBy_iff : endsBy other.endSeconds entry.endSeconds = true ↔ other.EndsBy entry := by
  unfold EndsBy
  cases other.endSeconds with
  | none => simp [endsBy]
  | some left => cases entry.endSeconds <;> simp [endsBy]

theorem endsBy_eq_false_iff :
    endsBy entry.endSeconds other.endSeconds = false ↔ other.EndsBefore entry := by
  unfold EndsBefore
  cases entry.endSeconds with
  | none => simp [endsBy]
  | some last => cases other.endSeconds <;> simp [endsBy]

theorem endsBy_total (left right : Option Int) :
    endsBy left right = true ∨ endsBy right left = true := by
  cases left with
  | none => exact .inl rfl
  | some left =>
      cases right with
      | none => exact .inr rfl
      | some right =>
          simp only [endsBy, decide_eq_true_eq]
          exact Int.le_total left right

theorem endsBy_trans {first second third : Option Int} (hfirst : endsBy first second = true)
    (hsecond : endsBy second third = true) : endsBy first third = true := by
  cases first with
  | none => rfl
  | some first =>
      cases second with
      | none => cases hfirst
      | some second =>
          cases third with
          | none => cases hsecond
          | some third =>
              simp only [endsBy, decide_eq_true_eq] at hfirst hsecond ⊢
              exact Int.le_trans hfirst hsecond

/-- A credential that is selected has all of its fields from the ticket, or there is none. -/
theorem yields_credential (entry : DescribedTicket) :
    entry.Yields ((some <$> entry.credential).mapError fun fault ↦ .failure (.data fault)) := by
  unfold DescribedTicket.credential
  split
  next hend => exact .unknownEnd hend
  next seconds hend =>
    split
    next hrange =>
      have hlt : seconds.toNat < UInt32.size := by omega
      refine .credential (UInt32.ofNat seconds.toNat) ?_
      rw [UInt32.toNat_ofNat_of_lt' hlt, Int.toNat_of_nonneg hrange.1, hend]
    next hrange =>
      exact .endOutOfRange seconds hend (by omega)

end DescribedTicket

namespace DescribedTickets

variable {tickets : DescribedTickets} {cell : Cell} {entry : DescribedTicket}

/-- A ticket serves a cell, none of the tickets before it that serve the cell ends later, and all
those behind it end before it. -/
structure IsLatest (cell : Cell) (front : DescribedTickets) (entry : DescribedTicket)
    (back : DescribedTickets) : Prop where
  serves : entry.info.Serves cell
  notLater : ∀ other ∈ front, other.info.Serves cell → other.EndsBy entry
  earlier : ∀ other ∈ back, other.info.Serves cell → other.EndsBefore entry

theorem latest_eq_none_iff :
    (tickets.forCell cell).latest = none ↔ ∀ entry ∈ tickets, ¬entry.info.Serves cell := by
  rw [latest, lastMaximum_eq_none_iff, List.eq_nil_iff_forall_not_mem]
  simp only [mem_forCell_iff, not_and]

/-- The ticket that is selected has its place among all the tickets. -/
theorem exists_split_of_latest (h : (tickets.forCell cell).latest = some entry) :
    ∃ front back, tickets = front ++ entry :: back ∧ IsLatest cell front entry back := by
  rw [latest, forCell_eq_filter] at h
  obtain ⟨front, back, hsplit, hplace⟩ := exists_split_of_lastMaximum_filter
    DescribedTicket.endsBy_total DescribedTicket.endsBy_trans h
  refine ⟨front, back, hsplit, of_decide_eq_true hplace.admitted, ?_, ?_⟩
  · intro other hother hserves
    exact DescribedTicket.endsBy_iff.mp
      (hplace.notGreater other hother (decide_eq_true hserves))
  · intro other hother hserves
    exact DescribedTicket.endsBy_eq_false_iff.mp
      (hplace.smaller other hother (decide_eq_true hserves))

/-- What is selected is the credential of the latest ticket, or its fault. -/
theorem outcome_selectTicket_of_latest (h : (tickets.forCell cell).latest = some entry) :
    (CredentialFile.selectTicket tickets cell).outcome =
      (some <$> entry.credential).mapError fun fault ↦ .failure (.data fault) := by
  rw [CredentialFile.selectTicket, Report.outcome_note_bind, h]
  dsimp only
  cases entry.credential <;> rfl

/-- Tickets give nothing for a cell exactly if none of them serves it.  Otherwise they give what the
latest of those that serve the cell yields. -/
theorem selectTicket_latest (tickets : DescribedTickets) (cell : Cell) :
    ((CredentialFile.selectTicket tickets cell).outcome = .ok none ↔
      ∀ entry ∈ tickets, ¬entry.info.Serves cell) ∧
    ((∀ entry ∈ tickets, ¬entry.info.Serves cell) ∨
      ∃ front entry back, tickets = front ++ entry :: back ∧ IsLatest cell front entry back ∧
        entry.Yields (CredentialFile.selectTicket tickets cell).outcome) := by
  cases hlatest : (tickets.forCell cell).latest with
  | none =>
      have hnone := latest_eq_none_iff.mp hlatest
      have houtcome : (CredentialFile.selectTicket tickets cell).outcome = .ok none := by
        rw [CredentialFile.selectTicket, Report.outcome_note_bind, hlatest]
        rfl
      exact ⟨iff_of_true houtcome hnone, .inl hnone⟩
  | some entry =>
      obtain ⟨front, back, hsplit, hplace⟩ := exists_split_of_latest hlatest
      have hyields := entry.yields_credential
      rw [← outcome_selectTicket_of_latest hlatest] at hyields
      have hentry : entry ∈ tickets := by
        rw [hsplit]
        exact List.mem_append_right _ List.mem_cons_self
      refine ⟨iff_of_false (fun hnone ↦ ?_) fun hnone ↦ hnone entry hentry hplace.serves,
        .inr ⟨front, entry, back, hsplit, hplace, hyields⟩⟩
      rw [hnone] at hyields
      cases hyields

end DescribedTickets

end AfsToken
