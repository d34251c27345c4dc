import AfsToken.Proofs.Credential.LastMaximum
import AfsToken.Proofs.Credential.Selection

/-!
# The latest entry of a cache

A cache selects for a cell the last of the eligible entries that end last, whatever other entries
stand between them, unless a field of the ticket of an entry for the cell overruns.  One such entry
is enough to break the selection off, and nothing else does.
-/

namespace AfsToken.Ccache

variable {cache : Cache} {cell : Cell}

/-- An entry can be selected if it serves the cell and its ticket is read. -/
theorem Entry.isEligible_iff {entry : Entry} :
    entry.IsEligible cell ↔ entry.Serves cell ∧ ∃ ticket, entry.readTicket = .ok ticket := by
  have hticket : entry.hasTicket = true ↔ ∃ ticket, entry.readTicket = .ok ticket := by
    rw [hasTicket]
    cases entry.readTicket <;> simp [Except.isOk, Except.toBool]
  rw [IsEligible, Serves, ← Entry.isFor_iff, hticket, and_assoc]

/-- An entry is eligible, none of the eligible entries before it ends later, and all those behind it
end earlier. -/
structure IsLatest (cell : Cell) (front : List Entry) (entry : Entry) (back : List Entry) :
    Prop where
  eligible : entry.IsEligible cell
  notLater : ∀ other ∈ front, other.IsEligible cell → other.endTime ≤ entry.endTime
  earlier : ∀ other ∈ back, other.IsEligible cell → other.endTime < entry.endTime

namespace Cache

/-- A cache gives for a cell what is stored in the latest of its eligible entries, and nothing only
if there are none. -/
inductive SelectsLatest (cache : Cache) (cell : Cell) : Prop
  | none (hnone : ∀ entry ∈ cache.entries, ¬entry.IsEligible cell)
      (houtcome : (cache.select cell).outcome = .ok none)
  | some (front : List Entry) (entry : Entry) (back : List Entry)
      (hentries : cache.entries = front ++ entry :: back) (hlatest : IsLatest cell front entry back)
      (houtcome : (cache.select cell).outcome =
        .ok (some ⟨⟨entry.keyType.toInt16.toInt32, entry.key⟩, entry.ticket, entry.endTime⟩))

theorem latestFor_eq_none_iff :
    cache.latestFor cell = none ↔ ∀ entry ∈ cache.entries, ¬entry.IsEligible cell := by
  rw [latestFor, lastMaximum_eq_none_iff, List.filter_eq_nil_iff]
  simp only [decide_eq_true_eq]

theorem exists_split_of_latestFor {entry : Entry} (h : cache.latestFor cell = some entry) :
    ∃ front back, cache.entries = front ++ entry :: back ∧ IsLatest cell front entry back := by
  obtain ⟨front, back, hentries, hplace⟩ := exists_split_of_lastMaximum_unsigned h
  refine ⟨front, back, hentries, ?_, ?_, ?_⟩
  · simpa using hplace.admitted
  · intro other hother heligible
    simpa using hplace.notGreater other hother (by simpa using heligible)
  · intro other hother heligible
    simpa using hplace.smaller other hother (by simpa using heligible)

/-- Where no entry breaks off, the latest is selected. -/
theorem selectsLatest_of_forall_not_breaksOff
    (h : ∀ entry ∈ cache.entries, ¬entry.BreaksOff cell) : cache.SelectsLatest cell := by
  cases hlatest : cache.latestFor cell with
  | none =>
      refine .none (latestFor_eq_none_iff.mp hlatest) ?_
      rw [outcome_select h, hlatest]
      rfl
  | some entry =>
      obtain ⟨front, back, hentries, hplace⟩ := exists_split_of_latestFor hlatest
      refine .some front entry back hentries hplace ?_
      rw [outcome_select h, hlatest]
      rfl

theorem SelectsLatest.outcome_ne_breakdown (h : cache.SelectsLatest cell) :
    (cache.select cell).outcome ≠ .error .breakdown := by
  intro hbreakdown
  cases h with
  | none _ houtcome => cases houtcome.symm.trans hbreakdown
  | some front entry back _ _ houtcome => cases houtcome.symm.trans hbreakdown

/-- A cache gives the latest exactly if no entry breaks the selection off. -/
theorem selectsLatest_iff_forall_not_breaksOff :
    cache.SelectsLatest cell ↔ ∀ entry ∈ cache.entries, ¬entry.BreaksOff cell := by
  constructor
  · intro h entry hentry hbreaks
    exact h.outcome_ne_breakdown (outcome_select_of_breaksOff hentry hbreaks)
  · exact selectsLatest_of_forall_not_breaksOff

/-- An entry that is not eligible and does not break off has no effect, wherever it stands. -/
theorem outcome_select_of_not_isEligible {front back : List Entry} {entry : Entry}
    (hentries : cache.entries = front ++ entry :: back) (heligible : ¬entry.IsEligible cell)
    (hbreaks : ¬entry.BreaksOff cell) :
    (cache.select cell).outcome =
      ({ cache with entries := front ++ back }.select cell).outcome := by
  by_cases hall : ∀ other ∈ front ++ back, ¬other.BreaksOff cell
  case pos =>
    have hwith : ∀ other ∈ cache.entries, ¬other.BreaksOff cell := by
      intro other hother
      rw [hentries, List.mem_append, List.mem_cons, or_left_comm] at hother
      rcases hother with rfl | hother
      · exact hbreaks
      · exact hall other (List.mem_append.mpr hother)
    have hsame : cache.latestFor cell = { cache with entries := front ++ back }.latestFor cell := by
      rw [latestFor, latestFor, hentries, List.filter_append, List.filter_append,
        List.filter_cons_of_neg (by simpa using heligible)]
    rw [outcome_select hwith, outcome_select hall, hsame]
  case neg =>
    obtain ⟨other, hother, hoff⟩ : ∃ other ∈ front ++ back, other.BreaksOff cell := by
      simpa using hall
    have hwith : other ∈ cache.entries := by
      rw [hentries]
      exact List.mem_append.mpr ((List.mem_append.mp hother).imp_right (List.mem_cons_of_mem _))
    rw [outcome_select_of_breaksOff hwith hoff, outcome_select_of_breaksOff hother hoff]

/-- An eligible entry at the end that does not end before the selected one is selected. -/
theorem outcome_select_concat {last : Entry} (heligible : last.IsEligible cell)
    (hall : ∀ entry ∈ cache.entries, ¬entry.BreaksOff cell)
    (hends : ∀ credential, (cache.select cell).outcome = .ok (some credential) →
      credential.expiry ≤ last.endTime) :
    ({ cache with entries := cache.entries ++ [last] }.select cell).outcome =
      .ok (some last.credential) := by
  have hwith : ∀ entry ∈ cache.entries ++ [last], ¬entry.BreaksOff cell := by
    intro entry hentry
    rcases List.mem_append.mp hentry with hentry | hlast
    · exact hall entry hentry
    · rw [List.mem_singleton.mp hlast]
      exact Entry.not_breaksOff_of_isEligible heligible
  rw [outcome_select hwith, latestFor, List.filter_append,
    List.filter_cons_of_pos (by simpa using heligible), List.filter_nil, lastMaximum_concat,
    ← latestFor]
  rw [outcome_select hall] at hends
  cases hlatest : cache.latestFor cell with
  | none => rfl
  | some entry =>
      rw [hlatest] at hends
      have hle : entry.endTime ≤ last.endTime := hends _ rfl
      simp [laterBy, hle]

/-- A cache gives the latest of its eligible entries for a cell, or nothing if there are none,
exactly if no entry breaks the selection off, and a selection that is broken off has no other cause.
Entries that are not eligible have no effect, unless they break off.  An eligible entry that is
added at the end and does not end before the selected one is selected. -/
theorem select_latest (cache : Cache) (cell : Cell) :
    (cache.SelectsLatest cell ↔ ∀ entry ∈ cache.entries, ¬entry.BreaksOff cell) ∧
    ((cache.select cell).outcome = .error .breakdown ↔
      ∃ entry ∈ cache.entries, entry.BreaksOff cell) ∧
    (∀ front entry back, cache.entries = front ++ entry :: back → ¬entry.IsEligible cell →
      ¬entry.BreaksOff cell →
      (cache.select cell).outcome =
        ({ cache with entries := front ++ back }.select cell).outcome) ∧
    ∀ last : Entry, last.IsEligible cell → cache.SelectsLatest cell →
      (∀ credential, (cache.select cell).outcome = .ok (some credential) →
        credential.expiry ≤ last.endTime) →
      ({ cache with entries := cache.entries ++ [last] }.select cell).outcome =
        .ok (some last.credential) := by
  refine ⟨selectsLatest_iff_forall_not_breaksOff, ?_, ?_, ?_⟩
  · constructor
    · intro hbreakdown
      by_contra! hall
      exact (selectsLatest_of_forall_not_breaksOff hall).outcome_ne_breakdown hbreakdown
    · rintro ⟨entry, hentry, hbreaks⟩
      exact outcome_select_of_breaksOff hentry hbreaks
  · intro front entry back hentries heligible hbreaks
    exact outcome_select_of_not_isEligible hentries heligible hbreaks
  · intro last heligible hselects hends
    exact outcome_select_concat heligible
      (selectsLatest_iff_forall_not_breaksOff.mp hselects) hends

/-- An entry for the cell `a` in the realm `A`, by the last field of its ticket. -/
def entryForA (lastField : Octets) : Entry where
  client := ⟨0, [], []⟩
  service := ⟨2, [0x41], [[0x61, 0x66, 0x73], [0x61]]⟩
  keyType := 18
  key := [7, 7, 7, 7, 7, 7, 7, 7]
  authTime := 0
  startTime := 0
  endTime := 1700000000
  renewTill := 0
  isSessionKey := 0
  flags := 0
  addresses := []
  authorization := []
  ticket :=
    [0x61, 0x2A, 0x30, 0x28, 0xA0, 3, 2, 1, 5, 0xA1, 3, 0x1B, 1, 0x41, 0xA2, 0x0E, 0x30, 0x0C] ++
    [0xA0, 3, 2, 1, 2, 0xA1, 5, 0x30, 3, 0x1B, 1, 0x61, 0xA3, 0x0C, 0x30, 0x0A, 0xA0, 3, 2, 1, 1] ++
    lastField
  secondTicket := []

/-- The first entry has a ticket with a cipher of one octet.  In the second the ticket ends with a
key version whose length includes its header. -/
theorem not_selectsLatest_of_overrunningKeyVersion :
    (entryForA [0xA2, 3, 4, 1, 7]).IsEligible ⟨"a", "A"⟩ ∧
    ¬(entryForA [0xA1, 5, 2, 1, 5]).IsEligible ⟨"a", "A"⟩ ∧
    ((Cache.mk ⟨0, []⟩ ⟨0, [], []⟩ [entryForA [0xA2, 3, 4, 1, 7]]).select ⟨"a", "A"⟩).outcome =
      .ok (some (entryForA [0xA2, 3, 4, 1, 7]).credential) ∧
    ¬(Cache.mk ⟨0, []⟩ ⟨0, [], []⟩ [entryForA [0xA2, 3, 4, 1, 7],
      entryForA [0xA1, 5, 2, 1, 5]]).SelectsLatest ⟨"a", "A"⟩ := by
  refine ⟨by decide +kernel, by decide +kernel, by decide +kernel, fun h ↦ ?_⟩
  exact h.outcome_ne_breakdown (by decide +kernel)

end Cache

end AfsToken.Ccache
