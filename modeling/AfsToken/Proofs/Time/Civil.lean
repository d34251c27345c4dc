import AfsToken.Time.Civil

/-!
# Times and counts of seconds

The civil time at a count of seconds counts as so many seconds.  Its year is found because the mean
length of a year misses the start of a year by less than two days, and its month because the days
that are left decrease by those of each month that is passed over.
-/

namespace AfsToken.Time

/-- After so many years the mean length of a year is hardly off the start of the next one. -/
theorem daysBeforeYear_bounds (past : Int) :
    146097 * past - 699 ≤ 400 * daysBeforeYear (past + 1) ∧
      400 * daysBeforeYear (past + 1) ≤ 146097 * past + 396 := by
  simp only [daysBeforeYear]
  omega

theorem daysBeforeYear_add_le (year : Int) :
    daysBeforeYear year + 365 ≤ daysBeforeYear (year + 1) := by
  simp only [daysBeforeYear]
  omega

/-- A day is in the year that is found for it. -/
theorem daysBeforeYear_yearOfDay (day : Int) :
    daysBeforeYear (yearOfDay day) ≤ day ∧ day < daysBeforeYear (yearOfDay day + 1) := by
  have hstart := daysBeforeYear_bounds (day * 400 / 146097)
  have hnext := daysBeforeYear_bounds (day * 400 / 146097 + 1)
  simp only [yearOfDay]
  split
  next hbefore => omega
  next hstarted =>
    split
    next hafter =>
      have hlong := daysBeforeYear_add_le (day * 400 / 146097 + 1 + 1)
      omega
    next hin => omega

theorem daysBeforeMonth_succ (year : Int) (month : Nat) :
    daysBeforeMonth year (month + 2) =
      daysBeforeMonth year (month + 1) + daysInMonth year (month + 1) := by
  simp [daysBeforeMonth, List.range_succ]

/-- The month and its day that are found stand for the day of the year that is looked for. -/
theorem daysBeforeMonth_monthOfDay {year : Int} {more month day : Nat} {found : Nat × Nat}
    (h : monthOfDay year more (month + 1) day = found) :
    daysBeforeMonth year found.1 + found.2 = daysBeforeMonth year (month + 1) + day + 1 := by
  induction more generalizing month day with
  | zero =>
      cases h
      rfl
  | succ more ih =>
      rw [monthOfDay] at h
      split at h
      next =>
        cases h
        rfl
      next hlast =>
        rw [ih h, daysBeforeMonth_succ]
        omega

/-- The civil time at a count of seconds is so many seconds after the start of 1970. -/
theorem Civil.toSeconds_ofSeconds (seconds : Int) : (ofSeconds seconds).toSeconds = seconds := by
  rw [ofSeconds]
  generalize hday : seconds / 86400 + epochDay = day
  have hyear := (daysBeforeYear_yearOfDay day).1
  generalize yearOfDay day = year at hyear ⊢
  generalize hfound : monthOfDay year 11 1 (day - daysBeforeYear year).toNat = found
  have hmonth := daysBeforeMonth_monthOfDay hfound
  have hfirst : daysBeforeMonth year (0 + 1) = 0 := rfl
  simp only [toSeconds]
  omega

end AfsToken.Time
