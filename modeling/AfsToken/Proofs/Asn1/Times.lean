import AfsToken.Proofs.Asn1.Values
import Mathlib.Data.Option.Basic

/-!
# Times that are read back

A time is read back exactly if the calendar has it and four digits write its year.  A year before
zero and a year behind 9999 are written with a sign, but the reader takes four characters for the
year: it then finds fewer digits than there are, and so another year.
-/

namespace AfsToken.Asn1

open AfsToken.Text AfsToken.Time

variable {time : Civil}

theorem timeOfContent_of_run (hlength : (encodeTime time).length < UInt64.size)
    (h : readTime.run (encodeTime time) = .ok (time, [])) :
    timeOfContent (Utf8.encode time.generalizedText) = .ok time := by
  have hrun : (readElement Tag.generalizedTime >>= Reader.through timeOfContent).run
      (encodeTime time ++ []) = .ok (time, []) := by
    rw [List.append_nil]
    exact h
  exact (run_through_eq_ok_iff (by decide) hlength).mp hrun

/-- A time that is read back when nothing follows it is read back whatever follows. -/
theorem reads_time (h : readTime.run (encodeTime time) = .ok (time, [])) :
    Reads readTime (encodeTime time) time := by
  intro hlength rest
  exact (run_through_eq_ok_iff (by decide) hlength).mpr (timeOfContent_of_run hlength h)

/-- The characters of a part of an ASCII text are found in its place. -/
theorem charactersOf_encode (before part after : List Char) {start count : Nat}
    (hascii : ∀ c ∈ before ++ part ++ after, c.toNat < 128) (hstart : before.length = start)
    (hcount : part.length = count) :
    charactersOf start count (Utf8.encode (String.ofList (before ++ part ++ after))) = part := by
  subst hstart hcount
  rw [charactersOf, Utf8.encode_ofList_of_ascii hascii, List.map_append, List.map_append,
    List.append_assoc, List.drop_left' (List.length_map _), List.take_left' (List.length_map _),
    List.map_map]
  calc part.map ((fun octet : UInt8 ↦ Char.ofNat octet.toNat) ∘ fun c ↦ UInt8.ofNat c.toNat)
      = part.map id := by
        apply List.map_congr_left
        intro c hc
        have hlt := hascii c (List.mem_append_left _ (List.mem_append_right _ hc))
        have hoctet : (UInt8.ofNat c.toNat).toNat = c.toNat := by
          rw [UInt8.toNat_ofNat', Nat.mod_eq_of_lt (by omega)]
        rw [Function.comp_apply, hoctet, Char.ofNat_toNat, id]
    _ = part := List.map_id part

theorem toNat_digit_lt {d : Nat} (h : d < 10) : (Decimal.digit d).toNat < 128 := by
  have hall : ∀ v : Fin 10, (Decimal.digit v.val).toNat < 128 := by decide
  exact hall ⟨d, h⟩

/-- The fields of a time with a year of four digits, and the letter behind them. -/
def digitsOfTime (time : Civil) : List (List Char) :=
  [Decimal.padded 4 time.year.natAbs, Decimal.padded 2 time.month, Decimal.padded 2 time.day,
   Decimal.padded 2 time.hour, Decimal.padded 2 time.minute, Decimal.padded 2 time.second, ['Z']]

theorem ascii_digitsOfTime (time : Civil) : ∀ c ∈ (digitsOfTime time).flatten, c.toNat < 128 := by
  intro c hc
  obtain ⟨part, hpart, hc⟩ := List.mem_flatten.mp hc
  have hdigits (width value : Nat) : ∀ c ∈ Decimal.padded width value, c.toNat < 128 :=
    Decimal.forall_mem_padded (fun _ ↦ toNat_digit_lt) width value
  simp only [digitsOfTime, List.mem_cons, List.not_mem_nil, or_false] at hpart
  rcases hpart with rfl | rfl | rfl | rfl | rfl | rfl | rfl
  iterate 6 exact hdigits _ _ c hc
  rw [List.mem_singleton.mp hc]
  decide

theorem charactersOf_digitsOfTime (index start count : Nat) {part : List Char}
    (hpart : (digitsOfTime time)[index]? = some part)
    (hstart : ((digitsOfTime time).take index).flatten.length = start)
    (hcount : part.length = count) :
    charactersOf start count (Utf8.encode (String.ofList (digitsOfTime time).flatten)) = part := by
  have hascii := ascii_digitsOfTime time
  rw [Octets.flatten_eq_append_part hpart] at hascii ⊢
  exact charactersOf_encode _ part _ hascii hstart hcount

/-- The fields of a time of the calendar have two digits, apart from the year. -/
theorem lt_of_isValid (h : time.IsValid) :
    time.month < Decimal.span 2 ∧ time.day < Decimal.span 2 ∧ time.hour < Decimal.span 2 ∧
      time.minute < Decimal.span 2 ∧ time.second < Decimal.span 2 := by
  obtain ⟨hday, hdays, hhour, hminute, hsecond⟩ := h
  have hspan : Decimal.span 2 = 100 := rfl
  have hmonth : time.month ≤ 12 ∧ time.day ≤ 31 := by
    unfold daysInMonth at hdays
    simp only [List.mem_cons, List.not_mem_nil, or_false] at hdays
    split at hdays
    · split at hdays <;> omega
    · split at hdays
      · omega
      · split at hdays <;> omega
  omega

theorem generalizedText_eq (hleast : 0 ≤ time.year) (hmost : time.year ≤ 9999) :
    time.generalizedText = String.ofList (digitsOfTime time).flatten := by
  rw [Civil.generalizedText, yearText, if_neg (by omega), if_pos hmost]
  simp [digitsOfTime]

/-- A time whose year has four digits is found in the text that writes it. -/
theorem civilOfContent?_encode (h : time.IsValid) (hleast : 0 ≤ time.year)
    (hmost : time.year ≤ 9999) :
    civilOfContent? (Utf8.encode time.generalizedText) = some time := by
  obtain ⟨hmonth, hday, hhour, hminute, hsecond⟩ := lt_of_isValid h
  have hyear : time.year.natAbs < Decimal.span 4 := by
    have hspan : Decimal.span 4 = 10000 := rfl
    omega
  have hyears := Decimal.length_padded hyear
  have hmonths := Decimal.length_padded hmonth
  have hdays := Decimal.length_padded hday
  have hhours := Decimal.length_padded hhour
  have hminutes := Decimal.length_padded hminute
  have hseconds := Decimal.length_padded hsecond
  have hreadYear := charactersOf_digitsOfTime 0 0 4 rfl rfl hyears
  have hreadMonth := charactersOf_digitsOfTime 1 4 2 rfl (by simp [digitsOfTime, hyears]) hmonths
  have hreadDay := charactersOf_digitsOfTime 2 6 2 rfl
    (by simp [digitsOfTime, hyears, hmonths]) hdays
  have hreadHour := charactersOf_digitsOfTime 3 8 2 rfl
    (by simp [digitsOfTime, hyears, hmonths, hdays]) hhours
  have hreadMinute := charactersOf_digitsOfTime 4 10 2 rfl
    (by simp [digitsOfTime, hyears, hmonths, hdays, hhours]) hminutes
  have hreadSecond := charactersOf_digitsOfTime 5 12 2 rfl
    (by simp [digitsOfTime, hyears, hmonths, hdays, hhours, hminutes]) hseconds
  have hascii := Utf8.encode_ofList_of_ascii (ascii_digitsOfTime time)
  have hlength : (Utf8.encode (String.ofList (digitsOfTime time).flatten)).length = 15 := by
    rw [hascii]
    simp [digitsOfTime, hyears, hmonths, hdays, hhours, hminutes, hseconds]
  have hlast : (Utf8.encode (String.ofList (digitsOfTime time).flatten)).getLast? = some 0x5A := by
    rw [hascii]
    simp [digitsOfTime]
  rw [generalizedText_eq hleast hmost, civilOfContent?, hlength, hlast,
    (Option.guard_eq_some' ()).mpr (Nat.le_refl 15), (Option.guard_eq_some' ()).mpr rfl,
    (Option.guard_eq_some' ()).mpr (.inl (by decide))]
  simp only [hreadYear, hreadMonth, hreadDay, hreadHour, hreadMinute, hreadSecond,
    Decimal.signed?_padded, Decimal.unsigned?_padded]
  simp [Int.natAbs_of_nonneg hleast]

/-- A time of the calendar whose year has four digits is read back. -/
theorem reads_time_of_isValid (h : time.IsValid) (hleast : 0 ≤ time.year)
    (hmost : time.year ≤ 9999) : Reads readTime (encodeTime time) time := by
  apply reads_through (by decide)
  intro _
  rw [timeOfContent, civilOfContent?_encode h hleast hmost]
  exact if_pos h

theorem signed?_of_civilOfContent? {content : Octets} (h : civilOfContent? content = some time) :
    Decimal.signed? (charactersOf 0 4 content) = some time.year := by
  simp only [civilOfContent?, Option.bind_eq_bind, Option.bind_eq_some_iff] at h
  obtain ⟨_, -, year, hyear, month, -, day, -, hour, -, minute, -, second, -, _, -, _, -,
    htime⟩ := h
  cases htime
  exact hyear

/-- The first four characters of a year that is written with a sign are the sign and too few of its
digits. -/
theorem charactersOf_signedYear {sign : Char} (hsign : sign.toNat < 128)
    (hyear : yearText time.year = sign :: Decimal.padded 4 time.year.natAbs) :
    ∃ front rest, Decimal.padded 4 time.year.natAbs = front ++ rest ∧ rest ≠ [] ∧
      charactersOf 0 4 (Utf8.encode time.generalizedText) = sign :: front := by
  obtain ⟨front, rest, hsplit, hfront, hrest⟩ : ∃ front rest,
      Decimal.padded 4 time.year.natAbs = front ++ rest ∧ front.length = 3 ∧ rest ≠ [] := by
    have hlength : 4 ≤ (Decimal.padded 4 time.year.natAbs).length := by
      rw [Decimal.padded, List.length_append, List.length_replicate]
      omega
    refine ⟨_, _, (List.take_append_drop 3 _).symm, ?_, List.ne_nil_of_length_pos ?_⟩
    · rw [List.length_take]
      omega
    · rw [List.length_drop]
      omega
  refine ⟨front, rest, hsplit, hrest, ?_⟩
  have htext : time.generalizedText =
      String.ofList ([] ++ (sign :: front) ++ (rest ++ (digitsOfTime time).tail.flatten)) := by
    rw [Civil.generalizedText, hyear, hsplit]
    simp [digitsOfTime]
  have hdigits : (digitsOfTime time).flatten =
      front ++ (rest ++ (digitsOfTime time).tail.flatten) := by
    rw [← List.append_assoc, ← hsplit]
    rfl
  rw [htext]
  refine charactersOf_encode [] (sign :: front) _ ?_ rfl (by rw [List.length_cons, hfront])
  intro c hc
  rcases List.mem_cons.mp hc with rfl | hdigit
  · exact hsign
  · exact ascii_digitsOfTime time c (hdigits ▸ hdigit)

/-- A time is found in the text that writes it only if the year has no sign. -/
theorem year_of_civilOfContent?
    (h : civilOfContent? (Utf8.encode time.generalizedText) = some time) :
    0 ≤ time.year ∧ time.year ≤ 9999 := by
  have hread := signed?_of_civilOfContent? h
  by_contra hrange
  have hsigned : time.year < 0 ∨ 9999 < time.year := by omega
  rcases hsigned with hnegative | hgreat
  · have hyear : yearText time.year = '-' :: Decimal.padded 4 time.year.natAbs :=
      if_pos hnegative
    obtain ⟨front, rest, hsplit, hrest, hfour⟩ := charactersOf_signedYear (by decide) hyear
    rw [hfour, Decimal.signed?_minus] at hread
    obtain ⟨value, hvalue, hsame⟩ := Option.map_eq_some_iff.mp hread
    have habs : value = time.year.natAbs := by omega
    exact Decimal.nat?_ne_of_padded (by omega) hsplit hrest (habs ▸ hvalue)
  · have hyear : yearText time.year = '+' :: Decimal.padded 4 time.year.natAbs := by
      rw [yearText, if_neg (by omega), if_neg (by omega)]
    obtain ⟨front, rest, hsplit, hrest, hfour⟩ := charactersOf_signedYear (by decide) hyear
    rw [hfour, Decimal.signed?_plus] at hread
    obtain ⟨value, hvalue, hsame⟩ := Option.map_eq_some_iff.mp hread
    have habs : value = time.year.natAbs := by omega
    exact Decimal.nat?_ne_of_padded (by omega) hsplit hrest (habs ▸ hvalue)

/-- A time is read back exactly if the calendar has it and its year has four digits. -/
theorem readTime_encodeTime_iff (hlength : (encodeTime time).length < UInt64.size) :
    readTime.run (encodeTime time) = .ok (time, []) ↔
      time.IsValid ∧ 0 ≤ time.year ∧ time.year ≤ 9999 := by
  constructor
  · intro h
    have hcontent := timeOfContent_of_run hlength h
    unfold timeOfContent at hcontent
    split at hcontent
    next => cases hcontent
    next found hfound =>
      split at hcontent
      next hvalid =>
        cases hcontent
        exact ⟨hvalid, year_of_civilOfContent? hfound⟩
      next => cases hcontent
  · rintro ⟨hvalid, hleast, hmost⟩
    have hread := reads_time_of_isValid hvalid hleast hmost hlength []
    rwa [List.append_nil] at hread

end AfsToken.Asn1
