import AfsToken.Text.Decimal
import Mathlib.Data.Nat.Digits.Defs

/-!
# The grammar of decimal numerals

A natural number is written by ASCII digits, at least one of them, and an integer by a natural
number behind an optional sign.  The readers accept what is written so and nothing else.  A numeral
of 32 bits is one whose value is in range.
-/

namespace AfsToken.Text.Decimal

/-- Characters are digits, at least one, and a number has them as its digits in base ten. -/
structure WritesNat (characters : List Char) (value : Nat) : Prop where
  ne_nil : characters ≠ []
  digits : ∀ c ∈ characters, c.isDigit = true
  value : value = Nat.ofDigits 10 (characters.reverse.map fun c ↦ c.toNat - '0'.toNat)

/-- Characters are the digits of a natural number, and a sign may stand in front of them. -/
inductive Writes : List Char → Int → Prop
  | plain {characters : List Char} {value : Nat} (h : WritesNat characters value) :
      Writes characters value
  | plus {characters : List Char} {value : Nat} (h : WritesNat characters value) :
      Writes ('+' :: characters) value
  | minus {characters : List Char} {value : Nat} (h : WritesNat characters value) :
      Writes ('-' :: characters) (-value)

theorem digitValue?_eq_some_iff {c : Char} {value : Nat} :
    digitValue? c = some value ↔ c.isDigit = true ∧ value = c.toNat - '0'.toNat := by
  have hdigit : c.isDigit = true ↔ '0' ≤ c ∧ c ≤ '9' := by
    rw [Char.isDigit, Bool.and_eq_true, decide_eq_true_eq, decide_eq_true_eq]
    rfl
  rw [digitValue?, hdigit]
  split
  next h => simp [h, eq_comm]
  next h => simp [h]

/-- A number is continued by digits, which move it to the left by their count. -/
theorem continue?_eq_some_iff {start value : Nat} {characters : List Char} :
    continue? start characters = some value ↔
      (∀ c ∈ characters, c.isDigit = true) ∧
        value = Nat.ofDigits 10 (characters.reverse.map fun c ↦ c.toNat - '0'.toNat) +
          10 ^ characters.length * start := by
  induction characters generalizing start with
  | nil =>
      rw [continue?, Option.some.injEq, @eq_comm _ start]
      simp
  | cons c rest ih =>
      rw [continue?, Option.bind_eq_some_iff]
      simp only [digitValue?_eq_some_iff, ih, List.forall_mem_cons, List.reverse_cons,
        List.map_append, List.map_cons, List.map_nil, Nat.ofDigits_append, Nat.ofDigits_singleton,
        List.length_cons, List.length_map, List.length_reverse]
      constructor
      · rintro ⟨digit, ⟨hdigit, rfl⟩, hrest, rfl⟩
        refine ⟨⟨hdigit, hrest⟩, ?_⟩
        ring
      · rintro ⟨⟨hdigit, hrest⟩, rfl⟩
        refine ⟨_, ⟨hdigit, rfl⟩, hrest, ?_⟩
        ring

theorem nat?_eq_some_iff {characters : List Char} {value : Nat} :
    nat? characters = some value ↔ WritesNat characters value := by
  cases characters with
  | nil =>
      refine iff_of_false (by simp [nat?]) fun h ↦ h.ne_nil rfl
  | cons c rest =>
      rw [nat?, continue?_eq_some_iff, Nat.mul_zero, Nat.add_zero]
      · constructor
        · rintro ⟨hdigits, hvalue⟩
          exact ⟨by simp, hdigits, hvalue⟩
        · rintro ⟨-, hdigits, hvalue⟩
          exact ⟨hdigits, hvalue⟩
      · simp

theorem WritesNat.cons_sign_ne {characters rest : List Char} {value : Nat}
    (h : WritesNat characters value) : characters ≠ '+' :: rest ∧ characters ≠ '-' :: rest := by
  constructor
  · rintro rfl
    exact absurd (h.digits '+' List.mem_cons_self) (by decide)
  · rintro rfl
    exact absurd (h.digits '-' List.mem_cons_self) (by decide)

theorem unsigned?_of_writesNat {characters : List Char} {value : Nat}
    (h : WritesNat characters value) : unsigned? characters = some value := by
  rw [unsigned?, nat?_eq_some_iff.mpr h]
  intro rest
  exact h.cons_sign_ne.1

/-- The reader of signed numerals accepts the grammar. -/
theorem signed?_eq_some_iff {characters : List Char} {value : Int} :
    signed? characters = some value ↔ Writes characters value := by
  constructor
  · intro h
    unfold signed? at h
    split at h
    next rest =>
      change signed? ('-' :: rest) = some value at h
      rw [signed?_minus] at h
      obtain ⟨size, hsize, rfl⟩ := Option.map_eq_some_iff.mp h
      exact .minus (nat?_eq_some_iff.mp hsize)
    next =>
      obtain ⟨size, hsize, rfl⟩ := Option.map_eq_some_iff.mp h
      unfold unsigned? at hsize
      split at hsize
      · exact .plus (nat?_eq_some_iff.mp hsize)
      · exact .plain (nat?_eq_some_iff.mp hsize)
  · intro h
    cases h with
    | plain h =>
        rw [signed?, unsigned?_of_writesNat h]
        · rfl
        · intro rest
          exact h.cons_sign_ne.2
    | plus h =>
        rw [signed?_plus, nat?_eq_some_iff.mpr h]
        rfl
    | minus h =>
        rw [signed?_minus, nat?_eq_some_iff.mpr h]
        rfl

/-- The reader of numerals of 32 bits accepts the grammar, if the value is in range. -/
theorem int32?_eq_some_iff {text : String} {number : Int32} :
    int32? text = some number ↔ Writes text.toList number.toInt := by
  rw [← signed?_eq_some_iff, int32?, Option.bind_eq_some_iff]
  constructor
  · rintro ⟨value, hvalue, hrange⟩
    split at hrange
    next hin =>
      cases hrange
      rw [hvalue, Int32.toInt_ofInt_of_le hin.1 (Int.lt_add_one_of_le hin.2)]
    next => cases hrange
  · intro hvalue
    refine ⟨number.toInt, hvalue, ?_⟩
    rw [if_pos ⟨Int32.minValue_le_toInt number, Int32.toInt_le number⟩, Int32.ofInt_toInt]

end AfsToken.Text.Decimal
