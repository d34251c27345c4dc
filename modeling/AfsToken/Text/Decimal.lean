/-!
# Decimal numerals

Numbers are written with the fewest digits, a negative one behind a minus sign.  A signed numeral of
32 bits is read with an optional sign of either kind and at least one digit; leading zeros are
allowed and nothing else is.
-/

namespace AfsToken.Text.Decimal

/-- The decimal digit of a number below ten. -/
def digit (value : Nat) : Char := Char.ofNat ('0'.toNat + value)

/-- The value of an ASCII digit. -/
def digitValue? (c : Char) : Option Nat :=
  if '0' ≤ c ∧ c ≤ '9' then some (c.toNat - '0'.toNat) else none

/-- The digits of a number, most significant first and without leading zeros. -/
def digits (value : Nat) : List Char :=
  if value < 10 then [digit value] else digits (value / 10) ++ [digit (value % 10)]

/-- The numeral of a natural number. -/
def ofNat (value : Nat) : String := String.ofList (digits value)

/-- The numeral of an integer. -/
def ofInt (value : Int) : String :=
  if value < 0 then "-" ++ ofNat value.natAbs else ofNat value.natAbs

/-- A number in at least `width` digits, filled up with zeros. -/
def padded (width value : Nat) : List Char :=
  List.replicate (width - (digits value).length) '0' ++ digits value

/-- The number of values that `width` digits can have. -/
def span : (width : Nat) → Nat
  | 0 => 1
  | width + 1 => 10 * span width

/-- Continues a number by further digits. -/
def continue? (value : Nat) : List Char → Option Nat
  | [] => some value
  | c :: rest => (digitValue? c).bind fun d ↦ continue? (10 * value + d) rest

/-- The number that at least one digit and nothing else writes. -/
def nat? : List Char → Option Nat
  | [] => none
  | digits => continue? 0 digits

/-- A number that a plus sign may precede. -/
def unsigned? : List Char → Option Nat
  | '+' :: rest => nat? rest
  | digits => nat? digits

/-- A number that either sign may precede. -/
def signed? : List Char → Option Int
  | '-' :: rest => (nat? rest).map fun value ↦ -(value : Int)
  | numeral => (unsigned? numeral).map Int.ofNat

/-- The signed numeral of 32 bits that a text is, if it is one and in range. -/
def int32? (text : String) : Option Int32 :=
  (signed? text.toList).bind fun value ↦
    if Int32.minValue.toInt ≤ value ∧ value ≤ Int32.maxValue.toInt then some (Int32.ofInt value)
    else none

theorem digitValue?_digit {value : Nat} (h : value < 10) :
    digitValue? (digit value) = some value := by
  have hall : ∀ v : Fin 10, digitValue? (digit v.val) = some v.val := by decide
  exact hall ⟨value, h⟩

theorem continue?_append (value : Nat) (front rest : List Char) :
    continue? value (front ++ rest) = (continue? value front).bind fun v ↦ continue? v rest := by
  induction front generalizing value with
  | nil => rfl
  | cons c front ih =>
      cases h : digitValue? c <;> simp [continue?, h, ih]

/-- The digits of a number are read back. -/
theorem continue?_digits (value : Nat) : continue? 0 (digits value) = some value := by
  fun_induction digits value with
  | case1 value h => simp [continue?, digitValue?_digit h]
  | case2 value h ih =>
      rw [continue?_append, ih]
      simp [continue?, digitValue?_digit (Nat.mod_lt value (by omega : 10 > 0)), Nat.div_add_mod]

theorem digits_ne_nil (value : Nat) : digits value ≠ [] := by
  unfold digits
  split <;> simp

theorem nat?_digits (value : Nat) : nat? (digits value) = some value := by
  cases h : digits value with
  | nil => exact absurd h (digits_ne_nil value)
  | cons c rest => rw [nat?, ← h, continue?_digits]; simp

/-- The first character of a numeral is a digit, and so no sign. -/
theorem digits_eq_cons (value : Nat) : ∃ d, d < 10 ∧ ∃ rest, digits value = digit d :: rest := by
  fun_induction digits value with
  | case1 value h => exact ⟨value, h, [], rfl⟩
  | case2 value h ih =>
      obtain ⟨d, hd, rest, hrest⟩ := ih
      exact ⟨d, hd, rest ++ [digit (value % 10)], by rw [hrest]; rfl⟩

theorem digit_ne_sign {d : Nat} (h : d < 10) : digit d ≠ '-' ∧ digit d ≠ '+' := by
  have hall : ∀ v : Fin 10, digit v.val ≠ '-' ∧ digit v.val ≠ '+' := by decide
  exact hall ⟨d, h⟩

theorem signed?_digits (value : Nat) : signed? (digits value) = some (value : Int) := by
  obtain ⟨d, hd, rest, hrest⟩ := digits_eq_cons value
  have hsign := digit_ne_sign hd
  have hnat := nat?_digits value
  rw [hrest] at hnat ⊢
  rw [signed?, unsigned?, hnat]
  · rfl
  · grind
  · grind

/-- Every integer is read back from its numeral. -/
theorem signed?_ofInt (value : Int) : signed? (ofInt value).toList = some value := by
  unfold ofInt
  split
  · obtain ⟨size, rfl⟩ : ∃ size : Nat, value = -(size : Int) := ⟨value.natAbs, by omega⟩
    simp [ofNat, signed?, nat?_digits]
  · obtain ⟨size, rfl⟩ : ∃ size : Nat, value = (size : Int) := ⟨value.natAbs, by omega⟩
    simp [ofNat, signed?_digits]

/-- Every number of 32 bits is read back from its numeral. -/
theorem int32?_ofInt (value : Int32) : int32? (ofInt value.toInt) = some value := by
  have hlow : Int32.minValue.toInt ≤ value.toInt := Int32.minValue_le_toInt value
  have hhigh : value.toInt ≤ Int32.maxValue.toInt := Int32.toInt_le value
  rw [int32?, signed?_ofInt, Option.bind_some, if_pos ⟨hlow, hhigh⟩, Int32.ofInt_toInt]

theorem length_digits_le {value : Nat} (width : Nat) (h : value < span (width + 1)) :
    (digits value).length ≤ width + 1 := by
  induction width generalizing value with
  | zero =>
      rw [digits, if_pos (by simpa [span] using h)]
      exact Nat.le_refl 1
  | succ width ih =>
      rw [span] at h
      rw [digits]
      split
      · exact Nat.succ_le_succ (Nat.zero_le _)
      · have hdigits := ih (show value / 10 < span (width + 1) by omega)
        rw [List.length_append, List.length_singleton]
        exact Nat.succ_le_succ hdigits

theorem length_padded {width value : Nat} (h : value < span (width + 1)) :
    (padded (width + 1) value).length = width + 1 := by
  have hdigits := length_digits_le width h
  rw [padded, List.length_append, List.length_replicate]
  omega

theorem forall_mem_digits {p : Char → Prop} (h : ∀ d < 10, p (digit d)) (value : Nat) :
    ∀ c ∈ digits value, p c := by
  fun_induction digits value with
  | case1 value hlt => simpa using h value hlt
  | case2 value hlt ih =>
      intro c hc
      rcases List.mem_append.mp hc with hfront | hlast
      · exact ih c hfront
      · rw [List.mem_singleton.mp hlast]
        exact h _ (Nat.mod_lt _ (by decide))

/-- What holds of the ten digits holds of all that is written of a number. -/
theorem forall_mem_padded {p : Char → Prop} (h : ∀ d < 10, p (digit d)) (width value : Nat) :
    ∀ c ∈ padded width value, p c := by
  intro c hc
  rcases List.mem_append.mp hc with hzero | hdigit
  · rw [(List.mem_replicate.mp hzero).2]
    exact h 0 (by decide)
  · exact forall_mem_digits h value c hdigit

theorem continue?_replicate_zero (count : Nat) :
    continue? 0 (List.replicate count '0') = some 0 := by
  induction count with
  | zero => rfl
  | succ count ih =>
      rw [List.replicate_succ, continue?]
      exact ih

/-- A number is read back if it is filled up with zeros. -/
theorem nat?_padded (width value : Nat) : nat? (padded width value) = some value := by
  have hread : continue? 0 (padded width value) = some value := by
    rw [padded, continue?_append, continue?_replicate_zero]
    exact continue?_digits value
  cases h : padded width value with
  | nil => exact absurd (List.append_eq_nil_iff.mp h).2 (digits_ne_nil value)
  | cons c rest => rw [nat?, ← h, hread]; simp

theorem unsigned?_padded (width value : Nat) : unsigned? (padded width value) = some value := by
  have hsign : ∀ c ∈ padded width value, c ≠ '-' ∧ c ≠ '+' :=
    forall_mem_padded (fun _ ↦ digit_ne_sign) width value
  rw [unsigned?, nat?_padded]
  intro rest h
  exact (hsign '+' (h ▸ List.mem_cons_self)).2 rfl

theorem signed?_padded (width value : Nat) : signed? (padded width value) = some (value : Int) := by
  have hsign : ∀ c ∈ padded width value, c ≠ '-' ∧ c ≠ '+' :=
    forall_mem_padded (fun _ ↦ digit_ne_sign) width value
  rw [signed?, unsigned?_padded]
  · rfl
  · intro rest h
    exact (hsign '-' (h ▸ List.mem_cons_self)).1 rfl

theorem signed?_minus (numeral : List Char) :
    signed? ('-' :: numeral) = (nat? numeral).map fun value : Nat ↦ -(value : Int) := by
  rw [signed?]
  cases nat? numeral <;> rfl

theorem signed?_plus (numeral : List Char) :
    signed? ('+' :: numeral) = (nat? numeral).map fun value : Nat ↦ (value : Int) := by
  rfl

theorem continue?_of_nat? {value : Nat} {numeral : List Char} (h : nat? numeral = some value) :
    continue? 0 numeral = some value := by
  cases numeral with
  | nil => cases h
  | cons c rest => exact h

theorem le_of_continue? {value result : Nat} {numeral : List Char}
    (h : continue? value numeral = some result) : value ≤ result := by
  induction numeral generalizing value with
  | nil => exact Nat.le_of_eq (Option.some.inj h)
  | cons c rest ih =>
      obtain ⟨d, -, hrest⟩ := Option.bind_eq_some_iff.mp h
      have hle := ih hrest
      omega

/-- A positive number is not read back if digits are missing at its end. -/
theorem nat?_ne_of_padded {width value : Nat} {front rest : List Char} (hpos : 0 < value)
    (hsplit : padded width value = front ++ rest) (hrest : rest ≠ []) :
    nat? front ≠ some value := by
  intro h
  have hfront := continue?_of_nat? h
  have hwhole := continue?_of_nat? (nat?_padded width value)
  rw [hsplit, continue?_append, hfront, Option.bind_some] at hwhole
  obtain ⟨c, others, rfl⟩ := List.exists_cons_of_ne_nil hrest
  obtain ⟨d, -, hothers⟩ := Option.bind_eq_some_iff.mp hwhole
  -- Each digit more makes a number at least ten times as large.
  have hle := le_of_continue? hothers
  omega

end AfsToken.Text.Decimal
