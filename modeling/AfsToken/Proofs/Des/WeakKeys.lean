import AfsToken.Des
import AfsToken.Proofs.Des.ParityBits

/-!
# The table of weak keys

The two choices of the key schedule take every bit of a key but the parity bits, so the halves of a
key determine its parity adjusted form.  A rotation by two positions leaves a half alone only if the
half repeats its first two bits: it is all zeros, all ones, or alternates in one of two phases.
These are four halves on each side, and the table holds a key for each of the sixteen pairs.
-/

namespace AfsToken.Des

/-! ## Halves -/

/-- Every position but those of the parity bits is in one of the choices. -/
theorem position_mem_choice (index bit : Fin 8) (hbit : bit.val ≠ 0) :
    8 * index.val + 8 - bit.val ∈ leftChoice ++ rightChoice := by
  revert index bit
  decide

/-- The position of a choice is that of a bit above the parity bit in one of the eight octets. -/
theorem position_of_mem_choice : ∀ position ∈ leftChoice ++ rightChoice,
    (position - 1) / 8 < keySize ∧ 7 - (position - 1) % 8 ≠ 0 ∧ 7 - (position - 1) % 8 < 8 := by
  decide

theorem bitAt_position (key : Octets) {index bit : Nat} (hbit : bit < 8) :
    bitAt key (8 * index + 8 - bit) = (key.getD index 0).toNat.testBit bit := by
  have hindex : (8 * index + 8 - bit - 1) / 8 = index := by omega
  have hplace : 7 - (8 * index + 8 - bit - 1) % 8 = bit := by omega
  rw [bitAt, hindex, hplace]

/-- Two keys have the same halves exactly if they agree outside their parity bits. -/
theorem half_eq_iff_sameButParity {left right : Octets} (hleft : left.length = keySize)
    (hright : right.length = keySize) :
    (half leftChoice left = half leftChoice right ∧
        half rightChoice left = half rightChoice right) ↔
      SameButParity left right := by
  have hhalves : (half leftChoice left = half leftChoice right ∧
        half rightChoice left = half rightChoice right) ↔
      ∀ position ∈ leftChoice ++ rightChoice, bitAt left position = bitAt right position := by
    rw [List.forall_mem_append]
    exact and_congr List.map_inj_left List.map_inj_left
  rw [hhalves, sameButParity_iff]
  constructor
  · intro h
    refine ⟨hleft.trans hright.symm, fun index hindex bit hhigh hbit ↦ ?_⟩
    rw [hleft] at hindex
    rw [← bitAt_position left hbit, ← bitAt_position right hbit]
    exact h _ (position_mem_choice ⟨index, hindex⟩ ⟨bit, hbit⟩ hhigh)
  · rintro ⟨-, hbits⟩ position hposition
    obtain ⟨hindex, hhigh, hbit⟩ := position_of_mem_choice position hposition
    exact hbits _ (hleft ▸ hindex) _ hhigh hbit

/-! ## Rotations -/

/-- Two elements in turn, so many times. -/
def alternating {α : Type} (count : Nat) (first second : α) : List α :=
  (List.replicate count [first, second]).flatten

/-- A list that two elements can be moved around consists of these two in turn. -/
theorem eq_alternating_of_append {α : Type} {first second : α} (count : Nat) {rest : List α}
    (hlength : rest.length = 2 * count) (h : rest ++ [first, second] = first :: second :: rest) :
    rest = alternating count first second := by
  induction count generalizing rest with
  | zero => exact List.eq_nil_of_length_eq_zero hlength
  | succ count ih =>
      match rest, hlength with
      | third :: fourth :: rest, hlength =>
          -- The first two elements are the ones that were moved, and so on behind them.
          simp only [List.cons_append, List.cons.injEq] at h
          obtain ⟨rfl, rfl, hrest⟩ := h
          have hcount : rest.length = 2 * count := by
            simp only [List.length_cons] at hlength
            omega
          rw [alternating, List.replicate_succ, List.flatten_cons, ← alternating, ← ih hcount hrest]
          rfl

/-- A rotation by two positions leaves exactly those lists alone that repeat their first two
elements. -/
theorem rotate_two_eq_iff {α : Type} {items : List α} (count : Nat)
    (hlength : items.length = 2 * (count + 1)) :
    rotate 2 items = items ↔ ∃ first second, items = alternating (count + 1) first second := by
  constructor
  · intro h
    match items, hlength with
    | first :: second :: rest, hlength =>
        have hrest : rest.length = 2 * count := by
          simp only [List.length_cons] at hlength
          omega
        refine ⟨first, second, ?_⟩
        rw [alternating, List.replicate_succ, List.flatten_cons, ← alternating,
          ← eq_alternating_of_append count hrest h]
        rfl
  · rintro ⟨first, second, rfl⟩
    have hfront : alternating (count + 1) first second =
        first :: second :: alternating count first second := rfl
    calc
      rotate 2 (alternating (count + 1) first second) =
          alternating count first second ++ [first, second] := by rw [hfront]; rfl
      _ = alternating (count + 1) first second := by
        rw [alternating, alternating, List.replicate_succ', List.flatten_concat]

/-- The halves that a rotation by two positions leaves alone: all zeros, all ones, and the two that
alternate. -/
def repeatingHalves : List (List Bool) :=
  [List.replicate 28 false, List.replicate 28 true, alternating 14 false true,
   alternating 14 true false]

theorem rotate_half_eq_iff {choice : List Nat} (hchoice : choice.length = 28) (key : Octets) :
    rotate 2 (half choice key) = half choice key ↔ half choice key ∈ repeatingHalves := by
  have hall : ∀ first second : Bool, alternating 14 first second ∈ repeatingHalves := by decide
  have hform : ∀ bits ∈ repeatingHalves, ∃ first second, bits = alternating 14 first second := by
    decide
  rw [rotate_two_eq_iff 13 (by rw [half, List.length_map, hchoice])]
  constructor
  · rintro ⟨first, second, h⟩
    rw [h]
    exact hall first second
  · exact hform _

/-! ## The table -/

/-- The table has a key for each pair of halves. -/
theorem exists_mem_weakKeys : ∀ left ∈ repeatingHalves, ∀ right ∈ repeatingHalves,
    ∃ key ∈ weakKeys, half leftChoice key = left ∧ half rightChoice key = right := by
  decide

theorem setOddParity_of_mem_weakKeys : ∀ key ∈ weakKeys, setOddParity key = key := by
  decide

theorem length_of_mem_weakKeys : ∀ key ∈ weakKeys, key.length = keySize := by
  decide

variable {key other : Octets}

theorem hasRepeatingHalves_iff (key : Octets) :
    HasRepeatingHalves key ↔
      half leftChoice key ∈ repeatingHalves ∧ half rightChoice key ∈ repeatingHalves :=
  and_congr (rotate_half_eq_iff rfl key) (rotate_half_eq_iff rfl key)

theorem hasRepeatingHalves_of_sameButParity (hkey : key.length = keySize)
    (h : SameButParity other key) (hother : HasRepeatingHalves other) : HasRepeatingHalves key := by
  obtain ⟨hleft, hright⟩ := (half_eq_iff_sameButParity (h.length_eq.trans hkey) hkey).mpr h
  rw [HasRepeatingHalves, ← hleft, ← hright]
  exact hother

theorem setOddParity_mem_weakKeys_iff (hkey : key.length = keySize) :
    setOddParity key ∈ weakKeys ↔ HasRepeatingHalves key := by
  constructor
  · intro h
    exact hasRepeatingHalves_of_sameButParity hkey (sameButParity_setOddParity key)
      (hasRepeatingHalves_of_mem_weakKeys _ h)
  · intro h
    obtain ⟨hleft, hright⟩ := (hasRepeatingHalves_iff key).mp h
    obtain ⟨weak, hweak, hsameLeft, hsameRight⟩ := exists_mem_weakKeys _ hleft _ hright
    have hsame : SameButParity weak key :=
      (half_eq_iff_sameButParity (length_of_mem_weakKeys weak hweak) hkey).mp
        ⟨hsameLeft, hsameRight⟩
    rw [← setOddParity_eq_iff.mpr hsame, setOddParity_of_mem_weakKeys weak hweak]
    exact hweak

/-- With the parity set, the keys in the table are those with repeating halves, and no others: each
half is all zeros, all ones, or alternates.  The parity bits of a key do not matter, and a key that
has its parity set is in the table exactly if it has such halves. -/
theorem isWeak_setOddParity_iff (hkey : key.length = keySize) :
    (isWeak (setOddParity key) = true ↔ HasRepeatingHalves key) ∧
    (HasRepeatingHalves key ↔
      half leftChoice key ∈ repeatingHalves ∧ half rightChoice key ∈ repeatingHalves) ∧
    (∀ other, SameButParity other key →
      isWeak (setOddParity other) = isWeak (setOddParity key)) ∧
    ((∀ octet ∈ key, HasOddParity octet) → (key ∈ weakKeys ↔ HasRepeatingHalves key)) := by
  refine ⟨?_, hasRepeatingHalves_iff key, fun other hother ↦ ?_, fun hparity ↦ ?_⟩
  · rw [isWeak, List.contains_iff_mem]
    exact setOddParity_mem_weakKeys_iff hkey
  · rw [setOddParity_eq_iff.mpr hother]
  · have hset : setOddParity key = key :=
      (List.map_congr_left fun octet hoctet ↦
        oddParity_of_hasOddParity (hparity octet hoctet)).trans (List.map_id key)
    rw [← setOddParity_mem_weakKeys_iff hkey, hset]

/-- A semi-weak key with all parity bits flipped is not in the table, and is found there once its
parity is set. -/
theorem isWeak_of_flippedParity :
    let flipped : Octets := [0x1E, 0xE1, 0x1E, 0xE1, 0x0F, 0xF0, 0x0F, 0xF0]
    let weak : Octets := [0x1F, 0xE0, 0x1F, 0xE0, 0x0E, 0xF1, 0x0E, 0xF1]
    flipped.length = keySize ∧ flipped ∉ weakKeys ∧ SameButParity weak flipped ∧
      isWeak (setOddParity flipped) = true ∧ isWeak (setOddParity weak) = true ∧
      weak ∈ weakKeys := by
  intro flipped weak
  have hhalves : HasRepeatingHalves flipped ∧ HasRepeatingHalves weak := by decide
  have hparity : ∀ octet ∈ weak, HasOddParity octet := by decide +kernel
  have hsame : SameButParity weak flipped := by decide +kernel
  have hlength : flipped.length = keySize ∧ weak.length = keySize := ⟨rfl, rfl⟩
  have hweak := (isWeak_setOddParity_iff hlength.1).1.mpr hhalves.1
  refine ⟨rfl, by decide, hsame, hweak, ?_, ?_⟩
  · rw [(isWeak_setOddParity_iff hlength.1).2.2.1 weak hsame]
    exact hweak
  · exact ((isWeak_setOddParity_iff hlength.2).2.2.2 hparity).mpr hhalves.2

end AfsToken.Des
