import AfsToken.Des
import Mathlib.Data.List.Forall2
import Mathlib.Data.List.GetD

/-!
# Bits of octets, and keys that differ in parity bits

An octet is known by its eight bits.  The operations on octets that a DES key goes through are read
bit by bit: the masks of the low bit and of the seven others keep some bits and clear the rest, and
a shift moves each bit to another place.  Setting the parity of a key forgets the parity bits that
it had.  So two keys have the same parity adjusted form exactly if they agree in all other bits,
seven in each octet.
-/

namespace AfsToken.Octets

/-- Octets with the same eight bits are equal. -/
theorem eq_of_testBit_eq {left right : UInt8}
    (h : ∀ bit < 8, left.toNat.testBit bit = right.toNat.testBit bit) : left = right := by
  apply UInt8.toNat_inj.mp
  apply Nat.eq_of_testBit_eq
  intro bit
  by_cases hbit : bit < 8
  · exact h bit hbit
  · have hbeyond (octet : UInt8) : octet.toNat.testBit bit = false :=
      Nat.testBit_lt_two_pow (Nat.lt_of_lt_of_le octet.toNat_lt
        (Nat.pow_le_pow_right Nat.two_pos (Nat.le_of_not_lt hbit)))
    rw [hbeyond, hbeyond]

/-- The mask of the seven high bits clears the low one. -/
theorem testBit_and_high (octet : UInt8) {bit : Nat} (hbit : bit < 8) :
    (octet &&& 0xfe).toNat.testBit bit = (decide (bit ≠ 0) && octet.toNat.testBit bit) := by
  have hmask : ∀ place : Fin 8, Nat.testBit 0xfe place = decide (place.val ≠ 0) := by decide
  rw [UInt8.toNat_and, Nat.testBit_and, Bool.and_comm]
  exact congrArg (· && octet.toNat.testBit bit) (hmask ⟨bit, hbit⟩)

/-- The mask of the low bit clears the seven others. -/
theorem testBit_and_one (octet : UInt8) (bit : Nat) :
    (octet &&& 1).toNat.testBit bit = (decide (bit = 0) && octet.toNat.testBit 0) := by
  have hone : Nat.testBit (1 : UInt8).toNat bit = decide (bit = 0) := by
    simpa [eq_comm] using Nat.testBit_two_pow (n := 0) (m := bit)
  rw [UInt8.toNat_and, Nat.testBit_and, hone]
  by_cases hbit : bit = 0 <;> simp [hbit]

theorem testBit_shiftLeft (octet : UInt8) {distance bit : Nat} (hdistance : distance < 8)
    (hbit : bit < 8) :
    (octet <<< UInt8.ofNat distance).toNat.testBit bit =
      (decide (distance ≤ bit) && octet.toNat.testBit (bit - distance)) := by
  have hplaces : (UInt8.ofNat distance).toNat % 8 = distance := by
    rw [UInt8.toNat_ofNat']
    omega
  rw [UInt8.toNat_shiftLeft, hplaces, Nat.testBit_mod_two_pow, Nat.testBit_shiftLeft]
  simp [hbit]

theorem testBit_shiftRight (octet : UInt8) {distance : Nat} (hdistance : distance < 8)
    (bit : Nat) :
    (octet >>> UInt8.ofNat distance).toNat.testBit bit = octet.toNat.testBit (distance + bit) := by
  have hplaces : (UInt8.ofNat distance).toNat % 8 = distance := by
    rw [UInt8.toNat_ofNat']
    omega
  rw [UInt8.toNat_shiftRight, hplaces, Nat.testBit_shiftRight]

/-- A bit of a union is a bit of one of the parts. -/
theorem testBit_foldl_or (parts : Octets) (start : UInt8) (bit : Nat) :
    (parts.foldl (· ||| ·) start).toNat.testBit bit =
      (start.toNat.testBit bit || parts.any (·.toNat.testBit bit)) := by
  induction parts generalizing start with
  | nil => simp
  | cons part rest ih =>
      rw [List.foldl_cons, ih, UInt8.toNat_or, Nat.testBit_or, List.any_cons, Bool.or_assoc]

/-- Octets agree in their seven high bits exactly if each of these bits is the same. -/
theorem and_high_eq_iff {left right : UInt8} :
    left &&& 0xfe = right &&& 0xfe ↔
      ∀ bit, bit ≠ 0 → bit < 8 → left.toNat.testBit bit = right.toNat.testBit bit := by
  constructor
  · intro h bit hhigh hbit
    calc
      left.toNat.testBit bit = (left &&& 0xfe).toNat.testBit bit := by
        rw [testBit_and_high left hbit, decide_eq_true hhigh, Bool.true_and]
      _ = (right &&& 0xfe).toNat.testBit bit := by rw [h]
      _ = right.toNat.testBit bit := by
        rw [testBit_and_high right hbit, decide_eq_true hhigh, Bool.true_and]
  · intro h
    apply eq_of_testBit_eq
    intro bit hbit
    rw [testBit_and_high left hbit, testBit_and_high right hbit]
    by_cases hlow : bit = 0
    · simp [hlow]
    · rw [h bit hlow hbit]

/-- Octet strings of one length with the same bits everywhere are equal. -/
theorem eq_of_bits {left right : Octets} (hlength : left.length = right.length)
    (h : ∀ index < left.length, ∀ bit < 8,
      (left.getD index 0).toNat.testBit bit = (right.getD index 0).toNat.testBit bit) :
    left = right := by
  apply List.ext_getElem hlength
  intro index hleft hright
  apply eq_of_testBit_eq
  intro bit hbit
  rw [← List.getD_eq_getElem left 0 hleft, ← List.getD_eq_getElem right 0 hright]
  exact h index hleft bit hbit

end AfsToken.Octets

namespace AfsToken.Des

/-- Two keys are equal outside their parity bits. -/
def SameButParity (left right : Octets) : Prop := left.map (· &&& 0xfe) = right.map (· &&& 0xfe)

instance (left right : Octets) : Decidable (SameButParity left right) := by
  unfold SameButParity
  infer_instance

variable {left right : Octets}

theorem SameButParity.length_eq (h : SameButParity left right) : left.length = right.length := by
  simpa using congrArg List.length h

theorem setOddParity_eq_iff :
    setOddParity left = setOddParity right ↔ SameButParity left right := by
  unfold setOddParity SameButParity
  rw [← List.forall₂_eq_eq_eq]
  simp only [List.forall₂_map_left_iff, List.forall₂_map_right_iff, oddParity_eq_iff]

theorem sameButParity_setOddParity (key : Octets) : SameButParity (setOddParity key) key :=
  setOddParity_eq_iff.mp (setOddParity_setOddParity key)

/-- Keys agree outside their parity bits exactly if they have the same length and the same high bits
in each octet. -/
theorem sameButParity_iff :
    SameButParity left right ↔ left.length = right.length ∧
      ∀ index < left.length, ∀ bit, bit ≠ 0 → bit < 8 →
        (left.getD index 0).toNat.testBit bit = (right.getD index 0).toNat.testBit bit := by
  constructor
  · intro h
    refine ⟨h.length_eq, fun index hindex ↦ Octets.and_high_eq_iff.mp ?_⟩
    have hright : index < right.length := h.length_eq ▸ hindex
    have hmasked := congrArg (·.getD index 0) h
    simpa [List.getD_eq_getElem, hindex, hright] using hmasked
  · rintro ⟨hlength, hbits⟩
    apply List.ext_getElem (by simpa using hlength)
    intro index hleft hright
    rw [List.length_map] at hleft hright
    rw [List.getElem_map, List.getElem_map, ← List.getD_eq_getElem left 0 hleft,
      ← List.getD_eq_getElem right 0 hright]
    exact Octets.and_high_eq_iff.mpr (hbits index hleft)

end AfsToken.Des
