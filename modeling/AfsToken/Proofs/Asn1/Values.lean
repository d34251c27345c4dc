import AfsToken.Asn1.Value
import AfsToken.Proofs.Asn1.RoundTrip

/-!
# Values that are read back

Every integer, text, octet string and flag set is read back.  Integers are written in the fewest
octets that hold them, and flags always in four, so it does not matter in how many octets they were
read.
-/

namespace AfsToken.Asn1

open AfsToken.Text

/-! ## Integers -/

theorem span_pos (width : Nat) : 0 < Octets.span width := by
  induction width with
  | zero => exact Nat.one_pos
  | succ width ih => exact Nat.mul_pos (by decide) ih

theorem holds_eq_true_iff {size : Nat} {value : Int} :
    holds size value = true ↔
      -(Octets.span size : Int) ≤ 2 * value ∧ 2 * value < Octets.span size := by
  simp [holds]

/-- A number is read back from octets that hold it. -/
theorem signedValue_ofNatBE {size : Nat} {value : Int} (h : holds size value = true) :
    signedValue (Octets.ofNatBE size (value % Octets.span size).toNat) = value := by
  obtain ⟨hlow, hhigh⟩ := holds_eq_true_iff.mp h
  have hspan := span_pos size
  have hmod : (value % Octets.span size).toNat % Octets.span size =
      (value % Octets.span size).toNat := by
    apply Nat.mod_eq_of_lt
    have hlt := Int.emod_lt_of_pos value (show (0 : Int) < Octets.span size by omega)
    omega
  rw [signedValue, Octets.toNatBE_ofNatBE, hmod, Octets.length_ofNatBE]
  by_cases hsign : 0 ≤ value
  · rw [Int.emod_eq_of_lt hsign (by omega)]
    split <;> omega
  · have hwrapped : value % Octets.span size = value + Octets.span size := by
      rw [← Int.add_emod_right, Int.emod_eq_of_lt (by omega) (by omega)]
    rw [hwrapped]
    split <;> omega

/-- The octets of a number of 32 bits hold it, and there are one to four of them. -/
theorem holds_signedSize (value : Int32) : holds (signedSize value.toInt) value.toInt = true ∧
    1 ≤ signedSize value.toInt ∧ signedSize value.toInt ≤ 4 := by
  unfold signedSize
  split
  next h => exact ⟨h, by decide⟩
  split
  next h => exact ⟨h, by decide⟩
  split
  next h => exact ⟨h, by decide⟩
  next =>
    refine ⟨holds_eq_true_iff.mpr ?_, by decide⟩
    have hlow := value.le_toInt
    have hhigh := value.toInt_lt
    have hspan : Octets.span 4 = 2 ^ 32 := rfl
    omega

theorem int32OfContent_contentOfInt32 (value : Int32) :
    int32OfContent (contentOfInt32 value) = .ok value := by
  obtain ⟨hholds, hleast, hmost⟩ := holds_signedSize value
  rw [int32OfContent, contentOfInt32, Octets.length_ofNatBE, if_pos ⟨hleast, hmost⟩,
    signedValue_ofNatBE hholds, Int32.ofInt_toInt]

theorem reads_int32 (value : Int32) : Reads readInt32 (encodeInt32 value) value :=
  reads_through (by decide) fun _ ↦ int32OfContent_contentOfInt32 value

theorem reads_uint32 (value : UInt32) : Reads readUInt32 (encodeUInt32 value) value := by
  have hread := (reads_int32 value.toInt32).map Int32.toUInt32
  rwa [UInt32.toUInt32_toInt32] at hread

/-! ## Strings -/

theorem reads_octets (octets : Octets) : Reads readOctets (encodeOctets octets) octets :=
  reads_element (by decide) octets

theorem reads_text (text : String) : Reads readText (encodeText text) text := by
  have hread : Reads readText (encodeText text ++ []) text := by
    apply (reads_element (by decide) (Utf8.encode text)).bind
    rw [Utf8.decode?_encode]
    exact .pure text
  rwa [List.append_nil] at hread

/-! ## Flags -/

theorem clearLow_zero (octet : UInt8) : clearLow 0 octet = octet := by
  simp [clearLow]

theorem flagsOfContent_encode (flags : UInt32) :
    flagsOfContent (0 :: Octets.ofNatBE 4 flags.toNat) = .ok flags := by
  have hlength := Octets.length_ofNatBE 4 flags.toNat
  have hkept : (Octets.ofNatBE 4 flags.toNat).dropLast ++
      (Octets.ofNatBE 4 flags.toNat).getLast?.toList.map (clearLow 0) =
        Octets.ofNatBE 4 flags.toNat := by
    have hne : Octets.ofNatBE 4 flags.toNat ≠ [] := List.ne_nil_of_length_pos (by omega)
    rw [List.getLast?_eq_some_getLast hne, Option.toList_some, List.map_singleton, clearLow_zero,
      List.dropLast_concat_getLast]
  have hvalue : flags.toNat % Octets.span 4 = flags.toNat := Nat.mod_eq_of_lt flags.toNat_lt
  rw [flagsOfContent]
  simp only [UInt8.toNat_zero, hkept]
  rw [List.take_left' hlength, Octets.toNatBE_ofNatBE, hvalue, UInt32.ofNat_toNat]

theorem reads_flags (flags : UInt32) : Reads readFlags (encodeFlags flags) flags :=
  reads_through (by decide) fun _ ↦ flagsOfContent_encode flags

end AfsToken.Asn1
