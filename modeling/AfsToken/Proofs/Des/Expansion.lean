import AfsToken.Des
import AfsToken.Proofs.Des.ParityBits

/-!
# Expanding and contracting

The expansion of a random string moves the low bit of each octet into the eighth octet, one place
above the number of the octet, and the contraction moves it back.  Every other bit stays where it
is.  So contracting undoes expanding, and expanding undoes contracting up to the parity bits, first
for one DES key and then for any number of them.
-/

namespace AfsToken.Des

open AfsToken.Octets

/-! ## One key -/

variable {key other random : Octets} {index bit : Nat}

/-- The octet of the low bits has each of them one place above the number of its octet. -/
theorem testBit_lowBits (hrandom : random.length = randomSize) (hbit : bit < randomSize) :
    (lowBits random).toNat.testBit (bit + 1) = (random.getD bit 0).toNat.testBit 0 := by
  have hsize : randomSize = 7 := rfl
  have hpart (octet : UInt8) {index : Nat} (hindex : index < randomSize) :
      ((octet &&& 1) <<< UInt8.ofNat (index + 1)).toNat.testBit (bit + 1) =
        (decide (index = bit) && octet.toNat.testBit 0) := by
    rw [testBit_shiftLeft _ (by omega) (by omega), testBit_and_one, ← Bool.and_assoc,
      ← Bool.decide_and]
    congr 2
    apply propext
    omega
  rw [lowBits, testBit_foldl_or, List.getD_eq_getElem random 0 (hrandom ▸ hbit), Bool.eq_iff_iff]
  simp only [UInt8.toNat_zero, Nat.zero_testBit, Bool.false_or, List.any_eq_true, List.mem_mapIdx]
  constructor
  · rintro ⟨_, ⟨index, hindex, rfl⟩, hset⟩
    rw [hpart _ (hrandom ▸ hindex), Bool.and_eq_true, decide_eq_true_eq] at hset
    obtain ⟨rfl, hset⟩ := hset
    exact hset
  · intro hset
    refine ⟨_, ⟨bit, hrandom ▸ hbit, rfl⟩, ?_⟩
    rw [hpart _ hbit, hset]
    simp

/-- An octet of the random string has its low bit from the eighth octet of the key, and the others
from the octet in its place. -/
theorem testBit_contractBlock (hkey : key.length = keySize) (hindex : index < randomSize)
    (hbit : bit < 8) :
    ((contractBlock key).getD index 0).toNat.testBit bit =
      if bit = 0 then (key.getD randomSize 0).toNat.testBit (index + 1)
      else (key.getD index 0).toNat.testBit bit := by
  have hsize : randomSize = 7 := rfl
  have hplace : index < key.length := by
    rw [hkey]
    exact Nat.lt_succ_of_lt hindex
  rw [List.getD_eq_getElem _ 0 (by rw [length_contractBlock hkey]; exact hindex),
    List.getD_eq_getElem key 0 hplace]
  unfold contractBlock
  rw [List.getElem_mapIdx, List.getElem_take, UInt8.toNat_or, Nat.testBit_or,
    testBit_and_high _ hbit, testBit_and_one, testBit_shiftRight _ (by omega), Nat.add_zero]
  by_cases hlow : bit = 0 <;> simp [hlow]

theorem length_expandBlock (hrandom : random.length = randomSize) :
    (expandBlock random).length = keySize := by
  rw [expandBlock, length_setOddParity, List.length_append, List.length_map, hrandom]
  rfl

/-- The octets of an expansion before their parity is set. -/
theorem testBit_woven (hrandom : random.length = randomSize) (hindex : index < keySize)
    (hhigh : bit ≠ 0) (hbit : bit < 8) :
    ((random.map (· &&& 0xfe) ++ [lowBits random]).getD index 0).toNat.testBit bit =
      if index < randomSize then (random.getD index 0).toNat.testBit bit
      else (random.getD (bit - 1) 0).toNat.testBit 0 := by
  have hmap : (random.map (· &&& 0xfe)).length = randomSize := by rw [List.length_map, hrandom]
  split
  next hfront =>
    have hplace : index < random.length := hrandom ▸ hfront
    rw [List.getD_append _ _ 0 _ (hmap ▸ hfront), List.getD_eq_getElem _ 0 (hmap ▸ hfront),
      List.getElem_map, testBit_and_high _ hbit, decide_eq_true hhigh, Bool.true_and,
      List.getD_eq_getElem random 0 hplace]
  next hlast =>
    have hindex : index = randomSize := by
      have hsize : keySize = randomSize + 1 := rfl
      omega
    obtain ⟨place, rfl⟩ := Nat.exists_eq_succ_of_ne_zero hhigh
    rw [List.getD_append_right _ _ 0 _ (by omega), hmap, hindex, Nat.sub_self]
    exact testBit_lowBits hrandom (Nat.lt_of_succ_lt_succ hbit)

/-- A key agrees with the expansion of a random string outside its parity bits exactly if it has the
high bits of the octets of the string in their places, and their low bits in the eighth octet. -/
theorem sameButParity_expandBlock_iff (hrandom : random.length = randomSize)
    (hkey : key.length = keySize) :
    SameButParity (expandBlock random) key ↔ ∀ index < randomSize,
      (∀ bit, bit ≠ 0 → bit < 8 →
        (random.getD index 0).toNat.testBit bit = (key.getD index 0).toNat.testBit bit) ∧
      (random.getD index 0).toNat.testBit 0 =
        (key.getD randomSize 0).toNat.testBit (index + 1) := by
  have hlength : (random.map (· &&& 0xfe) ++ [lowBits random]).length = keySize := by
    rw [List.length_append, List.length_map, hrandom]
    rfl
  rw [← setOddParity_eq_iff, expandBlock, setOddParity_setOddParity, setOddParity_eq_iff,
    sameButParity_iff, hlength]
  constructor
  · rintro ⟨-, h⟩ index hindex
    have hsize : index + 1 < 8 := Nat.succ_lt_succ hindex
    refine ⟨fun bit hhigh hbit ↦ ?_, ?_⟩
    · rw [← h index (Nat.lt_succ_of_lt hindex) bit hhigh hbit,
        testBit_woven hrandom (Nat.lt_succ_of_lt hindex) hhigh hbit, if_pos hindex]
    · rw [← h randomSize (by decide) (index + 1) (Nat.succ_ne_zero index) hsize,
        testBit_woven hrandom (by decide) (Nat.succ_ne_zero index) hsize,
        if_neg (Nat.lt_irrefl randomSize), Nat.succ_sub_one]
  · intro h
    refine ⟨hkey.symm, fun index hindex bit hhigh hbit ↦ ?_⟩
    rw [testBit_woven hrandom hindex hhigh hbit]
    split
    next hfront => exact (h index hfront).1 bit hhigh hbit
    next hlast =>
      obtain rfl : index = randomSize := Nat.eq_of_lt_succ_of_not_lt hindex hlast
      obtain ⟨place, rfl⟩ := Nat.exists_eq_succ_of_ne_zero hhigh
      exact (h place (Nat.lt_of_succ_lt_succ hbit)).2

/-- Contracting undoes expanding. -/
theorem contractBlock_expandBlock (hrandom : random.length = randomSize) :
    contractBlock (expandBlock random) = random := by
  have hkey := length_expandBlock hrandom
  have hbits := (sameButParity_expandBlock_iff hrandom hkey).mp rfl
  apply eq_of_bits ((length_contractBlock hkey).trans hrandom.symm)
  intro index hindex bit hbit
  rw [length_contractBlock hkey] at hindex
  rw [testBit_contractBlock hkey hindex hbit]
  split
  next hlow => rw [hlow, (hbits index hindex).2]
  next hhigh => exact ((hbits index hindex).1 bit hhigh hbit).symm

/-- Expanding undoes contracting up to the parity bits. -/
theorem expandBlock_contractBlock (hkey : key.length = keySize) :
    expandBlock (contractBlock key) = setOddParity key := by
  have hrandom := length_contractBlock hkey
  have hsame : SameButParity (expandBlock (contractBlock key)) key := by
    rw [sameButParity_expandBlock_iff hrandom hkey]
    intro index hindex
    refine ⟨fun bit hhigh hbit ↦ ?_, ?_⟩
    · rw [testBit_contractBlock hkey hindex hbit, if_neg hhigh]
    · rw [testBit_contractBlock hkey hindex (by decide), if_pos rfl]
  -- The expansion has its parity set already.
  rw [← setOddParity_eq_iff.mpr hsame, expandBlock, setOddParity_setOddParity]

/-! ## Any number of keys -/

theorem keySize_pos : 0 < keySize := by decide

theorem randomSize_pos : 0 < randomSize := by decide

/-- Contracting undoes expanding, string by string. -/
theorem contract_flatMap_expandBlock {randoms : List Octets}
    (h : ∀ random ∈ randoms, random.length = randomSize) :
    contract (randoms.flatMap expandBlock) = randoms.flatten := by
  have hblocks : ∀ block ∈ randoms.map expandBlock, block.length = keySize := by
    intro block hblock
    obtain ⟨random, hrandom, rfl⟩ := List.mem_map.mp hblock
    exact length_expandBlock (h random hrandom)
  calc
    contract (randoms.flatMap expandBlock) =
        (blocks keySize (randoms.map expandBlock).flatten).flatMap contractBlock := rfl
    _ = (randoms.map expandBlock).flatMap contractBlock := by
      rw [blocks_flatten keySize_pos hblocks]
    _ = (randoms.map (contractBlock ∘ expandBlock)).flatten := by
      rw [List.flatMap_def, List.map_map]
    _ = randoms.flatten := by
      have hinverse : ∀ random ∈ randoms, (contractBlock ∘ expandBlock) random = random :=
        fun random hrandom ↦ contractBlock_expandBlock (h random hrandom)
      rw [List.map_congr_left hinverse, List.map_id']

/-- Contracting undoes expanding. -/
theorem contract_expand (hrandom : random.length % randomSize = 0) :
    contract (expand random) = random := by
  rw [expand, contract_flatMap_expandBlock fun _ hblock ↦ length_of_mem_blocks hblock,
    flatten_blocks randomSize_pos hrandom]

/-- Expanding undoes contracting up to the parity bits, piece by piece. -/
theorem expand_contract (hkey : key.length % keySize = 0) :
    expand (contract key) = setOddParity key := by
  have hpieces : ∀ piece ∈ (blocks keySize key).map contractBlock, piece.length = randomSize := by
    intro piece hpiece
    obtain ⟨block, hblock, rfl⟩ := List.mem_map.mp hpiece
    exact length_contractBlock (length_of_mem_blocks hblock)
  calc
    expand (contract key) =
        (blocks randomSize ((blocks keySize key).map contractBlock).flatten).flatMap expandBlock :=
      rfl
    _ = ((blocks keySize key).map contractBlock).flatMap expandBlock := by
      rw [blocks_flatten randomSize_pos hpieces]
    _ = ((blocks keySize key).map (expandBlock ∘ contractBlock)).flatten := by
      rw [List.flatMap_def, List.map_map]
    _ = ((blocks keySize key).map setOddParity).flatten := by
      have hinverse : ∀ block ∈ blocks keySize key,
          (expandBlock ∘ contractBlock) block = setOddParity block :=
        fun block hblock ↦ expandBlock_contractBlock (length_of_mem_blocks hblock)
      rw [List.map_congr_left hinverse]
    _ = setOddParity (blocks keySize key).flatten := List.map_flatten.symm
    _ = setOddParity key := by rw [flatten_blocks keySize_pos hkey]

/-- What is left over behind the complete keys is not looked at. -/
theorem contract_append_of_length_lt {rest : Octets} (hkey : key.length % keySize = 0)
    (hrest : rest.length < keySize) : contract (key ++ rest) = contract key := by
  have hblocks : blocks keySize (key ++ rest) = blocks keySize key := by
    rw [← flatten_blocks keySize_pos hkey,
      blocks_flatten_append (fun _ hblock ↦ length_of_mem_blocks hblock) hrest,
      blocks_flatten keySize_pos fun _ hblock ↦ length_of_mem_blocks hblock]
  rw [contract, hblocks, contract]

theorem contract_setOddParity (hkey : key.length % keySize = 0) :
    contract (setOddParity key) = contract key := by
  have hrandom : (contract key).length % randomSize = 0 := by
    rw [length_contract, Nat.mul_mod_right]
  rw [← expand_contract hkey, contract_expand hrandom]

/-- Two keys of one length have the same random string exactly if they agree outside their parity
bits. -/
theorem contract_eq_iff (hkey : key.length % keySize = 0) (hlength : other.length = key.length) :
    contract key = contract other ↔ SameButParity key other := by
  have hother : other.length % keySize = 0 := hlength ▸ hkey
  rw [← setOddParity_eq_iff]
  constructor
  · intro h
    rw [← expand_contract hkey, h, expand_contract hother]
  · intro h
    rw [← contract_setOddParity hkey, h, contract_setOddParity hother]

end AfsToken.Des
