import AfsToken.Octets.Basic

/-!
# DES keys

A DES key has eight octets, and the low bit of each is a parity bit: it makes the number of ones in
the octet odd.  Setting the parity keeps the seven other bits, and setting it again changes nothing.
Sixteen keys are unfit for use.  A Triple-DES key is made of random strings of 56 bits, each of them
expanded to a DES key, and contracting a key gives the strings back.
-/

namespace AfsToken.Des

/-! ## Odd parity -/

/-- The number of ones among the bits of an octet. -/
def ones (octet : UInt8) : Nat := (List.range 8).countP fun bit ↦ octet.toNat.testBit bit

/-- Whether the number of ones is odd. -/
def HasOddParity (octet : UInt8) : Prop := ones octet % 2 = 1

instance (octet : UInt8) : Decidable (HasOddParity octet) := by
  unfold HasOddParity
  infer_instance

/-- An octet with its low bit chosen so that the number of ones is odd. -/
def oddParity (octet : UInt8) : UInt8 :=
  let high := octet &&& 0xfe
  if ones high % 2 = 0 then high ||| 1 else high

/-- A key with odd parity in each octet. -/
def setOddParity (key : Octets) : Octets := key.map oddParity

theorem hasOddParity_oddParity (octet : UInt8) : HasOddParity (oddParity octet) :=
  Octets.forall_octet (p := fun octet ↦ HasOddParity (oddParity octet)) (by decide +kernel) octet

theorem oddParity_and_high (octet : UInt8) : oddParity octet &&& 0xfe = octet &&& 0xfe :=
  Octets.forall_octet (p := fun octet ↦ oddParity octet &&& 0xfe = octet &&& 0xfe)
    (by decide +kernel) octet

theorem oddParity_of_hasOddParity {octet : UInt8} (h : HasOddParity octet) :
    oddParity octet = octet :=
  Octets.forall_octet (p := fun octet ↦ HasOddParity octet → oddParity octet = octet)
    (by decide +kernel) octet h

/-- The parity depends only on the seven other bits. -/
theorem oddParity_eq_iff (left right : UInt8) :
    oddParity left = oddParity right ↔ left &&& 0xfe = right &&& 0xfe := by
  constructor
  · intro h
    rw [← oddParity_and_high left, h, oddParity_and_high]
  · intro h
    simp [oddParity, h]

@[simp]
theorem length_setOddParity (key : Octets) : (setOddParity key).length = key.length := by
  simp [setOddParity]

theorem hasOddParity_of_mem_setOddParity {key : Octets} {octet : UInt8}
    (h : octet ∈ setOddParity key) : HasOddParity octet := by
  obtain ⟨original, _, rfl⟩ := List.mem_map.mp h
  exact hasOddParity_oddParity original

theorem setOddParity_setOddParity (key : Octets) :
    setOddParity (setOddParity key) = setOddParity key := by
  simp [setOddParity, oddParity_of_hasOddParity (hasOddParity_oddParity _)]

/-! ## Weak and semi-weak keys

Each of the four weak keys undoes its own encryption, and each of the twelve semi-weak ones undoes
that of another.  The table lists them with odd parity, so a key is looked up after its parity has
been set. -/

/-- The octets of a DES key. -/
def keySize : Nat := 8

/-- The weak keys, and behind them the pairs of semi-weak keys. -/
def weakKeys : List Octets :=
  [[0x01, 0x01, 0x01, 0x01, 0x01, 0x01, 0x01, 0x01],
   [0xFE, 0xFE, 0xFE, 0xFE, 0xFE, 0xFE, 0xFE, 0xFE],
   [0x1F, 0x1F, 0x1F, 0x1F, 0x0E, 0x0E, 0x0E, 0x0E],
   [0xE0, 0xE0, 0xE0, 0xE0, 0xF1, 0xF1, 0xF1, 0xF1],
   [0x01, 0xFE, 0x01, 0xFE, 0x01, 0xFE, 0x01, 0xFE],
   [0xFE, 0x01, 0xFE, 0x01, 0xFE, 0x01, 0xFE, 0x01],
   [0x1F, 0xE0, 0x1F, 0xE0, 0x0E, 0xF1, 0x0E, 0xF1],
   [0xE0, 0x1F, 0xE0, 0x1F, 0xF1, 0x0E, 0xF1, 0x0E],
   [0x01, 0xE0, 0x01, 0xE0, 0x01, 0xF1, 0x01, 0xF1],
   [0xE0, 0x01, 0xE0, 0x01, 0xF1, 0x01, 0xF1, 0x01],
   [0x1F, 0xFE, 0x1F, 0xFE, 0x0E, 0xFE, 0x0E, 0xFE],
   [0xFE, 0x1F, 0xFE, 0x1F, 0xFE, 0x0E, 0xFE, 0x0E],
   [0x01, 0x1F, 0x01, 0x1F, 0x01, 0x0E, 0x01, 0x0E],
   [0x1F, 0x01, 0x1F, 0x01, 0x0E, 0x01, 0x0E, 0x01],
   [0xE0, 0xFE, 0xE0, 0xFE, 0xF1, 0xFE, 0xF1, 0xFE],
   [0xFE, 0xE0, 0xFE, 0xE0, 0xFE, 0xF1, 0xFE, 0xF1]]

/-- Whether a key is weak or semi-weak. -/
def isWeak (key : Octets) : Bool := weakKeys.contains key

/-! ## The halves of the key schedule

The key schedule drops the parity bits of a key and splits the other 56 into two halves, by a fixed
choice of positions.  It then rotates each half by one or two positions for every round.  A half
that a rotation by two leaves alone gives at most two different round keys: that is what makes a key
weak or semi-weak. -/

/-- The positions of the left half.  Position 1 is the high bit of the first octet. -/
def leftChoice : List Nat :=
  [57, 49, 41, 33, 25, 17, 9, 1, 58, 50, 42, 34, 26, 18,
   10, 2, 59, 51, 43, 35, 27, 19, 11, 3, 60, 52, 44, 36]

/-- The positions of the right half. -/
def rightChoice : List Nat :=
  [63, 55, 47, 39, 31, 23, 15, 7, 62, 54, 46, 38, 30, 22,
   14, 6, 61, 53, 45, 37, 29, 21, 13, 5, 28, 20, 12, 4]

/-- The bit of a key at a position. -/
def bitAt (key : Octets) (position : Nat) : Bool :=
  (key.getD ((position - 1) / 8) 0).toNat.testBit (7 - (position - 1) % 8)

/-- The bits of a key at the positions of a choice. -/
def half (choice : List Nat) (key : Octets) : List Bool := choice.map (bitAt key)

/-- A list with its first `distance` elements moved to its end. -/
def rotate {α : Type} (distance : Nat) (items : List α) : List α :=
  items.drop distance ++ items.take distance

/-- Whether a rotation by two positions leaves both halves of a key as they are. -/
def HasRepeatingHalves (key : Octets) : Prop :=
  rotate 2 (half leftChoice key) = half leftChoice key ∧
    rotate 2 (half rightChoice key) = half rightChoice key

instance (key : Octets) : Decidable (HasRepeatingHalves key) := by
  unfold HasRepeatingHalves
  infer_instance

/-- Every key of the table has repeating halves. -/
theorem hasRepeatingHalves_of_mem_weakKeys : ∀ key ∈ weakKeys, HasRepeatingHalves key := by
  decide

/-! ## Triple-DES keys and their random strings

The seven low bits of the octets of a random string move into an eighth octet, and their places are
taken by parity bits.  Contracting a key moves them back. -/

/-- The octets of the random string of one DES key. -/
def randomSize : Nat := 7

/-- The random string of one DES key.  The last octet of the key holds the low bits of the octets of
the string, that of the first octet lowest, above its parity bit. -/
def contractBlock (key : Octets) : Octets :=
  (key.take randomSize).mapIdx fun index octet ↦
    (octet &&& 0xfe) ||| ((key.getD randomSize 0 >>> UInt8.ofNat (index + 1)) &&& 1)

/-- The random strings of the complete DES keys at the front, one behind the other. -/
def contract (key : Octets) : Octets := (Octets.blocks keySize key).flatMap contractBlock

/-- The octet that takes the low bits of a random string. -/
def lowBits (random : Octets) : UInt8 :=
  (random.mapIdx fun index octet ↦ (octet &&& 1) <<< UInt8.ofNat (index + 1)).foldl (· ||| ·) 0

/-- The DES key of a random string. -/
def expandBlock (random : Octets) : Octets :=
  setOddParity (random.map (· &&& 0xfe) ++ [lowBits random])

/-- The key of the complete random strings at the front. -/
def expand (random : Octets) : Octets := (Octets.blocks randomSize random).flatMap expandBlock

theorem length_contractBlock {key : Octets} (h : key.length = keySize) :
    (contractBlock key).length = randomSize := by
  simp [contractBlock, h, keySize, randomSize]

/-- Each complete DES key gives seven octets, and what is left over gives none. -/
theorem length_contract (key : Octets) :
    (contract key).length = randomSize * (key.length / keySize) := by
  have hsum (blocks : List Octets) (h : ∀ block ∈ blocks, block.length = keySize) :
      (blocks.flatMap contractBlock).length = randomSize * blocks.length := by
    induction blocks with
    | nil => rfl
    | cons block rest ih =>
        rw [List.flatMap_cons, List.length_append, length_contractBlock (h block (by simp)),
          ih fun other hother ↦ h other (by simp [hother]), List.length_cons, Nat.mul_succ,
          Nat.add_comm]
  rw [contract, hsum _ fun block hblock ↦ Octets.length_of_mem_blocks hblock,
    Octets.length_blocks (by decide)]

end AfsToken.Des
