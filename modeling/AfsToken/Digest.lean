import AfsToken.Octets.Integer

/-!
# The MD5 digest, and HMAC over it

The digest of a message is the final state of four words, after one round of 64 steps for each
block of 64 octets.  The message is padded to whole blocks and ends with its length in bits.  The
keyed digest takes a key of any length: a long one is replaced by its digest, and a short one, the
empty one included, is filled up with zeros.  A digest always has 16 octets.
-/

namespace AfsToken.Digest.Md5

/-- The four words that the rounds work on. -/
structure State where
  a : UInt32
  b : UInt32
  c : UInt32
  d : UInt32
  deriving DecidableEq, Repr

/-- The state before the first block. -/
def State.initial : State := ⟨0x67452301, 0xefcdab89, 0x98badcfe, 0x10325476⟩

/-- The word added in each step: the first 32 bits of the fraction of the sine of its number. -/
def sines : List UInt32 :=
  [0xd76aa478, 0xe8c7b756, 0x242070db, 0xc1bdceee, 0xf57c0faf, 0x4787c62a, 0xa8304613, 0xfd469501,
   0x698098d8, 0x8b44f7af, 0xffff5bb1, 0x895cd7be, 0x6b901122, 0xfd987193, 0xa679438e, 0x49b40821,
   0xf61e2562, 0xc040b340, 0x265e5a51, 0xe9b6c7aa, 0xd62f105d, 0x02441453, 0xd8a1e681, 0xe7d3fbc8,
   0x21e1cde6, 0xc33707d6, 0xf4d50d87, 0x455a14ed, 0xa9e3e905, 0xfcefa3f8, 0x676f02d9, 0x8d2a4c8a,
   0xfffa3942, 0x8771f681, 0x6d9d6122, 0xfde5380c, 0xa4beea44, 0x4bdecfa9, 0xf6bb4b60, 0xbebfbc70,
   0x289b7ec6, 0xeaa127fa, 0xd4ef3085, 0x04881d05, 0xd9d4d039, 0xe6db99e5, 0x1fa27cf8, 0xc4ac5665,
   0xf4292244, 0x432aff97, 0xab9423a7, 0xfc93a039, 0x655b59c3, 0x8f0ccc92, 0xffeff47d, 0x85845dd1,
   0x6fa87e4f, 0xfe2ce6e0, 0xa3014314, 0x4e0811a1, 0xf7537e82, 0xbd3af235, 0x2ad7d2bb, 0xeb86d391]

/-- The distances of the rotations: four of them in turn for each sixteen steps. -/
def rotations : List (List UInt32) :=
  [[7, 12, 17, 22], [5, 9, 14, 20], [4, 11, 16, 23], [6, 10, 15, 21]]

def rotateLeft (word distance : UInt32) : UInt32 :=
  (word <<< distance) ||| (word >>> (32 - distance))

/-- What a step mixes of three words, and which word of the block it takes. -/
def mix (step : Nat) (b c d : UInt32) : UInt32 × Nat :=
  if step < 16 then ((b &&& c) ||| (~~~b &&& d), step)
  else if step < 32 then ((d &&& b) ||| (~~~d &&& c), (5 * step + 1) % 16)
  else if step < 48 then (b ^^^ c ^^^ d, (3 * step + 5) % 16)
  else (c ^^^ (b ||| ~~~d), 7 * step % 16)

/-- One step of a round. -/
def State.step (words : List UInt32) (state : State) (step : Nat) : State :=
  let (mixed, index) := mix step state.b state.c state.d
  let sum := state.a + mixed + sines.getD step 0 + words.getD index 0
  let distance := (rotations.getD (step / 16) []).getD (step % 4) 0
  ⟨state.d, state.b + rotateLeft sum distance, state.b, state.c⟩

/-- The words of a block, each with its least significant octet first. -/
def wordsOf (block : Octets) : List UInt32 :=
  (Octets.blocks 4 block).map fun word ↦ UInt32.ofNat (Octets.toNatLE word)

/-- One round: the steps over a block, added to the state before them. -/
def State.round (state : State) (block : Octets) : State :=
  let words := wordsOf block
  let mixed := (List.range 64).foldl (State.step words) state
  ⟨state.a + mixed.a, state.b + mixed.b, state.c + mixed.c, state.d + mixed.d⟩

/-- A message with one bit set behind it, zeros up to eight octets before the end of a block, and
its length in bits. -/
def pad (message : Octets) : Octets :=
  message ++ [0x80] ++ List.replicate ((55 + 64 - message.length % 64) % 64) 0 ++
    Octets.ofNatLE 8 (8 * message.length)

/-- The octets of a state. -/
def State.octets (state : State) : Octets :=
  [state.a, state.b, state.c, state.d].flatMap fun word ↦ Octets.ofNatLE 4 word.toNat

/-- The digest of a message. -/
def digest (message : Octets) : Octets :=
  ((Octets.blocks 64 (pad message)).foldl State.round State.initial).octets

@[simp]
theorem length_digest (message : Octets) : (digest message).length = 16 := by
  simp [digest, State.octets]

end AfsToken.Digest.Md5

namespace AfsToken.Digest.Hmac

/-- The octets that a block of the digest takes. -/
def blockSize : Nat := 64

/-- The key in the form of one block. -/
def blockKey (key : Octets) : Octets :=
  let short := if key.length > blockSize then Md5.digest key else key
  short ++ List.replicate (blockSize - short.length) 0

/-- The keyed digest of a message. -/
def digest (key message : Octets) : Octets :=
  let block := blockKey key
  let inner := Md5.digest (block.map (· ^^^ 0x36) ++ message)
  Md5.digest (block.map (· ^^^ 0x5c) ++ inner)

@[simp]
theorem length_digest (key message : Octets) : (digest key message).length = 16 :=
  Md5.length_digest _

end AfsToken.Digest.Hmac
