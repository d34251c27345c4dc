import AfsToken.Asn1.Element
import AfsToken.Text.Utf8
import AfsToken.Time.Civil

/-!
# Basic values

Integers of 32 bits, texts, octet strings, flags and times, each with its reader and its writer.  An
integer is read from one to four octets and written in the fewest.  Flags are 32 bits: a shorter bit
string is filled up with zeros, a longer one is cut off.  A time is read to the second.
-/

namespace AfsToken.Asn1

open AfsToken.Text AfsToken.Time

/-! ## Integers -/

/-- The signed value of octets in two's complement, most significant first. -/
def signedValue (content : Octets) : Int :=
  let value := Octets.toNatBE content
  if 2 * value < Octets.span content.length then value
  else (value : Int) - Octets.span content.length

/-- Whether so many octets hold a signed number in two's complement. -/
def holds (size : Nat) (value : Int) : Bool :=
  -(Octets.span size : Int) ≤ 2 * value ∧ 2 * value < Octets.span size

/-- The fewest octets that hold a signed number of 32 bits. -/
def signedSize (value : Int) : Nat :=
  if holds 1 value then 1 else if holds 2 value then 2 else if holds 3 value then 3 else 4

/-- The integer of a content. -/
def int32OfContent (content : Octets) : Except Fault Int32 :=
  if 1 ≤ content.length ∧ content.length ≤ 4 then .ok (Int32.ofInt (signedValue content))
  else .error .malformed

/-- The content of an integer. -/
def contentOfInt32 (value : Int32) : Octets :=
  let size := signedSize value.toInt
  Octets.ofNatBE size (value.toInt % Octets.span size).toNat

def readInt32 : Reader Int32 := do (← readElement Tag.integer) |> Reader.through int32OfContent

def encodeInt32 (value : Int32) : Octets := element Tag.integer (contentOfInt32 value)

/-- An unsigned number has the octets of the signed one with the same bits. -/
def readUInt32 : Reader UInt32 := Int32.toUInt32 <$> readInt32

def encodeUInt32 (value : UInt32) : Octets := encodeInt32 value.toInt32

/-! ## Strings -/

def readText : Reader String := do
  match Utf8.decode? (← readElement Tag.generalString) with
  | some text => return text
  | none => Reader.malformed

def encodeText (text : String) : Octets := element Tag.generalString (Utf8.encode text)

def readOctets : Reader Octets := readElement Tag.octetString

def encodeOctets (octets : Octets) : Octets := element Tag.octetString octets

/-! ## Flags -/

/-- An octet with its low bits cleared. -/
def clearLow (bits : Nat) (octet : UInt8) : UInt8 :=
  UInt8.ofNat (octet.toNat >>> bits <<< bits)

/-- The flags of a content: the first octet counts the bits at the end that do not belong to
them. -/
def flagsOfContent : Octets → Except Fault UInt32
  | [] => .error .malformed
  | unused :: octets =>
      let kept := octets.dropLast ++ octets.getLast?.toList.map (clearLow unused.toNat)
      .ok (UInt32.ofNat (Octets.toNatBE ((kept ++ List.replicate 4 0).take 4)))

def readFlags : Reader UInt32 := do (← readElement Tag.bitString) |> Reader.through flagsOfContent

def encodeFlags (flags : UInt32) : Octets :=
  element Tag.bitString (0 :: Octets.ofNatBE 4 flags.toNat)

/-! ## Times -/

/-- The characters of some octets of a content. -/
def charactersOf (start count : Nat) (content : Octets) : List Char :=
  ((content.drop start).take count).map fun octet ↦ Char.ofNat octet.toNat

/-- The digits of a time: four for the year, which may have either sign, and two for each of the
other fields.  A sixteenth octet in front of the last is a fraction, which must be a digit. -/
def civilOfContent? (content : Octets) : Option Civil := do
  guard (15 ≤ content.length)
  let two (start : Nat) := Decimal.unsigned? (charactersOf start 2 content)
  let time : Civil := {
    year := ← Decimal.signed? (charactersOf 0 4 content)
    month := ← two 4
    day := ← two 6
    hour := ← two 8
    minute := ← two 10
    second := ← two 12 }
  guard (content.length < 17 ∨ (charactersOf 15 1 content).all Char.isDigit)
  guard (content.getLast? = some 0x5A)
  return time

/-- The time of a content.  Only after all its octets were accepted does the calendar decide. -/
def timeOfContent (content : Octets) : Except Fault Civil :=
  match civilOfContent? content with
  | none => .error .malformed
  | some time => if time.IsValid then .ok time else .error .noSuchTime

def readTime : Reader Civil := do
  (← readElement Tag.generalizedTime) |> Reader.through timeOfContent

def encodeTime (time : Civil) : Octets :=
  element Tag.generalizedTime (Utf8.encode time.generalizedText)

end AfsToken.Asn1
