import AfsToken.Octets.Basic
import AfsToken.Text.Decimal
import AfsToken.Text.Utf8

/-!
# Hexadecimal notation

Each octet is written as two lower-case digits.  The reading takes digits of either case and works
on the octets of the text: their number must be even, and the first octet that is no digit is
reported with its position, as a character between quotes.  The reading gives back every octet
string that was written.
-/

/-! ## Quoted octets

A diagnostic shows one octet as the character of the same code point between single quotes.  A
character without a visible form is escaped: by a letter where one is customary, and by its code
point in braces otherwise. -/

namespace AfsToken.Text.Quoted

/-- The lower-case hexadecimal digit of a number below sixteen. -/
def hexDigit (value : Nat) : Char :=
  if value < 10 then Char.ofNat ('0'.toNat + value) else Char.ofNat ('a'.toNat + (value - 10))

/-- The fewest hexadecimal digits of a number below 256. -/
def hexDigits (value : Nat) : List Char :=
  if value < 16 then [hexDigit value] else [hexDigit (value / 16), hexDigit (value % 16)]

/-- Whether a code point below 256 is shown as it is: neither a control character nor the
no-break space nor the soft hyphen. -/
def isVisible (value : Nat) : Bool :=
  (0x20 ≤ value && value < 0x7F) || (0xA0 < value && value != 0xAD)

/-- The form of a code point inside the quotes. -/
def escape (value : Nat) : List Char :=
  if value = 0 then ['\\', '0']
  else if value = 9 then ['\\', 't']
  else if value = 10 then ['\\', 'n']
  else if value = 13 then ['\\', 'r']
  else if value = '\''.toNat then ['\\', '\'']
  else if value = '\\'.toNat then ['\\', '\\']
  else if isVisible value then [Char.ofNat value]
  else ['\\', 'u', '\x7b'] ++ hexDigits value ++ ['\x7d']

/-- An octet as a quoted character. -/
def octet (value : UInt8) : String := String.ofList (['\''] ++ escape value.toNat ++ ['\''])

end AfsToken.Text.Quoted

/-! ## The notation -/

namespace AfsToken.Octets.Hex

open AfsToken.Text

/-- Why a text is no hexadecimal notation. -/
inductive Fault
  | oddLength
  | badOctet (octet : UInt8) (position : Nat)
  deriving DecidableEq, Repr

def Fault.message : Fault → String
  | .oddLength => "Odd number of digits"
  | .badOctet octet position =>
      "Invalid character " ++ Quoted.octet octet ++ " at position " ++ Decimal.ofNat position

/-- The value of a hexadecimal digit in ASCII, in either case. -/
def digitValue? (octet : UInt8) : Option UInt8 :=
  if 0x30 ≤ octet ∧ octet ≤ 0x39 then some (octet - 0x30)
  else if 0x41 ≤ octet ∧ octet ≤ 0x46 then some (octet - 0x37)
  else if 0x61 ≤ octet ∧ octet ≤ 0x66 then some (octet - 0x57)
  else none

/-- The value of the digit at a position. -/
def digitAt (octet : UInt8) (position : Nat) : Except Fault UInt8 :=
  match digitValue? octet with
  | some value => .ok value
  | none => .error (.badOctet octet position)

/-- Reads pairs of digits, the first of them at `position`. -/
def decodeFrom (position : Nat) : Octets → Except Fault Octets
  | [] => .ok []
  | [_] => .error .oddLength
  | high :: low :: rest => do
      let high ← digitAt high position
      let low ← digitAt low (position + 1)
      let octets ← decodeFrom (position + 2) rest
      return (16 * high + low) :: octets

/-- The octets that a text writes. -/
def decode (text : String) : Except Fault Octets :=
  let digits := Utf8.encode text
  if digits.length % 2 = 1 then .error .oddLength else decodeFrom 0 digits

/-- The two digits of an octet. -/
def encodeOctet (octet : UInt8) : List Char :=
  [Quoted.hexDigit (octet.toNat / 16), Quoted.hexDigit (octet.toNat % 16)]

/-- The hexadecimal notation of an octet string. -/
def encode (octets : Octets) : String := String.ofList (octets.flatMap encodeOctet)

/-- The two digits of an octet have its two halves as their values. -/
theorem digitValue?_encodeOctet (octet : UInt8) :
    ∃ high low, (encodeOctet octet).flatMap String.utf8EncodeChar = [high, low] ∧
      ∃ h l, digitValue? high = some h ∧ digitValue? low = some l ∧ 16 * h + l = octet := by
  have hall : ∀ value : Fin 256,
      (encodeOctet (UInt8.ofNat value.val)).flatMap String.utf8EncodeChar =
        [(Quoted.hexDigit (value.val / 16)).toNat.toUInt8,
          (Quoted.hexDigit (value.val % 16)).toNat.toUInt8] ∧
      digitValue? (Quoted.hexDigit (value.val / 16)).toNat.toUInt8 =
        some (UInt8.ofNat (value.val / 16)) ∧
      digitValue? (Quoted.hexDigit (value.val % 16)).toNat.toUInt8 =
        some (UInt8.ofNat (value.val % 16)) ∧
      16 * UInt8.ofNat (value.val / 16) + UInt8.ofNat (value.val % 16) =
        UInt8.ofNat value.val := by
    decide +kernel
  have h := hall ⟨octet.toNat, octet.toNat_lt⟩
  simp only [UInt8.ofNat_toNat] at h
  exact ⟨_, _, h.1, _, _, h.2.1, h.2.2.1, h.2.2.2⟩

/-- Octets that were written are read back. -/
@[simp]
theorem decode_encode (octets : Octets) : decode (encode octets) = .ok octets := by
  have hall (position : Nat) :
      ((octets.flatMap encodeOctet).flatMap String.utf8EncodeChar).length % 2 = 0 ∧
      decodeFrom position ((octets.flatMap encodeOctet).flatMap String.utf8EncodeChar) =
        .ok octets := by
    induction octets generalizing position with
    | nil => exact ⟨rfl, rfl⟩
    | cons octet rest ih =>
        obtain ⟨high, low, hdigits, h, l, hhigh, hlow, hvalue⟩ := digitValue?_encodeOctet octet
        have ih := ih (position + 2)
        rw [List.flatMap_cons, List.flatMap_append, hdigits]
        constructor
        · simp only [List.cons_append, List.nil_append, List.length_cons]
          omega
        · simp only [List.cons_append, List.nil_append, decodeFrom, digitAt, hhigh, hlow, ih.2,
            ← hvalue]
          rfl
  have h := hall 0
  unfold decode encode Utf8.encode
  simp only [String.toList_ofList]
  rw [if_neg (by omega), h.2]

end AfsToken.Octets.Hex
