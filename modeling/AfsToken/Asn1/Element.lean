import AfsToken.Asn1.Reader

/-!
# Elements and sequences

An element is a tag, a length, and the octets of its content.  A tag has a class, a mark for
constructed content, and a number.  Numbers from 31 on are written in groups of seven bits behind
the first octet, the least significant group first, and are kept in eight bits.  A length below 128
is one octet; any other is preceded by the number of its octets, of which only the last eight count.
The shortest form is written, but any form is read.
-/

namespace AfsToken.Asn1

/-- What a tag number belongs to. -/
inductive TagClass
  | universal
  | application
  | context
  | reserved
  deriving DecidableEq, Repr

/-- The two high bits of a tag. -/
def TagClass.code : TagClass → Nat
  | .universal => 0
  | .application => 1
  | .context => 2
  | .reserved => 3

/-- The class with a code. -/
def TagClass.ofCode (code : Nat) : TagClass :=
  match code with
  | 0 => .universal
  | 1 => .application
  | 2 => .context
  | _ => .reserved

/-- The tag of an element. -/
structure Tag where
  tagClass : TagClass
  constructed : Bool
  number : Nat
  deriving DecidableEq, Repr

namespace Tag

/-- The tag of a value of one of the basic types. -/
def primitive (number : Nat) : Tag := ⟨.universal, false, number⟩

def integer : Tag := primitive 2

def bitString : Tag := primitive 3

def octetString : Tag := primitive 4

def generalizedTime : Tag := primitive 24

def generalString : Tag := primitive 27

def sequence : Tag := ⟨.universal, true, 16⟩

/-- The tag of a field of a sequence. -/
def field (number : Nat) : Tag := ⟨.context, true, number⟩

/-- The tag of a message type. -/
def message (number : Nat) : Tag := ⟨.application, true, number⟩

/-- The octet of a tag whose number is below 31. -/
def encode (tag : Tag) : UInt8 :=
  UInt8.ofNat (64 * tag.tagClass.code + (if tag.constructed then 32 else 0) + tag.number)

/-- Groups of seven bits, the first of them with a weight.  The last group has a clear high bit. -/
def readGroups (weight : Nat) : Octets → Except Fault (Nat × Octets)
  | [] => .error .malformed
  | group :: rest =>
      if group.toNat < 128 then .ok (weight * group.toNat, rest)
      else do
        let (value, rest) ← readGroups (128 * weight) rest
        return (weight * (group.toNat % 128) + value, rest)

/-- Reads a tag. -/
def read : Reader Tag := do
  let first ← Reader.octet
  let tagClass := TagClass.ofCode (first.toNat / 64)
  let constructed := first.toNat / 32 % 2 == 1
  let number := first.toNat % 32
  if number = 31 then
    let (value, rest) ← readGroups 1 (← get)
    set rest
    return ⟨tagClass, constructed, value % 256⟩
  else return ⟨tagClass, constructed, number⟩

end Tag

namespace Length

/-- The fewest base-256 digits of a number, most significant first, and none of zero. -/
def digits (value : Nat) : Octets :=
  if value = 0 then [] else digits (value / 256) ++ [UInt8.ofNat value]

/-- The octets of a length. -/
def encode (length : Nat) : Octets :=
  if length < 128 then [UInt8.ofNat length]
  else UInt8.ofNat (128 + (digits length).length) :: digits length

/-- Reads a length. -/
def read : Reader Nat := do
  let first ← Reader.octet
  if first.toNat < 128 then return first.toNat
  else
    let octets ← Reader.take (first.toNat - 128)
    return Octets.toNatBE octets % UInt64.size

end Length

/-- The octets of an element. -/
def element (tag : Tag) (content : Octets) : Octets :=
  tag.encode :: Length.encode content.length ++ content

/-- Reads an element with a given tag, and gives its content. -/
def readElement (tag : Tag) : Reader Octets := do
  let found ← Tag.read
  Reader.require (found = tag)
  Reader.take (← Length.read)

/-! ## Sequences

A sequence holds fields, each inside an element with the number of the field.  A field that may be
left out is absent if the next element has another tag.  Its length is compared with the octets from
its tag on, so a length that only the header makes fit is an overrun and not malformed.  Behind the
value of a field anything may stand, but behind the last field nothing.  A message type has an
element of its own around its sequence; only the end of the sequence counts, so what follows it is
left to the reader of the next element, even if the message's length covers it. -/

variable {α : Type}

/-- Reads a field that must be present. -/
def readField (number : Nat) (reader : Reader α) : Reader α := do
  (← readElement (Tag.field number)) |> Reader.through reader.front

/-- Whether the next element is a field of this number. -/
def nextIsField (number : Nat) (octets : Octets) : Bool :=
  match Tag.read.run octets with
  | .ok (tag, _) => tag = Tag.field number
  | .error _ => false

/-- Whether the length of the next element fits the octets from its tag on, but not those behind its
header. -/
def nextOverruns (octets : Octets) : Bool :=
  match (Tag.read *> Length.read).run octets with
  | .ok (length, rest) => rest.length < length ∧ length ≤ octets.length
  | .error _ => false

/-- Reads a field that may be left out. -/
def readOptional (number : Nat) (reader : Reader α) : Reader (Option α) := do
  let octets ← get
  if nextIsField number octets then
    if nextOverruns octets then throw .overrun
    some <$> readField number reader
  else return none

/-- Reads the fields of a sequence, and expects no more of them. -/
def readSequence (fields : Reader α) : Reader α := do
  (← readElement Tag.sequence) |> Reader.through fields.whole

/-- Reads a sequence of values of one type. -/
def readMany (reader : Reader α) : Reader (List α) := do
  (← readElement Tag.sequence) |> Reader.through reader.many

/-- Reads a message type.  Its length must not exceed the octets, and has no other effect. -/
def readMessage (number : Nat) (body : Reader α) : Reader α := do
  let found ← Tag.read
  Reader.require (found = Tag.message number)
  let length ← Length.read
  Reader.require (length ≤ (← get).length)
  body

def encodeField (number : Nat) (value : Octets) : Octets := element (Tag.field number) value

def encodeOptional (number : Nat) (encode : α → Octets) : Option α → Octets
  | some value => encodeField number (encode value)
  | none => []

def encodeSequence (fields : List Octets) : Octets := element Tag.sequence fields.flatten

def encodeMany (encode : α → Octets) (values : List α) : Octets :=
  element Tag.sequence (values.flatMap encode)

def encodeMessage (number : Nat) (body : Octets) : Octets := element (Tag.message number) body

end AfsToken.Asn1
