import AfsToken.Octets.Integer

/-!
# Readers of encoded values

A reader takes a value off the front of an octet string and leaves the rest.  It fails on malformed
octets, on a date that does not exist, or on a field that overruns its sequence; of two failures the
one that comes first in the octets is reported.  Elements that follow one another are read until the
octets are used up.
-/

namespace AfsToken.Asn1

/-- Why an octet string is not read. -/
inductive Fault
  | malformed
  /-- The digits of a time are read, but they name no date or no time of day. -/
  | noSuchTime
  /-- The length of a field that may be left out exceeds the octets behind its header, but not those
  from its tag on. -/
  | overrun
  deriving DecidableEq, Repr

/-- Takes a value off the front of an octet string. -/
abbrev Reader := StateT Octets (Except Fault)

namespace Reader

variable {α : Type}

/-- The reader that finds the octets malformed. -/
def malformed : Reader α := throw .malformed

/-- The reader that finds the octets malformed unless a condition holds. -/
def require (condition : Prop) [Decidable condition] : Reader Unit :=
  if condition then pure () else malformed

/-- Takes one octet. -/
def octet : Reader UInt8 := do
  match ← get with
  | [] => malformed
  | first :: rest => do
      set rest
      return first

/-- Takes so many octets. -/
def take (count : Nat) : Reader Octets := do
  let octets ← get
  let front := octets.take count
  require (front.length = count)
  set (octets.drop count)
  return front

/-- The value at the front of an octet string.  What follows it is ignored. -/
def front (reader : Reader α) (octets : Octets) : Except Fault α := (·.1) <$> reader.run octets

/-- The value that a whole octet string writes. -/
def whole (reader : Reader α) (octets : Octets) : Except Fault α := do
  let (value, rest) ← reader.run octets
  if rest = [] then .ok value else .error .malformed

/-- The values that an octet string writes one behind the other.  A value takes at least one
octet. -/
def many (reader : Reader α) (octets : Octets) : Except Fault (List α) :=
  match octets with
  | [] => .ok []
  | first :: others =>
      match reader.run (first :: others) with
      | .error fault => .error fault
      | .ok (value, rest) =>
          if _ : rest.length ≤ others.length then (value :: ·) <$> many reader rest
          else .error .malformed
termination_by octets.length
decreasing_by exact Nat.lt_succ_of_le (by assumption)

/-- A reader that hands its octets on to a function of an octet string. -/
def through (inner : Octets → Except Fault α) (octets : Octets) : Reader α :=
  liftM (inner octets)

end Reader

end AfsToken.Asn1
