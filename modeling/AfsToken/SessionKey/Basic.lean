import AfsToken.Des
import AfsToken.Enctype

/-!
# Key material and session keys

Key material is the key block of a Kerberos ticket with its encryption type.  A session key is the
DES key that rxkad takes from it.  Neither shows its octets in a diagnostic.  The encryption type
decides whether a key block is used as it is, unwoven from a Triple-DES key before the derivation,
or fed to the derivation directly.  Some types are refused.  The lengths that single and Triple DES
prescribe are no part of this decision.
-/

namespace AfsToken

open AfsToken.Text

/-- The key block of a ticket. -/
structure KeyMaterial where
  etype : Enctype
  octets : Octets
  deriving DecidableEq

/-- The number of octets of a key block. -/
def KeyMaterial.length (key : KeyMaterial) : Nat := key.octets.length

/-- What a diagnostic shows of a key block: its type and its length. -/
def KeyMaterial.diagnostic (key : KeyMaterial) : String :=
  "KeyMaterial \x7b etype: " ++ Decimal.ofInt key.etype.toInt ++ ", length: " ++
    Decimal.ofNat key.length ++ " \x7d"

/-- A DES key for rxkad. -/
structure SessionKey where
  octets : Octets
  length_octets : octets.length = Des.keySize
  deriving DecidableEq

/-- The session key of eight octets. -/
def SessionKey.ofOctets? (octets : Octets) : Option SessionKey :=
  if h : octets.length = Des.keySize then some ⟨octets, h⟩ else none

/-- What a diagnostic shows of a session key: nothing. -/
def SessionKey.diagnostic (_ : SessionKey) : String := "SessionKey(..)"

/-- A session key is known by its octets. -/
theorem SessionKey.octets_inj {left right : SessionKey} :
    left.octets = right.octets ↔ left = right := by
  cases left
  cases right
  rw [mk.injEq]

@[simp]
theorem SessionKey.ofOctets?_octets (key : SessionKey) : ofOctets? key.octets = some key := by
  simp [ofOctets?, key.length_octets]

theorem SessionKey.ofOctets?_eq_some_iff {octets : Octets} {key : SessionKey} :
    ofOctets? octets = some key ↔ key.octets = octets := by
  constructor
  · intro h
    unfold ofOctets? at h
    split at h
    · cases h
      rfl
    · cases h
  · rintro rfl
    exact ofOctets?_octets key

theorem SessionKey.ofOctets?_eq_none_iff {octets : Octets} :
    ofOctets? octets = none ↔ octets.length ≠ Des.keySize := by
  simp [ofOctets?]

/-! ## How a key block becomes a session key -/

/-- The fewest octets that the derivation takes directly. -/
def minDerivationSize : Nat := 7

/-- Why a key block is refused. -/
inductive RejectReason
  | deprecated
  | unsupported
  | keyTooShort
  deriving DecidableEq, Repr

/-- What is done with a key block. -/
inductive KeyPath
  /-- A single DES key is used as it is. -/
  | copy
  /-- A Triple-DES key loses its parity bits before the derivation. -/
  | unweave
  /-- Any other key goes into the derivation as it is. -/
  | deriveDirect
  | reject (reason : RejectReason)
  deriving DecidableEq, Repr

namespace KeyPath

/-- The path of a key block with so many octets. -/
def choose (etype : Enctype) (length : Nat) : KeyPath :=
  if etype ∈ Enctype.notSymmetric then .reject .unsupported
  else if etype ∈ Enctype.singleDes then .copy
  else if etype ∈ Enctype.tripleDes then .unweave
  else if etype ∈ Enctype.deprecated then .reject .deprecated
  else if length < minDerivationSize then .reject .keyTooShort
  else if etype < 0 then .reject .unsupported
  else .deriveDirect

/-- The path as it is printed. -/
def text : KeyPath → String
  | .copy => "copy"
  | .unweave => "unweave+kdf"
  | .deriveDirect => "kdf"
  | .reject .deprecated => "deprecated"
  | .reject .unsupported => "unsupported"
  | .reject .keyTooShort => "key too short"

/-- The path as a diagnostic shows it. -/
def diagnostic : KeyPath → String
  | .copy => "Copy"
  | .unweave => "Unweave"
  | .deriveDirect => "DeriveDirect"
  | .reject .deprecated => "Reject(Deprecated)"
  | .reject .unsupported => "Reject(Unsupported)"
  | .reject .keyTooShort => "Reject(KeyTooShort)"

end KeyPath

end AfsToken
