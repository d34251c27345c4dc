import AfsToken.Action
import AfsToken.Digest
import AfsToken.Failure
import AfsToken.SessionKey.Basic

/-!
# The session key of a key block

The policy chooses the path, and the path is taken: a single DES key is copied, a Triple-DES key is
contracted to its random string, and what is fed to the derivation becomes the key of a pseudorandom
function.  In use that function is the keyed digest, which never fails.  To say what the derivation
does with any other, it is a parameter: each call is an action on a state, so its outcome may depend
on all earlier calls.  A session key is drawn from the function by counting.
-/

namespace AfsToken

open AfsToken.Text

/-! ## Pseudorandom functions -/

/-- A keyed pseudorandom function with a state. -/
abbrev Prf (σ : Type) := (key message : Octets) → Action σ DerivationFault Octets

namespace Prf

/-- The keyed digest. -/
def hmac : Prf Unit := fun key message ↦ return Digest.Hmac.digest key message

/-- What was asked of a scripted function: how often it was called, and the messages of the calls
that did not fail, the last one first. -/
structure Calls where
  count : Nat
  messages : List Octets
  deriving DecidableEq, Repr

/-- The detail of the fault of a function that refuses its key. -/
def refusedKey : String := "Invalid Length"

/-- A function that gives prescribed outputs, one for each call and the last one for all calls after
it.  Where the script holds no output, the function refuses its key. -/
def scripted (outputs : List (Option Octets)) : Prf Calls := fun _ message calls ↦
  match (outputs[calls.count]?.or outputs.getLast?).join with
  | some output => (pure output, ⟨calls.count + 1, message :: calls.messages⟩)
  | none =>
      (do
        Report.note .error ("HMAC-MD5 initialization failed: " ++ refusedKey)
        Report.fail (.primitive refusedKey), ⟨calls.count + 1, calls.messages⟩)

end Prf

/-! ## The key derivation function

The message of each call is a counter, a fixed label and the length of the key in bits.  The first
eight octets of the output get odd parity.  The first key that is not weak is taken.  There are 255
counters. -/

namespace Kdf

/-- The message of one call. -/
structure Input where
  counter : UInt8
  label : Octets
  bits : UInt32
  deriving DecidableEq, Repr

/-- The name of the protocol, ended by a zero octet. -/
def rxkadLabel : Octets := [0x72, 0x78, 0x6B, 0x61, 0x64, 0x00]

/-- The length of a session key in bits. -/
def keyBits : UInt32 := 64

/-- The message with a counter. -/
def Input.rxkad (counter : UInt8) : Input := ⟨counter, rxkadLabel, keyBits⟩

/-- The octets of a message.  The length has its most significant octet first. -/
def Input.octets (input : Input) : Octets :=
  [input.counter] ++ input.label ++ Octets.ofNatBE 4 input.bits.toNat

/-- The counters in the order they are tried. -/
def counters : List UInt8 := (List.range' 1 255).map UInt8.ofNat

/-- The detail of the fault of a function whose output is too short. -/
def shortOutput (length : Nat) : String :=
  "short result of " ++ Decimal.ofNat length ++ " octets"

/-- The message that tells how short an output is. -/
def shortOutputText (length : Nat) : String :=
  "HMAC returned short result (" ++ Decimal.ofNat length ++ " octets)"

/-- The key that an output gives, if the output is long enough. -/
def candidate? (output : Octets) : Option SessionKey :=
  SessionKey.ofOctets? (Des.setOddParity (output.take Des.keySize))

/-- Tries counters in turn.  The first call whose output is not a weak key decides. -/
def tryCounters {σ : Type} (prf : (message : Octets) → Action σ DerivationFault Octets) :
    List UInt8 → Action σ DerivationFault SessionKey
  | [] => Action.fail .exhausted
  | counter :: rest => do
      let output ← prf (Input.rxkad counter).octets
      match candidate? output with
      | none => Action.ofReport do
          Report.note .error (shortOutputText output.length)
          Report.fail (.primitive (shortOutput output.length))
      | some key => if Des.isWeak key.octets then tryCounters prf rest else return key

/-- The session key that a pseudorandom function gives under a key. -/
def deriveWith {σ : Type} (prf : Prf σ) (key : Octets) : Action σ DerivationFault SessionKey :=
  tryCounters (prf key) counters

/-- The session key that the keyed digest gives under a key. -/
def derive (key : Octets) : Report DerivationFault SessionKey := (deriveWith Prf.hmac key).report ()

end Kdf

/-! ## Taking the path

The lengths that single and Triple DES prescribe are checked here. -/

/-- The session key of a key block, by way of a pseudorandom function. -/
def KeyMaterial.sessionKeyWith {σ : Type} (prf : Prf σ) (key : KeyMaterial) :
    Action σ DerivationFault SessionKey :=
  match KeyPath.choose key.etype key.length with
  | .copy =>
      match SessionKey.ofOctets? key.octets with
      | some session => return session
      | none => Action.fail (.invalidKeyLength key.etype key.length)
  | .unweave =>
      if key.length % Des.keySize = 0 then Kdf.deriveWith prf (Des.contract key.octets)
      else Action.fail (.invalidKeyLength key.etype key.length)
  | .deriveDirect => Kdf.deriveWith prf key.octets
  | .reject .deprecated => Action.fail (.deprecated key.etype)
  | .reject .unsupported => Action.fail (.unsupported key.etype)
  | .reject .keyTooShort => Action.fail (.keyTooShort key.length)

/-- The session key of a key block. -/
def KeyMaterial.sessionKey (key : KeyMaterial) : Report DerivationFault SessionKey :=
  (key.sessionKeyWith Prf.hmac).report ()

end AfsToken
