import AfsToken.SessionKey.Derivation

/-!
# The ways of a key block

Before any pseudorandom function is asked, a key block is handled in one of three ways: it is
copied, octets of it are fed to the derivation, or it is refused.  The function comes in only where
octets are fed to it, and it is asked under these octets alone.
-/

namespace AfsToken

namespace KeyPath

variable {etype : Enctype} {length : Nat}

theorem choose_eq_unweave_iff : choose etype length = .unweave ↔ etype ∈ Enctype.tripleDes := by
  have hothers : ∀ triple ∈ Enctype.tripleDes,
      triple ∉ Enctype.notSymmetric ∧ triple ∉ Enctype.singleDes := by
    simp [Enctype.tripleDes, Enctype.notSymmetric, Enctype.singleDes, Enctype.null]
  constructor
  · intro h
    unfold choose at h
    grind
  · intro h
    rw [choose, if_neg (hothers etype h).1, if_neg (hothers etype h).2, if_pos h]

theorem minDerivationSize_le_of_choose (h : choose etype length = .deriveDirect) :
    minDerivationSize ≤ length := by
  unfold choose at h
  grind

end KeyPath

/-- What is done with a key block before a pseudorandom function is asked. -/
inductive Handling
  /-- The key block is the session key. -/
  | copied (session : SessionKey)
  /-- The octets become the key of the pseudorandom function. -/
  | fed (octets : Octets)
  | refused (fault : DerivationFault)
  deriving DecidableEq

namespace KeyMaterial

/-- How a key block is handled. -/
def handling (key : KeyMaterial) : Handling :=
  match KeyPath.choose key.etype key.length with
  | .copy =>
      match SessionKey.ofOctets? key.octets with
      | some session => .copied session
      | none => .refused (.invalidKeyLength key.etype key.length)
  | .unweave =>
      if key.length % Des.keySize = 0 then .fed (Des.contract key.octets)
      else .refused (.invalidKeyLength key.etype key.length)
  | .deriveDirect => .fed key.octets
  | .reject .deprecated => .refused (.deprecated key.etype)
  | .reject .unsupported => .refused (.unsupported key.etype)
  | .reject .keyTooShort => .refused (.keyTooShort key.length)

/-- A session key is made by handling the key block, and deriving from what is fed. -/
theorem sessionKeyWith_eq {σ : Type} (prf : Prf σ) (key : KeyMaterial) :
    key.sessionKeyWith prf =
      match key.handling with
      | .copied session => return session
      | .fed octets => Kdf.deriveWith prf octets
      | .refused fault => Action.fail fault := by
  unfold sessionKeyWith handling
  cases KeyPath.choose key.etype key.length with
  | copy => cases SessionKey.ofOctets? key.octets <;> rfl
  | unweave =>
      dsimp only
      split <;> rfl
  | deriveDirect => rfl
  | reject reason => cases reason <;> rfl

variable {key : KeyMaterial}

/-- Only a single DES key is copied, and nothing of it is changed. -/
theorem of_handling_copied {session : SessionKey} (h : key.handling = .copied session) :
    KeyPath.choose key.etype key.length = .copy ∧ session.octets = key.octets := by
  unfold handling at h
  split at h
  next hpath =>
    split at h
    next found hfound =>
      cases h
      exact ⟨hpath, SessionKey.ofOctets?_eq_some_iff.mp hfound⟩
    next => cases h
  next => split at h <;> cases h
  all_goals cases h

/-- Octets are fed from a Triple-DES key without its parity bits, or from another key as it is. -/
theorem of_handling_fed {octets : Octets} (h : key.handling = .fed octets) :
    (KeyPath.choose key.etype key.length = .unweave ∧ key.length % Des.keySize = 0 ∧
      octets = Des.contract key.octets) ∨
    (KeyPath.choose key.etype key.length = .deriveDirect ∧ octets = key.octets) := by
  unfold handling at h
  split at h
  next => split at h <;> cases h
  next hpath =>
    split at h
    next hblocks =>
      cases h
      exact .inl ⟨hpath, hblocks, rfl⟩
    next => cases h
  next hpath =>
    cases h
    exact .inr ⟨hpath, rfl⟩
  all_goals cases h

end KeyMaterial

end AfsToken
