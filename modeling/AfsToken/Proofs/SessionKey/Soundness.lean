import AfsToken.Proofs.SessionKey.Counting
import AfsToken.Proofs.SessionKey.Paths
import Mathlib.Control.Monad.Basic

/-!
# Sound session keys

A DES key is sound if each octet has odd parity and the key is not weak.  A derived session key is
sound, for the derivation sets the parity and passes over weak keys.  A single DES key is copied as
it is: whether the session key is sound is then up to whoever made the ticket.
-/

namespace AfsToken

/-- A key has odd parity in each octet and is neither weak nor semi-weak. -/
def Des.IsSound (key : Octets) : Prop := (∀ octet ∈ key, HasOddParity octet) ∧ key ∉ weakKeys

instance (key : Octets) : Decidable (Des.IsSound key) :=
  have : Decidable (∀ octet ∈ key, Des.HasOddParity octet) :=
    List.decidableBAll Des.HasOddParity key
  inferInstanceAs (Decidable (_ ∧ _))

/-- Whatever the pseudorandom function, what is derived is sound. -/
theorem Kdf.isSound_of_deriveWith {σ : Type} {prf : Prf σ} {key : Octets} {state : σ}
    {session : SessionKey} (h : ((deriveWith prf key).report state).outcome = .ok session) :
    Des.IsSound session.octets := by
  obtain ⟨number, -, -, hdecided⟩ := deriveWith_cases prf key state
  obtain ⟨hpassed, hverdict⟩ := hdecided session h
  exact verdict_strong hpassed hverdict

namespace KeyMaterial

/-- A session key is sound if it was derived, and the key block itself if it was copied. -/
theorem sessionKey_sound_unless_copied {key : KeyMaterial} {session : SessionKey}
    (h : key.sessionKey.outcome = .ok session) :
    match KeyPath.choose key.etype key.length with
    | .copy => session.octets = key.octets
    | .unweave | .deriveDirect => Des.IsSound session.octets
    | .reject _ => False := by
  rw [sessionKey, sessionKeyWith_eq] at h
  cases hhandling : key.handling with
  | copied copy =>
      obtain ⟨hpath, hoctets⟩ := of_handling_copied hhandling
      rw [hhandling] at h
      cases h
      rw [hpath]
      exact hoctets
  | fed octets =>
      rw [hhandling] at h
      have hsound := Kdf.isSound_of_deriveWith h
      rcases of_handling_fed hhandling with ⟨hpath, -⟩ | ⟨hpath, -⟩
      · rw [hpath]
        exact hsound
      · rw [hpath]
        exact hsound
  | refused fault =>
      rw [hhandling] at h
      cases h

/-- The session key of an AES key was derived, so it is sound. -/
theorem sessionKey_sound_of_aesKey :
    let key : KeyMaterial := ⟨17, [1, 2, 3, 4, 5, 6, 7, 8, 9, 10, 11, 12, 13, 14, 15, 16]⟩
    let session : SessionKey := ⟨[0x80, 0x5D, 0x9D, 0xBA, 0x5D, 0x08, 0xC2, 0x8C], rfl⟩
    key.sessionKey.outcome = .ok session ∧ Des.IsSound session.octets := by
  intro key session
  have h : key.sessionKey.outcome = .ok session := by decide +kernel
  exact ⟨h, sessionKey_sound_unless_copied h⟩

/-- A single DES key without parity is copied, and so is a weak one. -/
theorem sessionKey_of_unsound_singleDes :
    let evenKey : Octets := [0x00, 0x22, 0x44, 0x66, 0x88, 0xAA, 0xCC, 0xEE]
    let weakKey : Octets := [0x01, 0x01, 0x01, 0x01, 0x01, 0x01, 0x01, 0x01]
    (KeyMaterial.sessionKey ⟨1, evenKey⟩).outcome = .ok ⟨evenKey, rfl⟩ ∧
      (∀ octet ∈ evenKey, ¬Des.HasOddParity octet) ∧
      (KeyMaterial.sessionKey ⟨3, weakKey⟩).outcome = .ok ⟨weakKey, rfl⟩ ∧
      weakKey ∈ Des.weakKeys := by
  decide +kernel

end KeyMaterial

end AfsToken
