import AfsToken.Proofs.SessionKey.Counting
import AfsToken.Proofs.SessionKey.Paths
import Mathlib.Control.Monad.Basic

/-!
# Enough key material

The derivation is meant to have at least seven octets to start from.  The policy asks this of a key
block that is fed as it is, and a single DES key has eight octets.  A Triple-DES key only has to be
made of complete DES keys, and an empty one is.  It is the one key block with too little material
that is not refused: its session key is the same for everybody.
-/

namespace AfsToken

/-- A function that also notes the keys under which it is asked. -/
def Prf.notingKeys {σ : Type} (prf : Prf σ) : Prf (σ × List Octets) :=
  fun key message ↦ (prf key message).noting key

namespace Kdf

variable {σ : Type}

theorem stateAfter_notingKeys (prf : Prf σ) (key : Octets) (state : σ) (number : Nat) :
    stateAfter (prf.notingKeys key) (state, []) number =
      (stateAfter (prf key) state number, List.replicate number key) := by
  induction number with
  | zero => rfl
  | succ number ih =>
      rw [stateAfter, ih, Prf.notingKeys, Action.left_noting, List.replicate_succ']
      rfl

/-- The derivation asks its function under one key, and at least once. -/
theorem keys_of_deriveWith (prf : Prf σ) (key : Octets) (state : σ) :
    ∃ number, ((deriveWith prf.notingKeys key).left (state, [])).2 =
      List.replicate (number + 1) key := by
  obtain ⟨number, hfirst, hleft, -⟩ := deriveWith_cases prf.notingKeys key (state, [])
  refine ⟨number - 1, ?_⟩
  rw [hleft, stateAfter_notingKeys, Nat.sub_add_cancel hfirst]

end Kdf

namespace KeyMaterial

variable {σ : Type}

/-- The keys under which a pseudorandom function is asked for the session key of a key block. -/
def keysAsked (prf : Prf σ) (state : σ) (key : KeyMaterial) : List Octets :=
  ((key.sessionKeyWith prf.notingKeys).left (state, [])).2

/-- A Triple-DES key that is made of no DES keys at all. -/
def IsEmptyTripleDes (key : KeyMaterial) : Prop :=
  key.etype ∈ Enctype.tripleDes ∧ key.octets = []

instance (key : KeyMaterial) : Decidable key.IsEmptyTripleDes := by
  unfold IsEmptyTripleDes
  infer_instance

variable {key : KeyMaterial}

/-- A pseudorandom function is asked under what is fed to the derivation. -/
theorem mem_keysAsked_iff {prf : Prf σ} {state : σ} {used : Octets} :
    used ∈ key.keysAsked prf state ↔ key.handling = .fed used := by
  rw [keysAsked, sessionKeyWith_eq]
  cases key.handling with
  | copied session =>
      change used ∈ [] ↔ _
      simp
  | fed octets =>
      obtain ⟨number, hkeys⟩ := Kdf.keys_of_deriveWith prf octets state
      rw [hkeys]
      simp [eq_comm]
  | refused fault =>
      change used ∈ [] ↔ _
      simp

theorem handling_of_isEmptyTripleDes (h : key.IsEmptyTripleDes) : key.handling = .fed [] := by
  obtain ⟨htriple, hempty⟩ := h
  have hblocks : ([] : Octets).length % Des.keySize = 0 := rfl
  have hcontract : Des.contract [] = [] := List.length_eq_zero_iff.mp (Des.length_contract [])
  rw [handling, KeyPath.choose_eq_unweave_iff.mpr htriple, length, hempty]
  simp only [hblocks, if_true, hcontract]

/-- An empty Triple-DES key aside, what is fed has seven octets at least, and so has the key block
it comes from. -/
theorem minDerivationSize_le_of_handling_fed (hkey : ¬key.IsEmptyTripleDes) {octets : Octets}
    (h : key.handling = .fed octets) :
    minDerivationSize ≤ octets.length ∧ minDerivationSize ≤ key.length := by
  rcases of_handling_fed h with ⟨hpath, hblocks, rfl⟩ | ⟨hpath, rfl⟩
  · have htriple := KeyPath.choose_eq_unweave_iff.mp hpath
    have hsome : 0 < key.length := List.length_pos_iff.mpr fun hempty ↦ hkey ⟨htriple, hempty⟩
    have hcontract :
        (Des.contract key.octets).length = Des.randomSize * (key.length / Des.keySize) :=
      Des.length_contract key.octets
    rw [Des.keySize] at hblocks
    rw [hcontract, minDerivationSize, Des.randomSize, Des.keySize]
    omega
  · have hlength := KeyPath.minDerivationSize_le_of_choose hpath
    exact ⟨hlength, hlength⟩

/-- Whatever the pseudorandom function, it is asked under keys of seven octets at least, and a key
block with fewer octets gives no session key.  An empty Triple-DES key is the one exception. -/
theorem enoughMaterial_iff (prf : Prf σ) (state : σ) (key : KeyMaterial) :
    ((∀ used ∈ key.keysAsked prf state, 7 ≤ used.length) ∧
      ∀ session, ((key.sessionKeyWith prf).report state).outcome = .ok session →
        7 ≤ key.length) ↔
    ¬key.IsEmptyTripleDes := by
  constructor
  · rintro ⟨hused, -⟩ hempty
    have hasked : [] ∈ key.keysAsked prf state :=
      mem_keysAsked_iff.mpr (handling_of_isEmptyTripleDes hempty)
    exact absurd (hused [] hasked) (by decide)
  · intro hkey
    constructor
    · intro used hasked
      exact (minDerivationSize_le_of_handling_fed hkey (mem_keysAsked_iff.mp hasked)).1
    · intro session hsession
      rw [sessionKeyWith_eq] at hsession
      cases hhandling : key.handling with
      | copied copy =>
          have hlength := copy.length_octets
          rw [(of_handling_copied hhandling).2] at hlength
          rw [length, hlength]
          decide
      | fed octets => exact (minDerivationSize_le_of_handling_fed hkey hhandling).2
      | refused fault =>
          rw [hhandling] at hsession
          cases hsession

/-- An empty Triple-DES key gives a session key, by asking under no octets. -/
theorem sessionKey_of_empty_tripleDes :
    (KeyMaterial.sessionKey ⟨16, []⟩).outcome =
      .ok ⟨[0x9D, 0xA4, 0x19, 0x8F, 0x51, 0x0D, 0xCD, 0x8C], rfl⟩ ∧
    (KeyMaterial.keysAsked Prf.hmac () ⟨16, []⟩) = [[]] := by
  decide +kernel

end KeyMaterial

end AfsToken
