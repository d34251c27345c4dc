import AfsToken.Proofs.Des.Expansion
import AfsToken.Proofs.SessionKey.Paths

/-!
# Unweaving a Triple-DES key

A session key is derived from the random string of a Triple-DES key block, and from nothing else of
it.  The random string leaves nothing behind but the parity bits and an incomplete key at the end,
so key blocks that differ in parity bits alone have the same session key.
-/

namespace AfsToken

open AfsToken.Octets

namespace KeyMaterial

variable {etype : Enctype} {key other : Octets}

/-- Triple-DES key blocks that agree outside their parity bits are handled in the same way: both are
refused for their length, or the same octets are fed to the derivation. -/
theorem handling_eq_of_sameButParity (hetype : etype ∈ Enctype.tripleDes)
    (h : Des.SameButParity key other) :
    (KeyMaterial.mk etype key).handling = (KeyMaterial.mk etype other).handling := by
  have hpath (length : Nat) : KeyPath.choose etype length = .unweave :=
    KeyPath.choose_eq_unweave_iff.mpr hetype
  have hlength : (KeyMaterial.mk etype key).length = (KeyMaterial.mk etype other).length :=
    h.length_eq
  unfold handling
  rw [hpath, hpath, hlength]
  dsimp only
  split
  next hblocks =>
    have hrandom : Des.contract key = Des.contract other :=
      (Des.contract_eq_iff (h.length_eq ▸ hblocks) h.length_eq.symm).mpr h
    rw [hrandom]
  next => rfl

/-- Whatever the pseudorandom function is, it is asked under the same octets. -/
theorem sessionKeyWith_eq_of_sameButParity {σ : Type} (prf : Prf σ)
    (hetype : etype ∈ Enctype.tripleDes) (h : Des.SameButParity key other) :
    (KeyMaterial.mk etype key).sessionKeyWith prf =
      (KeyMaterial.mk etype other).sessionKeyWith prf := by
  rw [sessionKeyWith_eq, sessionKeyWith_eq, handling_eq_of_sameButParity hetype h]

end KeyMaterial

namespace Des

/-- Contracting and expanding undo each other, up to parity bits and an incomplete key at the end.
So the parity bits of a Triple-DES key block have no influence on its session key. -/
theorem contract_inverts_expand :
    (∀ randoms : List Octets, (∀ random ∈ randoms, random.length = randomSize) →
      contract (randoms.flatMap expandBlock) = randoms.flatten) ∧
    (∀ key : Octets, key.length % keySize = 0 → expand (contract key) = setOddParity key) ∧
    (∀ key other : Octets, key.length % keySize = 0 → other.length = key.length →
      (contract key = contract other ↔ SameButParity key other)) ∧
    (∀ etype ∈ ([5, 7, 16] : List Enctype), ∀ key other : Octets, SameButParity key other →
      (KeyMaterial.mk etype key).sessionKey = (KeyMaterial.mk etype other).sessionKey) ∧
    (∀ key : Octets, (contract key).length = 7 * (key.length / 8)) ∧
    (∀ key rest : Octets, key.length % keySize = 0 → rest.length < keySize →
      contract (key ++ rest) = contract key) := by
  refine ⟨fun _ hrandoms ↦ contract_flatMap_expandBlock hrandoms, fun _ hkey ↦ expand_contract hkey,
    fun _ _ hkey hlength ↦ contract_eq_iff hkey hlength, fun etype hetype key other hsame ↦ ?_,
    length_contract, fun _ _ hkey hrest ↦ contract_append_of_length_lt hkey hrest⟩
  rw [KeyMaterial.sessionKey, KeyMaterial.sessionKey,
    KeyMaterial.sessionKeyWith_eq_of_sameButParity Prf.hmac hetype hsame]

/-- Two keys that differ in every parity bit have one random string, and as a Triple-DES key block
they have one session key.  Seven octets behind them make no difference. -/
theorem contract_inverts_expand_of_flippedParity :
    let key : Octets := [0x01, 0x23, 0x45, 0x67, 0x89, 0xAB, 0xCD, 0xEF,
      0xFE, 0xDC, 0xBA, 0x98, 0x76, 0x54, 0x32, 0x10]
    let flipped : Octets := [0x00, 0x22, 0x44, 0x66, 0x88, 0xAA, 0xCC, 0xEE,
      0xFF, 0xDD, 0xBB, 0x99, 0x77, 0x55, 0x33, 0x11]
    let randoms : List Octets := [[0x01, 0x23, 0x45, 0x66, 0x89, 0xAB, 0xCD],
      [0xFE, 0xDC, 0xBA, 0x99, 0x76, 0x54, 0x32]]
    SameButParity key flipped ∧ contract key = randoms.flatten ∧ contract flipped = contract key ∧
      expand (contract flipped) = setOddParity key ∧
      (KeyMaterial.mk 16 key).sessionKey = (KeyMaterial.mk 16 flipped).sessionKey ∧
      contract (key ++ [1, 2, 3, 4, 5, 6, 7]) = randoms.flatten := by
  intro key flipped randoms
  obtain ⟨hcontract, hexpand, hrandom, hsession, -, hrest⟩ := contract_inverts_expand
  have hsame : SameButParity key flipped := by decide
  have hstrings : contract key = randoms.flatten := by
    have hparity : contract (randoms.flatMap expandBlock) = contract key :=
      (hrandom _ key (by decide) (by decide)).mpr (by decide)
    rw [← hparity]
    exact hcontract randoms (by decide)
  have hflipped : contract flipped = contract key :=
    ((hrandom key flipped (by decide) (by decide)).mpr hsame).symm
  refine ⟨hsame, hstrings, hflipped, ?_, hsession 16 (by decide) key flipped hsame, ?_⟩
  · rw [hflipped]
    exact hexpand key (by decide)
  · rw [hrest key _ (by decide) (by decide)]
    exact hstrings

end Des

end AfsToken
