import AfsToken.Proofs.SessionKey.Counting
import AfsToken.Proofs.SessionKey.Paths

/-!
# Every outcome of a derivation

Each fault of a derivation has one cause, and each cause shows as its fault.  The policy refuses a
key block for its type or for its length; single and Triple DES prescribe lengths of their own; and
where octets are fed to the derivation, all 255 counters may give weak keys.  The keyed digest takes
a key of any length and always gives enough octets, so it adds no fault.  In all other cases there
is a session key: the key block itself where it is copied, and otherwise the first key that is not
weak.
-/

namespace AfsToken

namespace Kdf

variable {key : Octets} {number : Nat}

/-- The key that the keyed digest gives for a counter. -/
def keyAt (key : Octets) (number : Nat) : Octets :=
  Des.setOddParity ((Digest.Hmac.digest key (message number)).take Des.keySize)

/-- All counters give weak keys. -/
def IsExhausted (key : Octets) : Prop :=
  ∀ number, 1 ≤ number → number ≤ 255 → keyAt key number ∈ Des.weakKeys

/-- A counter gives the first key that is not weak. -/
structure IsFirstStrong (key : Octets) (number : Nat) : Prop where
  positive : 1 ≤ number
  atMost : number ≤ 255
  strong : keyAt key number ∉ Des.weakKeys
  earlier : ∀ other, 1 ≤ other → other < number → keyAt key other ∈ Des.weakKeys

theorem IsFirstStrong.not_isExhausted (h : IsFirstStrong key number) : ¬IsExhausted key :=
  fun hall ↦ h.strong (hall number h.positive h.atMost)

theorem IsFirstStrong.unique {other : Nat} (h : IsFirstStrong key number)
    (hother : IsFirstStrong key other) : number = other := by
  rcases Nat.lt_trichotomy number other with hlt | heq | hgt
  · exact absurd (hother.earlier number h.positive hlt) h.strong
  · exact heq
  · exact absurd (h.earlier other hother.positive hgt) hother.strong

theorem outcomeAt_hmac (key : Octets) (number : Nat) :
    outcomeAt (Prf.hmac key) () number = .ok (Digest.Hmac.digest key (message number)) := rfl

/-- The keyed digest is never too short, so a call is passed over only for its key. -/
theorem isPassedOver_hmac_iff :
    IsPassedOver (outcomeAt (Prf.hmac key) () number) ↔ keyAt key number ∈ Des.weakKeys := by
  have hlong : Des.keySize ≤ (Digest.Hmac.digest key (message number)).length := by
    rw [Digest.Hmac.length_digest]
    decide
  rw [outcomeAt_hmac]
  exact and_iff_right hlong

theorem verdict_hmac (key : Octets) (number : Nat) :
    ∃ session, verdict (outcomeAt (Prf.hmac key) () number) = .ok session ∧
      session.octets = keyAt key number := by
  have hlong : ¬(Digest.Hmac.digest key (message number)).length < Des.keySize := by
    rw [Digest.Hmac.length_digest]
    decide
  rw [outcomeAt_hmac, verdict, dif_neg hlong]
  exact ⟨_, rfl, rfl⟩

/-- The derivation by the keyed digest gives the first key that is not weak, or all are weak. -/
theorem outcome_derive_cases (key : Octets) :
    (IsExhausted key ∧ (derive key).outcome = .error .exhausted) ∨
    ∃ number session, IsFirstStrong key number ∧ session.octets = keyAt key number ∧
      (derive key).outcome = .ok session := by
  have hrun := tryCounters_range' (Prf.hmac key) () 0 255
  simp only [Nat.zero_add, isPassedOver_hmac_iff] at hrun
  cases hfind : (List.range' 1 255).find? fun n ↦ ¬keyAt key n ∈ Des.weakKeys with
  | none =>
      rw [hfind] at hrun
      refine .inl ⟨fun number hpositive hatMost ↦ ?_, hrun.1⟩
      have hweak := List.find?_range'_eq_none.mp hfind number hpositive (by omega)
      simpa using hweak
  | some number =>
      rw [hfind] at hrun
      obtain ⟨hstrong, hmem, hearlier⟩ := List.find?_range'_eq_some.mp hfind
      obtain ⟨hpositive, hatMost⟩ := List.mem_range'_1.mp hmem
      obtain ⟨session, hverdict, hoctets⟩ := verdict_hmac key number
      refine .inr ⟨number, session, ⟨hpositive, by omega, by simpa using hstrong, ?_⟩, hoctets,
        hrun.1.trans hverdict⟩
      intro other hfirst hlt
      simpa using hearlier other hfirst hlt

theorem outcome_derive_eq_exhausted_iff :
    (derive key).outcome = .error .exhausted ↔ IsExhausted key := by
  rcases outcome_derive_cases key with ⟨hall, houtcome⟩ | ⟨number, session, hfirst, -, houtcome⟩
  · exact iff_of_true houtcome hall
  · refine iff_of_false (fun h ↦ ?_) hfirst.not_isExhausted
    cases houtcome.symm.trans h

theorem outcome_derive_eq_ok_iff {session : SessionKey} :
    (derive key).outcome = .ok session ↔
      ∃ number, IsFirstStrong key number ∧ session.octets = keyAt key number := by
  rcases outcome_derive_cases key with ⟨hall, houtcome⟩ | ⟨number, found, hfirst, hfound, houtcome⟩
  · refine iff_of_false (fun h ↦ ?_) ?_
    · cases houtcome.symm.trans h
    · rintro ⟨number, hfirst, -⟩
      exact hfirst.not_isExhausted hall
  · rw [houtcome, Except.ok.injEq]
    constructor
    · rintro rfl
      exact ⟨number, hfirst, hfound⟩
    · rintro ⟨other, hother, hoctets⟩
      rw [← hother.unique hfirst, ← hoctets] at hfound
      exact SessionKey.octets_inj.mp hfound

end Kdf

namespace KeyMaterial

variable {key : KeyMaterial}

/-- The octets of a key block that are fed to the derivation, if there are any: those of a
Triple-DES key without its parity bits, or those of another key as they are. -/
def Feeds (key : KeyMaterial) (octets : Octets) : Prop :=
  (KeyPath.choose key.etype key.length = .unweave ∧ key.length % 8 = 0 ∧
    octets = Des.contract key.octets) ∨
  (KeyPath.choose key.etype key.length = .deriveDirect ∧ octets = key.octets)

/-- The cause of each fault, with the values that the fault shows. -/
def FailsWith (key : KeyMaterial) : DerivationFault → Prop
  | .deprecated etype =>
      KeyPath.choose key.etype key.length = .reject .deprecated ∧ etype = key.etype
  | .unsupported etype =>
      KeyPath.choose key.etype key.length = .reject .unsupported ∧ etype = key.etype
  | .keyTooShort length =>
      KeyPath.choose key.etype key.length = .reject .keyTooShort ∧ length = key.length
  | .invalidKeyLength etype length =>
      ((KeyPath.choose key.etype key.length = .copy ∧ key.length ≠ 8) ∨
        (KeyPath.choose key.etype key.length = .unweave ∧ key.length % 8 ≠ 0)) ∧
      etype = key.etype ∧ length = key.length
  | .exhausted => ∃ octets, key.Feeds octets ∧ Kdf.IsExhausted octets
  | .primitive _ => False

/-- A session key is that of a key block: the key block itself where it is copied, and otherwise the
first key from what is fed that is not weak. -/
def Gives (key : KeyMaterial) (session : SessionKey) : Prop :=
  (KeyPath.choose key.etype key.length = .copy ∧ session.octets = key.octets) ∨
  ∃ octets number, key.Feeds octets ∧ Kdf.IsFirstStrong octets number ∧
    session.octets = Kdf.keyAt octets number

theorem handling_eq_copied_iff {session : SessionKey} :
    key.handling = .copied session ↔
      KeyPath.choose key.etype key.length = .copy ∧ session.octets = key.octets := by
  constructor
  · exact of_handling_copied
  · rintro ⟨hpath, hoctets⟩
    simp only [handling, hpath, SessionKey.ofOctets?_eq_some_iff.mpr hoctets]

theorem handling_eq_fed_iff {octets : Octets} :
    key.handling = .fed octets ↔ key.Feeds octets := by
  constructor
  · exact of_handling_fed
  · rintro (⟨hpath, hblocks, rfl⟩ | ⟨hpath, rfl⟩)
    · have hsize : key.length % Des.keySize = 0 := hblocks
      simp only [handling, hpath, if_pos hsize]
    · simp only [handling, hpath]

/-- A key block is refused only if there is a cause for the fault. -/
theorem failsWith_of_handling {fault : DerivationFault} (h : key.handling = .refused fault) :
    key.FailsWith fault := by
  unfold handling at h
  split at h
  next hpath =>
    split at h
    next => cases h
    next hsession =>
      cases h
      exact ⟨.inl ⟨hpath, SessionKey.ofOctets?_eq_none_iff.mp hsession⟩, rfl, rfl⟩
  next hpath =>
    split at h
    next => cases h
    next hblocks =>
      cases h
      exact ⟨.inr ⟨hpath, hblocks⟩, rfl, rfl⟩
  next => cases h
  all_goals
    rename_i hpath
    cases h
    exact ⟨hpath, rfl⟩

/-- Every cause but that of weak keys makes a key block refused. -/
theorem handling_of_failsWith {fault : DerivationFault} (hfault : fault ≠ .exhausted)
    (h : key.FailsWith fault) : key.handling = .refused fault := by
  unfold handling
  cases fault with
  | deprecated etype =>
      obtain ⟨hpath, rfl⟩ := h
      simp only [hpath]
  | unsupported etype =>
      obtain ⟨hpath, rfl⟩ := h
      simp only [hpath]
  | keyTooShort length =>
      obtain ⟨hpath, rfl⟩ := h
      simp only [hpath]
  | invalidKeyLength etype length =>
      obtain ⟨⟨hpath, hlength⟩ | ⟨hpath, hblocks⟩, rfl, rfl⟩ := h
      · simp only [hpath, SessionKey.ofOctets?_eq_none_iff.mpr hlength]
      · have hsize : ¬key.length % Des.keySize = 0 := hblocks
        simp only [hpath, if_neg hsize]
  | exhausted => exact absurd rfl hfault
  | primitive detail => exact h.elim

/-- The outcome is that of the way in which a key block is handled. -/
theorem outcome_sessionKey (key : KeyMaterial) :
    key.sessionKey.outcome =
      match key.handling with
      | .copied session => .ok session
      | .fed octets => (Kdf.derive octets).outcome
      | .refused fault => .error fault := by
  rw [sessionKey, sessionKeyWith_eq]
  cases key.handling <;> rfl

theorem outcome_of_failsWith {fault : DerivationFault} (h : key.FailsWith fault) :
    key.sessionKey.outcome = .error fault := by
  rw [outcome_sessionKey]
  by_cases hfault : fault = .exhausted
  · subst hfault
    obtain ⟨octets, hfeeds, hall⟩ := h
    rw [handling_eq_fed_iff.mpr hfeeds]
    exact Kdf.outcome_derive_eq_exhausted_iff.mpr hall
  · rw [handling_of_failsWith hfault h]

theorem outcome_of_gives {session : SessionKey} (h : key.Gives session) :
    key.sessionKey.outcome = .ok session := by
  rw [outcome_sessionKey]
  rcases h with hcopied | ⟨octets, number, hfeeds, hfirst, hoctets⟩
  · rw [handling_eq_copied_iff.mpr hcopied]
  · rw [handling_eq_fed_iff.mpr hfeeds]
    exact Kdf.outcome_derive_eq_ok_iff.mpr ⟨number, hfirst, hoctets⟩

/-- There is a session key or a cause for a fault. -/
theorem exists_gives_or_failsWith (key : KeyMaterial) :
    (∃ session, key.Gives session) ∨ ∃ fault, key.FailsWith fault := by
  cases hhandling : key.handling with
  | copied session => exact .inl ⟨session, .inl (handling_eq_copied_iff.mp hhandling)⟩
  | fed octets =>
      have hfeeds := handling_eq_fed_iff.mp hhandling
      rcases Kdf.outcome_derive_cases octets with ⟨hall, -⟩ | ⟨number, session, hfirst, hoctets, -⟩
      · exact .inr ⟨.exhausted, octets, hfeeds, hall⟩
      · exact .inl ⟨session, .inr ⟨octets, number, hfeeds, hfirst, hoctets⟩⟩
  | refused fault => exact .inr ⟨fault, failsWith_of_handling hhandling⟩

/-- A key block fails with a fault exactly if there is the cause of the fault, and gives a session
key exactly if it is the one of the key block.  It gives one wherever there is no cause to fail. -/
theorem sessionKey_outcome_iff (key : KeyMaterial) :
    (∀ fault, key.sessionKey.outcome = .error fault ↔ key.FailsWith fault) ∧
    (∀ session, key.sessionKey.outcome = .ok session ↔ key.Gives session) ∧
    ((∃ session, key.sessionKey.outcome = .ok session) ↔ ∀ fault, ¬key.FailsWith fault) := by
  have hcases := key.exists_gives_or_failsWith
  refine ⟨fun fault ↦ ⟨fun h ↦ ?_, outcome_of_failsWith⟩,
    fun session ↦ ⟨fun h ↦ ?_, outcome_of_gives⟩, fun ⟨session, h⟩ fault hfails ↦ ?_, fun h ↦ ?_⟩
  · rcases hcases with ⟨session, hgives⟩ | ⟨other, hfails⟩
    · cases h.symm.trans (outcome_of_gives hgives)
    · cases h.symm.trans (outcome_of_failsWith hfails)
      exact hfails
  · rcases hcases with ⟨other, hgives⟩ | ⟨fault, hfails⟩
    · cases h.symm.trans (outcome_of_gives hgives)
      exact hgives
    · cases h.symm.trans (outcome_of_failsWith hfails)
  · cases h.symm.trans (outcome_of_failsWith hfails)
  · rcases hcases with ⟨session, hgives⟩ | ⟨fault, hfails⟩
    · exact ⟨session, outcome_of_gives hgives⟩
    · exact absurd hfails (h fault)

end KeyMaterial

end AfsToken
