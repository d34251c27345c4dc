import AfsToken.Proofs.Report.Agreement
import AfsToken.Proofs.SessionKey.Counting
import AfsToken.Proofs.SessionKey.Paths

/-!
# What a derivation shows of a key block

Two key blocks of one type and one length are handled in the same way, whatever their octets.  The
derivation writes no records, since the keyed digest is never too short, and where it gives a key
its octets are shown nowhere.  Only that all counters gave weak keys would tell one key block from
another.
-/

namespace AfsToken

/-- Two key blocks have one type and one length. -/
structure KeyMaterial.SameButOctets (left right : KeyMaterial) : Prop where
  etype : left.etype = right.etype
  length : left.length = right.length

/-- The derivation by the keyed digest writes no records, and has no other fault than that no
counter is left. -/
theorem Kdf.report_tryCounters_hmac (key : Octets) (counters : List UInt8) :
    (tryCounters (Prf.hmac key) counters).report () = Report.fail .exhausted ∨
      ∃ session, (tryCounters (Prf.hmac key) counters).report () = pure session := by
  induction counters with
  | nil => exact .inl rfl
  | cons counter rest ih =>
      have hdigest : (Prf.hmac key (Input.rxkad counter).octets).report () =
          pure (Digest.Hmac.digest key (Input.rxkad counter).octets) := rfl
      rw [tryCounters, Action.report_bind, hdigest, pure_bind]
      cases hcandidate : candidate? (Digest.Hmac.digest key (Input.rxkad counter).octets) with
      | none =>
          rw [candidate?_eq_none_iff, Digest.Hmac.length_digest] at hcandidate
          exact absurd hcandidate (by decide)
      | some session =>
          dsimp only
          split
          · exact ih
          · exact .inr ⟨session, rfl⟩

namespace KeyMaterial

variable {left right : KeyMaterial}

/-- What a diagnostic shows of a key block does not depend on its octets. -/
theorem SameButOctets.diagnostic_eq (h : left.SameButOctets right) :
    left.diagnostic = right.diagnostic := by
  unfold diagnostic
  rw [h.etype, h.length]

/-- Two key blocks of one type and one length are copied both, or fed both, or refused for the same
fault. -/
theorem SameButOctets.handling_cases (h : left.SameButOctets right) :
    (∃ leftSession rightSession, left.handling = .copied leftSession ∧
      right.handling = .copied rightSession) ∨
    (∃ leftOctets rightOctets, left.handling = .fed leftOctets ∧
      right.handling = .fed rightOctets) ∨
    ∃ fault, left.handling = .refused fault ∧ right.handling = .refused fault := by
  unfold handling
  rw [h.etype, h.length]
  cases KeyPath.choose right.etype right.length with
  | copy =>
      have hsize : SessionKey.ofOctets? left.octets = none ↔
          SessionKey.ofOctets? right.octets = none := by
        rw [SessionKey.ofOctets?_eq_none_iff, SessionKey.ofOctets?_eq_none_iff]
        exact not_congr ⟨fun hleft ↦ h.length.symm.trans hleft, fun hright ↦ h.length.trans hright⟩
      dsimp only
      cases hleft : SessionKey.ofOctets? left.octets with
      | none =>
          rw [hsize.mp hleft]
          exact .inr (.inr ⟨_, rfl, rfl⟩)
      | some leftSession =>
          cases hright : SessionKey.ofOctets? right.octets with
          | none => cases hleft.symm.trans (hsize.mpr hright)
          | some rightSession => exact .inl ⟨leftSession, rightSession, rfl, rfl⟩
  | unweave =>
      dsimp only
      split
      · exact .inr (.inl ⟨_, _, rfl, rfl⟩)
      · exact .inr (.inr ⟨_, rfl, rfl⟩)
  | deriveDirect => exact .inr (.inl ⟨_, _, rfl, rfl⟩)
  | reject reason => cases reason <;> exact .inr (.inr ⟨_, rfl, rfl⟩)

/-- The reports of two derivations agree, unless a derivation is exhausted. -/
theorem SameButOctets.agree_sessionKey (h : left.SameButOctets right) :
    Report.Agree .exhausted (fun _ _ ↦ True) left.sessionKey right.sessionKey := by
  rw [sessionKey, sessionKey, sessionKeyWith_eq, sessionKeyWith_eq]
  rcases h.handling_cases with
    ⟨leftSession, rightSession, hleft, hright⟩ | ⟨leftOctets, rightOctets, hleft, hright⟩ |
      ⟨fault, hleft, hright⟩
  · rw [hleft, hright]
    exact .pure trivial
  · rw [hleft, hright]
    dsimp only [Kdf.deriveWith]
    rcases Kdf.report_tryCounters_hmac leftOctets Kdf.counters with hstop | ⟨leftSession, hleft⟩
    · exact .inl (congrArg Report.outcome hstop)
    rcases Kdf.report_tryCounters_hmac rightOctets Kdf.counters with hstop | ⟨rightSession, hright⟩
    · exact .inr (.inl (congrArg Report.outcome hstop))
    rw [hleft, hright]
    exact .pure trivial
  · rw [hleft, hright]
    exact .of_same rfl (.error fault)

end KeyMaterial

end AfsToken
