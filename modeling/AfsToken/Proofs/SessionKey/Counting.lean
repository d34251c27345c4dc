import AfsToken.SessionKey.Derivation

/-!
# Counting through a pseudorandom function

The derivation is compared with the calls that an unbounded count would make: each call has the
state that the calls before it left.  An outcome is passed over if it is an output that gives a weak
key.  The derivation makes the calls up to the first outcome that is not passed over, in order and
no others, and that outcome alone decides.  Nothing is asked of the function: its outcomes may be
faults, or outputs of any length, and may depend on the calls before.
-/

namespace AfsToken.Kdf

open AfsToken.Text

variable {σ : Type}

/-- A function that also notes the messages it is called with. -/
def noting (ask : (message : Octets) → Action σ DerivationFault Octets) (message : Octets) :
    Action (σ × List Octets) DerivationFault Octets := (ask message).noting message

/-- The message of the call with a number. -/
def message (number : Nat) : Octets :=
  [UInt8.ofNat number, 0x72, 0x78, 0x6B, 0x61, 0x64, 0x00, 0x00, 0x00, 0x00, 0x40]

/-- The state after so many calls. -/
def stateAfter (ask : (message : Octets) → Action σ DerivationFault Octets) (state : σ) : Nat → σ
  | 0 => state
  | number + 1 => (ask (message (number + 1))).left (stateAfter ask state number)

/-- The outcome of the call with a number, made after all calls with a smaller one. -/
def outcomeAt (ask : (message : Octets) → Action σ DerivationFault Octets) (state : σ)
    (number : Nat) : Except DerivationFault Octets :=
  ((ask (message number)).report (stateAfter ask state (number - 1))).outcome

/-- Whether an outcome is an output that is long enough and gives a weak key. -/
def IsPassedOver : Except DerivationFault Octets → Prop
  | .error _ => False
  | .ok output =>
      Des.keySize ≤ output.length ∧ Des.setOddParity (output.take Des.keySize) ∈ Des.weakKeys

instance (outcome : Except DerivationFault Octets) : Decidable (IsPassedOver outcome) := by
  unfold IsPassedOver
  split <;> infer_instance

theorem length_setOddParity_take {output : Octets} (h : ¬output.length < Des.keySize) :
    (Des.setOddParity (output.take Des.keySize)).length = Des.keySize := by
  rw [Des.length_setOddParity, List.length_take]
  omega

/-- What an outcome decides: a fault stands, a short output is a fault of its own, and any other
output gives its first octets with odd parity. -/
def verdict : Except DerivationFault Octets → Except DerivationFault SessionKey
  | .error fault => .error fault
  | .ok output =>
      if h : output.length < Des.keySize then
        .error (.primitive ("short result of " ++ Decimal.ofNat output.length ++ " octets"))
      else .ok ⟨Des.setOddParity (output.take Des.keySize), length_setOddParity_take h⟩

theorem octets_rxkad (number : Nat) :
    (Input.rxkad (UInt8.ofNat number)).octets = message number := by
  have hbits : Octets.ofNatBE 4 keyBits.toNat = [0x00, 0x00, 0x00, 0x40] := by decide
  rw [Input.octets, Input.rxkad, hbits]
  rfl

theorem candidate?_eq_none_iff (output : Octets) :
    candidate? output = none ↔ output.length < Des.keySize := by
  rw [candidate?, SessionKey.ofOctets?_eq_none_iff, Des.length_setOddParity, List.length_take]
  omega

theorem octets_of_candidate? {output : Octets} {session : SessionKey}
    (h : candidate? output = some session) :
    session.octets = Des.setOddParity (output.take Des.keySize) :=
  SessionKey.ofOctets?_eq_some_iff.mp h

theorem isWeak_iff (key : Octets) : Des.isWeak key = true ↔ key ∈ Des.weakKeys := by
  rw [Des.isWeak, List.contains_iff_mem]

/-- A key that was decided on is strong and has odd parity, unless its output is passed over. -/
theorem verdict_strong {outcome : Except DerivationFault Octets} {session : SessionKey}
    (hpassed : ¬IsPassedOver outcome) (h : verdict outcome = .ok session) :
    (∀ octet ∈ session.octets, Des.HasOddParity octet) ∧ session.octets ∉ Des.weakKeys := by
  cases outcome with
  | error fault => cases h
  | ok output =>
      by_cases hshort : output.length < Des.keySize
      · simp [verdict, hshort] at h
      · rw [verdict, dif_neg hshort] at h
        cases h
        refine ⟨fun octet hoctet ↦ Des.hasOddParity_of_mem_setOddParity hoctet, fun hweak ↦ ?_⟩
        exact hpassed ⟨Nat.le_of_not_lt hshort, hweak⟩

section Step

variable (ask : (message : Octets) → Action σ DerivationFault Octets) (state : σ)

/-- After an outcome that is passed over, the remaining counters are tried. -/
theorem tryCounters_cons_of_passedOver {counter : UInt8}
    (h : IsPassedOver ((ask (Input.rxkad counter).octets).report state).outcome)
    (rest : List UInt8) :
    let next := (ask (Input.rxkad counter).octets).left state
    ((tryCounters ask (counter :: rest)).report state).outcome =
        ((tryCounters ask rest).report next).outcome ∧
      (tryCounters ask (counter :: rest)).left state = (tryCounters ask rest).left next := by
  intro next
  cases houtcome : ((ask (Input.rxkad counter).octets).report state).outcome with
  | error fault => rw [houtcome] at h; exact h.elim
  | ok output =>
      rw [houtcome] at h
      obtain ⟨hlong, hweak⟩ := h
      cases hcandidate : candidate? output with
      | none => exact absurd ((candidate?_eq_none_iff output).mp hcandidate) (by omega)
      | some session =>
          have hisWeak : Des.isWeak session.octets = true := by
            rw [isWeak_iff, octets_of_candidate? hcandidate]
            exact hweak
          rw [tryCounters, Action.report_bind, Report.bind_of_ok houtcome,
            Action.left_bind_of_ok houtcome]
          simp only [hcandidate, hisWeak, if_true]
          exact ⟨rfl, rfl⟩

/-- An outcome that is not passed over decides. -/
theorem tryCounters_cons_of_not_passedOver {counter : UInt8}
    (h : ¬IsPassedOver ((ask (Input.rxkad counter).octets).report state).outcome)
    (rest : List UInt8) :
    ((tryCounters ask (counter :: rest)).report state).outcome =
        verdict ((ask (Input.rxkad counter).octets).report state).outcome ∧
      (tryCounters ask (counter :: rest)).left state =
        (ask (Input.rxkad counter).octets).left state := by
  cases houtcome : ((ask (Input.rxkad counter).octets).report state).outcome with
  | error fault =>
      rw [tryCounters, Action.report_bind, Report.bind_of_error houtcome,
        Action.left_bind_of_error houtcome]
      exact ⟨rfl, rfl⟩
  | ok output =>
      rw [houtcome] at h
      rw [tryCounters, Action.report_bind, Report.bind_of_ok houtcome,
        Action.left_bind_of_ok houtcome]
      cases hcandidate : candidate? output with
      | none =>
          have hshort := (candidate?_eq_none_iff output).mp hcandidate
          rw [verdict, dif_pos hshort]
          exact ⟨rfl, rfl⟩
      | some session =>
          have hlong : ¬output.length < Des.keySize := by
            rw [← candidate?_eq_none_iff, hcandidate]
            simp
          have hisWeak : Des.isWeak session.octets = false := by
            rw [← Bool.not_eq_true, isWeak_iff, octets_of_candidate? hcandidate]
            exact fun hweak ↦ h ⟨Nat.le_of_not_lt hlong, hweak⟩
          have hsession : session =
              ⟨Des.setOddParity (output.take Des.keySize), length_setOddParity_take hlong⟩ := by
            cases session
            congr
            exact octets_of_candidate? hcandidate
          simp only [hisWeak, verdict, dif_neg hlong]
          exact ⟨by rw [hsession]; rfl, rfl⟩

end Step

/-- The counters behind `done` are tried from the state that the counters up to it left.  The first
outcome that is not passed over decides, or all of them are passed over. -/
theorem tryCounters_range' (ask : (message : Octets) → Action σ DerivationFault Octets) (state : σ)
    (done more : Nat) :
    let run := tryCounters ask ((List.range' (done + 1) more).map UInt8.ofNat)
    let start := stateAfter ask state done
    match (List.range' (done + 1) more).find? fun n ↦ ¬IsPassedOver (outcomeAt ask state n) with
    | some n =>
        (run.report start).outcome = verdict (outcomeAt ask state n) ∧
          run.left start = stateAfter ask state n
    | none =>
        (run.report start).outcome = .error .exhausted ∧
          run.left start = stateAfter ask state (done + more) := by
  induction more generalizing done with
  | zero => exact ⟨rfl, rfl⟩
  | succ more ih =>
      have hcall : ((ask (Input.rxkad (UInt8.ofNat (done + 1))).octets).report
          (stateAfter ask state done)).outcome = outcomeAt ask state (done + 1) := by
        rw [octets_rxkad]
        rfl
      have hleft : (ask (Input.rxkad (UInt8.ofNat (done + 1))).octets).left
          (stateAfter ask state done) = stateAfter ask state (done + 1) := by
        rw [octets_rxkad]
        rfl
      intro run start
      have hrun : run = tryCounters ask (UInt8.ofNat (done + 1) ::
          (List.range' (done + 2) more).map UInt8.ofNat) := by
        simp only [run, List.range'_succ, List.map_cons]
      rw [List.range'_succ, List.find?_cons, hrun]
      by_cases hpassed : IsPassedOver (outcomeAt ask state (done + 1))
      · have hstep := tryCounters_cons_of_passedOver ask (stateAfter ask state done)
          (hcall ▸ hpassed) ((List.range' (done + 2) more).map UInt8.ofNat)
        rw [hleft] at hstep
        have ih := ih (done + 1)
        simp only [hpassed, not_true_eq_false, decide_false]
        rw [hstep.1, hstep.2, show done + (more + 1) = done + 1 + more by omega]
        exact ih
      · have hstep := tryCounters_cons_of_not_passedOver ask (stateAfter ask state done)
          (hcall ▸ hpassed) ((List.range' (done + 2) more).map UInt8.ofNat)
        rw [hleft, hcall] at hstep
        simp only [hpassed, not_false_eq_true, decide_true]
        exact hstep

/-- The derivation makes one call at least and no others than those of the first counters, and a key
that it gives is decided on by the last of them. -/
theorem deriveWith_cases (prf : Prf σ) (key : Octets) (state : σ) :
    ∃ number, 1 ≤ number ∧ (deriveWith prf key).left state = stateAfter (prf key) state number ∧
      ∀ session, ((deriveWith prf key).report state).outcome = .ok session →
        ¬IsPassedOver (outcomeAt (prf key) state number) ∧
          verdict (outcomeAt (prf key) state number) = .ok session := by
  have hrun := tryCounters_range' (prf key) state 0 255
  cases hfind : (List.range' 1 255).find? fun n ↦ ¬IsPassedOver (outcomeAt (prf key) state n) with
  | none =>
      simp only [Nat.zero_add, hfind] at hrun
      refine ⟨255, by decide, hrun.2, fun session hsession ↦ ?_⟩
      cases hrun.1.symm.trans hsession
  | some n =>
      simp only [Nat.zero_add, hfind] at hrun
      have hfirst : 1 ≤ n := (List.mem_range'_1.mp (List.mem_of_find?_eq_some hfind)).1
      have hpassed : ¬IsPassedOver (outcomeAt (prf key) state n) := by
        simpa using List.find?_some hfind
      exact ⟨n, hfirst, hrun.2, fun session hsession ↦ ⟨hpassed, hrun.1.symm.trans hsession⟩⟩

theorem stateAfter_noting (ask : (message : Octets) → Action σ DerivationFault Octets) (state : σ)
    (number : Nat) :
    stateAfter (noting ask) (state, []) number =
      (stateAfter ask state number, (List.range' 1 number).map message) := by
  induction number with
  | zero => rfl
  | succ number ih =>
      rw [stateAfter, ih, noting, Action.left_noting, List.range'_1_concat, List.map_append,
        Nat.add_comm 1 number]
      rfl

theorem outcomeAt_noting (ask : (message : Octets) → Action σ DerivationFault Octets) (state : σ)
    (number : Nat) : outcomeAt (noting ask) (state, []) number = outcomeAt ask state number := by
  rw [outcomeAt, stateAfter_noting]
  rfl

/-- No counter is repeated or left out, and none exceeds what an octet holds. -/
theorem counters_of_messages {number : Nat} (h : number ≤ 255) :
    ((List.range' 1 number).map message).map (fun message ↦ (message.headD 0).toNat) =
      List.range' 1 number := by
  rw [List.map_map]
  apply (List.map_congr_left fun n hn ↦ ?_).trans (List.map_id _)
  have hsmall : n < 256 := by
    rw [List.mem_range'_1] at hn
    omega
  simp [message, Nat.mod_eq_of_lt hsmall]

/-- The derivation calls its function with the counters from one on, up to the first outcome that is
not passed over or through all 255, and does nothing else to the state of the function.  That
outcome alone decides. -/
theorem deriveWith_first_not_passedOver (prf : Prf σ) (key : Octets) (state : σ) :
    let noted := deriveWith (fun key ↦ noting (prf key)) key
    let outcome := (noted.report (state, [])).outcome
    let calls := (noted.left (state, [])).2
    (match (List.range' 1 255).find? fun n ↦ ¬IsPassedOver (outcomeAt (prf key) state n) with
      | some n =>
          calls = (List.range' 1 n).map message ∧
            outcome = verdict (outcomeAt (prf key) state n)
      | none => calls = (List.range' 1 255).map message ∧ outcome = .error .exhausted) ∧
    calls.map (fun message ↦ (message.headD 0).toNat) = List.range' 1 calls.length ∧
    (∀ session, outcome = .ok session → session.octets.length = 8 ∧
      (∀ octet ∈ session.octets, Des.HasOddParity octet) ∧ session.octets ∉ Des.weakKeys) ∧
    ((deriveWith prf key).report state).outcome = outcome ∧
    (deriveWith prf key).left state = (noted.left (state, [])).1 := by
  intro noted outcome calls
  have hplain := tryCounters_range' (prf key) state 0 255
  have hnoted := tryCounters_range' (noting (prf key)) (state, []) 0 255
  simp only [outcomeAt_noting, stateAfter_noting] at hnoted
  cases hfind : (List.range' 1 255).find? fun n ↦ ¬IsPassedOver (outcomeAt (prf key) state n) with
  | none =>
      simp only [Nat.zero_add, hfind] at hplain hnoted
      obtain ⟨houtcome, hleft⟩ := hnoted
      have hcalls : calls = (List.range' 1 255).map message := congrArg Prod.snd hleft
      refine ⟨⟨hcalls, houtcome⟩, ?_, fun session hsession ↦ ?_, ?_, ?_⟩
      · rw [hcalls, counters_of_messages (Nat.le_refl 255), List.length_map, List.length_range']
      · cases houtcome.symm.trans hsession
      · exact hplain.1.trans houtcome.symm
      · exact hplain.2.trans (congrArg Prod.fst hleft).symm
  | some n =>
      simp only [Nat.zero_add, hfind] at hplain hnoted
      obtain ⟨houtcome, hleft⟩ := hnoted
      have hcalls : calls = (List.range' 1 n).map message := congrArg Prod.snd hleft
      have hsmall : n ≤ 255 := by
        have hmem := List.mem_of_find?_eq_some hfind
        rw [List.mem_range'_1] at hmem
        omega
      refine ⟨⟨hcalls, houtcome⟩, ?_, fun session hsession ↦ ?_, ?_, ?_⟩
      · rw [hcalls, counters_of_messages hsmall, List.length_map, List.length_range']
      · have hpassed : ¬IsPassedOver (outcomeAt (prf key) state n) := by
          simpa using List.find?_some hfind
        exact ⟨session.length_octets, verdict_strong hpassed (houtcome.symm.trans hsession)⟩
      · exact hplain.1.trans houtcome.symm
      · exact hplain.2.trans (congrArg Prod.fst hleft).symm

end AfsToken.Kdf
