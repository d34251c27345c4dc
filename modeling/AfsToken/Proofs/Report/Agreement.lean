import AfsToken.Report

/-!
# Reports of two runs

Two runs of one program on different data agree if nobody can tell them apart by their reports: they
wrote the same records, and stopped with the same fault or have values that are related.  One fault
can be set aside, so that nothing is said of a run that stopped with it.  Agreement is kept when the
same is done in sequence on both sides.
-/

namespace AfsToken.Report

variable {ε ε' α β γ δ : Type}

/-- Two outcomes are the same fault, or are related values. -/
inductive SameOutcome (R : α → β → Prop) : Except ε α → Except ε β → Prop
  | ok {left : α} {right : β} (h : R left right) : SameOutcome R (.ok left) (.ok right)
  | error (fault : ε) : SameOutcome R (.error fault) (.error fault)

theorem SameOutcome.mapError {R : α → β → Prop} (f : ε → ε') {left : Except ε α}
    {right : Except ε β} (h : SameOutcome R left right) :
    SameOutcome R (left.mapError f) (right.mapError f) := by
  cases h with
  | ok hvalue => exact .ok hvalue
  | error fault => exact .error (f fault)

/-- Two reports agree, unless one of them stopped with the fault that is set aside. -/
def Agree (aside : ε) (R : α → β → Prop) (left : Report ε α) (right : Report ε β) : Prop :=
  left.outcome = .error aside ∨ right.outcome = .error aside ∨
    left.log = right.log ∧ SameOutcome R left.outcome right.outcome

namespace Agree

variable {aside : ε} {R : α → β → Prop} {S : γ → δ → Prop}

theorem of_same {left : Report ε α} {right : Report ε β} (hlog : left.log = right.log)
    (houtcome : SameOutcome R left.outcome right.outcome) : Agree aside R left right :=
  .inr (.inr ⟨hlog, houtcome⟩)

/-- Where both of two reports that agree have values, these are related. -/
theorem of_ok {left : Report ε α} {right : Report ε β} (h : Agree aside R left right)
    {leftValue : α} {rightValue : β} (hleft : left.outcome = .ok leftValue)
    (hright : right.outcome = .ok rightValue) : R leftValue rightValue := by
  rcases h with hstop | hstop | ⟨-, houtcome⟩
  · cases hleft.symm.trans hstop
  · cases hright.symm.trans hstop
  · rw [hleft, hright] at houtcome
    cases houtcome with
    | ok hvalue => exact hvalue

theorem ofExcept {left : Except ε α} {right : Except ε β} (h : SameOutcome R left right) :
    Agree aside R (ofExcept left) (ofExcept right) :=
  of_same rfl h

theorem pure {left : α} {right : β} (h : R left right) :
    Agree aside R (pure left) (pure right) :=
  of_same rfl (.ok h)

theorem note (level : Level) (text : String) :
    Agree aside Eq (note level text : Report ε Unit) (note level text) :=
  of_same rfl (.ok rfl)

theorem bind {left : Report ε α} {right : Report ε β} {leftNext : α → Report ε γ}
    {rightNext : β → Report ε δ} (h : Agree aside R left right)
    (hnext : ∀ {leftValue rightValue}, R leftValue rightValue →
      Agree aside S (leftNext leftValue) (rightNext rightValue)) :
    Agree aside S (left >>= leftNext) (right >>= rightNext) := by
  rcases h with hleft | hright | ⟨hlog, houtcome⟩
  · exact .inl (by rw [bind_of_error hleft])
  · exact .inr (.inl (by rw [bind_of_error hright]))
  rcases left with ⟨log, leftOutcome⟩
  rcases right with ⟨_, rightOutcome⟩
  cases hlog
  cases houtcome with
  | error fault =>
      rw [bind_of_error rfl, bind_of_error rfl]
      exact of_same rfl (.error fault)
  | ok hvalue =>
      rw [bind_of_ok rfl, bind_of_ok rfl]
      rcases hnext hvalue with hleft | hright | ⟨hlater, houtcome⟩
      · exact .inl hleft
      · exact .inr (.inl hright)
      · exact of_same (congrArg _ hlater) houtcome

theorem mapFault (f : ε → ε') {left : Report ε α} {right : Report ε β}
    (h : Agree aside R left right) : Agree (f aside) R (left.mapFault f) (right.mapFault f) := by
  rcases h with hleft | hright | ⟨hlog, houtcome⟩
  · exact .inl (by rw [outcome_mapFault, hleft]; rfl)
  · exact .inr (.inl (by rw [outcome_mapFault, hright]; rfl))
  · exact of_same hlog (houtcome.mapError f)

end Agree

end AfsToken.Report
