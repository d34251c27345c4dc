import AfsToken.Report

/-!
# Actions on a state

A part of a run may change a state besides reporting.  An action is such a part: it takes a state to
a report and the state that it leaves.  There is always a state left, also by an action that stops,
so whatever was changed before the stop stays changed.
-/

namespace AfsToken

/-- A part of a run that may change a state. -/
def Action (σ ε α : Type) := σ → Report ε α × σ

namespace Action

variable {σ ε ε' α β : Type}

/-- The report of an action that starts in a state. -/
def report (action : Action σ ε α) (state : σ) : Report ε α := (action state).1

/-- The state that an action leaves. -/
def left (action : Action σ ε α) (state : σ) : σ := (action state).2

/-- An action that only reports. -/
def ofReport (report : Report ε α) : Action σ ε α := fun state ↦ (report, state)

/-- An action that only stops. -/
def fail (fault : ε) : Action σ ε α := ofReport (Report.fail fault)

/-- What is seen of the state. -/
def view (f : σ → α) : Action σ ε α := fun state ↦ (pure (f state), state)

/-- What follows an action, if it has a value.  It starts in the state that the action left. -/
def bind (action : Action σ ε α) (next : α → Action σ ε β) : Action σ ε β := fun state ↦
  match action state with
  | (⟨log, .error fault⟩, state) => (⟨log, .error fault⟩, state)
  | (⟨log, .ok value⟩, state) =>
      let (later, state) := next value state
      (⟨log ++ later.log, later.outcome⟩, state)

instance : Monad (Action σ ε) where
  pure value := ofReport (pure value)
  bind := Action.bind

/-- An action whose report is rewritten. -/
def mapReport (f : Report ε α → Report ε' β) (action : Action σ ε α) : Action σ ε' β :=
  fun state ↦
    let (report, state) := action state
    (f report, state)

/-- An action that also notes, behind the notes before, that it was carried out. -/
def noting {γ : Type} (note : γ) (action : Action σ ε α) : Action (σ × List γ) ε α :=
  fun (state, notes) ↦
    let (report, state) := action state
    (report, state, notes ++ [note])

@[simp]
theorem report_ofReport (report : Report ε α) (state : σ) :
    (ofReport report : Action σ ε α).report state = report := rfl

@[simp]
theorem left_ofReport (report : Report ε α) (state : σ) :
    (ofReport report : Action σ ε α).left state = state := rfl

@[simp]
theorem left_noting {γ : Type} (note : γ) (action : Action σ ε α) (state : σ) (notes : List γ) :
    (action.noting note).left (state, notes) = (action.left state, notes ++ [note]) := rfl

/-- The reports of actions in sequence are in sequence. -/
theorem report_bind (action : Action σ ε α) (next : α → Action σ ε β) (state : σ) :
    (action >>= next).report state =
      action.report state >>= fun value ↦ (next value).report (action.left state) := by
  change (Action.bind action next state).1 =
    (action state).1 >>= fun value ↦ (next value (action state).2).1
  unfold Action.bind
  rcases action state with ⟨⟨log, outcome⟩, middle⟩
  cases outcome <;> rfl

/-- An action that stops leaves its state to nobody else. -/
theorem left_bind_of_error {action : Action σ ε α} {state : σ} {fault : ε}
    (h : (action.report state).outcome = .error fault) (next : α → Action σ ε β) :
    (action >>= next).left state = action.left state := by
  change (action state).1.outcome = .error fault at h
  change (Action.bind action next state).2 = (action state).2
  unfold Action.bind
  rcases hrun : action state with ⟨⟨log, outcome⟩, middle⟩
  rw [hrun] at h
  subst h
  rfl

/-- An action with a value leaves its state to what follows. -/
theorem left_bind_of_ok {action : Action σ ε α} {state : σ} {value : α}
    (h : (action.report state).outcome = .ok value) (next : α → Action σ ε β) :
    (action >>= next).left state = (next value).left (action.left state) := by
  change (action state).1.outcome = .ok value at h
  change (Action.bind action next state).2 = (next value (action state).2).2
  unfold Action.bind
  rcases hrun : action state with ⟨⟨log, outcome⟩, middle⟩
  rw [hrun] at h
  subst h
  rfl

/-- After a report that stopped, the state is what it was. -/
theorem left_ofReport_bind_of_error {report : Report ε α} {fault : ε}
    (h : report.outcome = .error fault) (next : α → Action σ ε β) (state : σ) :
    (ofReport report >>= next).left state = state := by
  have hstart : ((ofReport report : Action σ ε α).report state).outcome = .error fault := h
  rw [left_bind_of_error hstart, left_ofReport]

/-- What follows a report with a value starts in the same state. -/
theorem left_ofReport_bind_of_ok {report : Report ε α} {value : α}
    (h : report.outcome = .ok value) (next : α → Action σ ε β) (state : σ) :
    (ofReport report >>= next).left state = (next value).left state := by
  have hstart : ((ofReport report : Action σ ε α).report state).outcome = .ok value := h
  rw [left_bind_of_ok hstart, left_ofReport]

end Action

end AfsToken
