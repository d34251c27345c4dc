/-!
# Reports of a run

Every part of a run may write log records, and may stop with a fault.  A report holds both: the
records in the order they were written, and the outcome.  Reports are put in sequence as programs
are: the records of the second follow those of the first, and the second is left out if the first
stopped.
-/

namespace AfsToken

/-- How much a log record matters. -/
inductive Level
  | error
  | warn
  | info
  | debug
  | trace
  deriving DecidableEq, Repr

/-- The name of a level in front of a record. -/
def Level.name : Level → String
  | .error => "ERROR"
  | .warn => "WARN"
  | .info => "INFO"
  | .debug => "DEBUG"
  | .trace => "TRACE"

/-- The place of a level, from the one that matters most. -/
def Level.rank : Level → Nat
  | .error => 0
  | .warn => 1
  | .info => 2
  | .debug => 3
  | .trace => 4

/-- A message with its level. -/
structure LogRecord where
  level : Level
  text : String
  deriving DecidableEq, Repr

/-- The line that shows a record. -/
def LogRecord.line (record : LogRecord) : String := "[" ++ record.level.name ++ "] " ++ record.text

/-- The log records of a part of a run, and its value or the fault it stopped with. -/
structure Report (ε α : Type) where
  log : List LogRecord
  outcome : Except ε α

namespace Report

variable {ε ε' α β γ : Type}

/-- A report of one log record. -/
def note (level : Level) (text : String) : Report ε Unit := ⟨[⟨level, text⟩], .ok ()⟩

/-- A report of nothing but an outcome. -/
def ofExcept (outcome : Except ε α) : Report ε α := ⟨[], outcome⟩

/-- A report of nothing but a fault. -/
def fail (fault : ε) : Report ε α := ofExcept (.error fault)

/-- What follows a report, if it has a value. -/
def bind (report : Report ε α) (next : α → Report ε β) : Report ε β :=
  match report.outcome with
  | .ok value => ⟨report.log ++ (next value).log, (next value).outcome⟩
  | .error fault => ⟨report.log, .error fault⟩

instance : Monad (Report ε) where
  pure value := ofExcept (.ok value)
  bind := Report.bind

/-- A report whose fault is seen as one of another kind. -/
def mapFault (f : ε → ε') (report : Report ε α) : Report ε' α :=
  ⟨report.log, report.outcome.mapError f⟩

@[ext]
theorem ext {left right : Report ε α} (hlog : left.log = right.log)
    (houtcome : left.outcome = right.outcome) : left = right := by
  cases left
  cases right
  simp_all

theorem bind_def (report : Report ε α) (next : α → Report ε β) :
    (report >>= next) = report.bind next := rfl

theorem pure_def (value : α) : (pure value : Report ε α) = ⟨[], .ok value⟩ := rfl

/-- A report with a value passes it on, and its records come first. -/
theorem bind_of_ok {report : Report ε α} {value : α} (h : report.outcome = .ok value)
    (next : α → Report ε β) :
    report >>= next = ⟨report.log ++ (next value).log, (next value).outcome⟩ := by
  simp [bind_def, bind, h]

/-- A report that stopped is the end. -/
theorem bind_of_error {report : Report ε α} {fault : ε} (h : report.outcome = .error fault)
    (next : α → Report ε β) : report >>= next = ⟨report.log, .error fault⟩ := by
  simp [bind_def, bind, h]

instance : LawfulMonad (Report ε) := LawfulMonad.mk' (Report ε)
  (fun ⟨log, outcome⟩ ↦ by cases outcome <;> simp [Functor.map, bind, ofExcept])
  (fun value next ↦ by simp [pure_def, bind_def, bind])
  (fun ⟨log, outcome⟩ next last ↦ by
    cases outcome with
    | error fault => simp [bind_def, bind]
    | ok value => cases h : (next value).outcome <;> simp [bind_def, bind, h])

theorem mapError_eq_ok_iff {f : ε → ε'} {outcome : Except ε α} {value : α} :
    outcome.mapError f = .ok value ↔ outcome = .ok value := by
  constructor
  · intro h
    cases outcome with
    | error fault => cases h
    | ok found => exact congrArg Except.ok (Except.ok.inj h)
  · rintro rfl
    rfl

/-- A run has a value only if every part of it has one. -/
theorem bind_outcome_eq_ok_iff {report : Report ε α} {next : α → Report ε β} {value : β} :
    (report >>= next).outcome = .ok value ↔
      ∃ first, report.outcome = .ok first ∧ (next first).outcome = .ok value := by
  cases h : report.outcome <;> simp [bind_def, bind, h]

/-- The outcomes of reports in sequence are in sequence. -/
theorem outcome_bind (report : Report ε α) (next : α → Report ε β) :
    (report >>= next).outcome = report.outcome >>= fun value ↦ (next value).outcome := by
  rw [bind_def, bind]
  cases report.outcome <;> rfl

/-- A log record stops nothing. -/
@[simp]
theorem outcome_note_bind (level : Level) (text : String) (next : Unit → Report ε α) :
    (note level text >>= next).outcome = (next ()).outcome := rfl

@[simp]
theorem outcome_ofExcept (outcome : Except ε α) : (ofExcept outcome).outcome = outcome := rfl

@[simp]
theorem outcome_pure (value : α) : (pure value : Report ε α).outcome = .ok value := rfl

@[simp]
theorem outcome_mapFault (f : ε → ε') (report : Report ε α) :
    (report.mapFault f).outcome = report.outcome.mapError f := rfl

end Report

end AfsToken
