import AfsToken.Proofs.Credential.MessageFile
import AfsToken.Token.Run

/-!
# Histories of runs

A run makes its token first and adds it then, and only the adding changes the store.  Adding comes
last of all that can stop a run, so a run that stops leaves the store as it was, and a run succeeds
exactly if its token is made and the sink takes it.  It changes one place then: a file, or a key.
Two paths of one file are one place, whether a run writes to it or reads its cache there.  What
holds of one run is carried through a history by induction: each place has the record of the last
run that put one there.
-/

namespace AfsToken.System

open AfsToken.Text

variable {system : System}

/-! ## Adding to a sink -/

/-- How a store changes by a record under a description: at the place of the sink and nowhere
else.  The session keyring is no place of a store. -/
inductive Puts (system : System) (description : String) (record : Octets) (before after : Store) :
    Sink → Prop
  | file {path name : String} (hpath : system.locate path = .ok (.entry name))
      (hcontent : after.files.get? name = some record)
      (hothers : ∀ other, other ≠ name → after.files.get? other = before.files.get? other)
      (hkeys : after.keys = before.keys) : Puts system description record before after (.file path)
  | memory (hrecord : after.keys.get? description = some record)
      (hothers : ∀ other, other ≠ description → after.keys.get? other = before.keys.get? other)
      (hfiles : after.files = before.files) : Puts system description record before after .memory
  | sessionKeyring (hstore : after = before) :
      Puts system description record before after .sessionKeyring

/-- The file that a sink is, whatever path leads to it. -/
def file? (system : System) : Sink → Option String
  | .file path =>
      match system.locate path with
      | .ok (.entry name) => some name
      | _ => none
  | .memory => none
  | .sessionKeyring => none

theorem file?_eq_some_iff {sink : Sink} {name : String} : system.file? sink = some name ↔
    ∃ path, sink = .file path ∧ system.locate path = .ok (.entry name) := by
  cases sink with
  | memory => simp [file?]
  | sessionKeyring => simp [file?]
  | file path =>
      simp only [file?, Sink.file.injEq, exists_eq_left']
      split
      next found hfound => simp [hfound]
      next hnone => exact iff_of_false (fun h ↦ by cases h) fun h ↦ hnone name h

namespace Puts

variable {sink : Sink} {description : String} {record : Octets} {before after : Store}
  (h : Puts system description record before after sink)

include h

theorem get?_keys (other : String) : after.keys.get? other =
    if sink = .memory ∧ description = other then some record else before.keys.get? other := by
  cases h with
  | file hpath hcontent hothers hkeys => simp [hkeys]
  | sessionKeyring hstore => simp [hstore]
  | memory hrecord hothers hfiles =>
      split
      next hname => rw [← hname.2, hrecord]
      next hname => exact hothers other fun heq ↦ hname ⟨rfl, heq.symm⟩

theorem get?_files (name : String) : after.files.get? name =
    if system.file? sink = some name then some record else before.files.get? name := by
  cases h with
  | memory hrecord hothers hfiles => simp [file?, hfiles]
  | sessionKeyring hstore => simp [file?, hstore]
  | @file path found hpath hcontent hothers hkeys =>
      have hfile := file?_eq_some_iff.mpr ⟨path, rfl, hpath⟩
      rw [hfile]
      split
      next hname => rw [← Option.some.inj hname, hcontent]
      next hname => exact hothers name fun heq ↦ hname (congrArg some heq.symm)

end Puts

section Add

variable {sink : Sink} {description : String} {record : Octets} {store : Store}

/-- A record that is not taken changes nothing. -/
theorem left_add_of_error {fault : Failure}
    (h : ((system.add sink description record).report store).outcome = .error fault) :
    (system.add sink description record).left store = store := by
  cases sink with
  | memory => cases h
  | sessionKeyring => rfl
  | file path =>
      change (Store.reportWrite path description record.length
        (system.writeFile path record store).1).outcome = .error fault at h
      change (system.writeFile path record store).2 = store
      rcases hwrite : system.writeFile path record store with ⟨outcome, next⟩
      rw [hwrite, Store.outcome_reportWrite] at h
      cases outcome with
      | ok value => cases h
      | error cause => exact left_writeFile_of_error hwrite

/-- What a file is written with is the whole of its content. -/
theorem writeFile_of_takes (record : Octets) {path : String}
    (h : system.Takes store description record.length (.file path)) :
    ∃ name, system.locate path = .ok (.entry name) ∧ system.writeFile path record store =
      (.ok (), { store with files := store.files.put name record }) := by
  obtain ⟨name, hlocate, hfree⟩ := h
  have hwrite := write_eq_ok_iff.mpr ⟨name, hlocate, hfree, rfl⟩
  exact ⟨name, hlocate, writeFile_eq_ok_iff.mpr ⟨_, hwrite, rfl⟩⟩

/-- A record that is taken is put at the place of the sink. -/
theorem puts_of_takes (h : system.Takes store description record.length sink) :
    Puts system description record store ((system.add sink description record).left store)
      sink := by
  cases sink with
  | memory =>
      exact .memory (Table.get?_put_self _ _ _) (fun other hne ↦ Table.get?_put_of_ne _ hne.symm _)
        rfl
  | sessionKeyring => exact .sessionKeyring rfl
  | file path =>
      obtain ⟨name, hlocate, hwrite⟩ := writeFile_of_takes record h
      change Puts system description record store (system.writeFile path record store).2 _
      rw [hwrite]
      exact .file hlocate (Table.get?_put_self _ _ _)
        (fun other hne ↦ Table.get?_put_of_ne _ hne.symm _) rfl

/-- Adding a record once more leaves what the first time left. -/
theorem left_add_again (h : system.Takes store description record.length sink) :
    (system.add sink description record).left ((system.add sink description record).left store) =
      (system.add sink description record).left store := by
  cases sink with
  | memory => simp only [add, Action.left, Table.put_put]
  | sessionKeyring => rfl
  | file path =>
      obtain ⟨name, hlocate, hwrite⟩ := writeFile_of_takes record h
      change (system.writeFile path record (system.writeFile path record store).2).2 =
        (system.writeFile path record store).2
      rw [hwrite]
      rcases hagain : system.writeFile path record { store with
        files := store.files.put name record } with ⟨outcome, next⟩
      cases outcome with
      | error fault => exact left_writeFile_of_error hagain
      | ok value =>
          obtain ⟨files, hfiles, rfl⟩ := writeFile_eq_ok_iff.mp hagain
          obtain ⟨other, hother, -, rfl⟩ := write_eq_ok_iff.mp hfiles
          cases hlocate.symm.trans hother
          simp only [Table.put_put]

/-- What is reported of a record that is taken does not depend on what is there. -/
theorem report_add_congr {other : Store} (h : system.Takes store description record.length sink)
    (hother : system.Takes other description record.length sink) :
    (system.add sink description record).report store =
      (system.add sink description record).report other := by
  cases sink with
  | memory => rfl
  | sessionKeyring => rfl
  | file path =>
      obtain ⟨_, -, hwrite⟩ := writeFile_of_takes record h
      obtain ⟨_, -, hwriteOther⟩ := writeFile_of_takes record hother
      change Store.reportWrite path description record.length
        (system.writeFile path record store).1 = Store.reportWrite path description record.length
        (system.writeFile path record other).1
      rw [hwrite, hwriteOther]

end Add

/-! ## Storing a token -/

/-- Adds a token to a sink, if it is made. -/
def storing (system : System) (sink : Sink) (made : Report Stop Token) :
    Action Store Stop Unit := do
  let token ← Action.ofReport made
  (system.add sink token.description token.record).mapReport (token.finish sink.name)

section Storing

variable {sink : Sink} {made : Report Stop Token} {token : Token} {store : Store}

theorem load_eq_storing (sink : Sink) (cell : Cell) (path : String)
    (content : Except OsFault Octets) :
    Token.load (system.keyStore sink) cell path content =
      system.storing sink (Token.ofContent cell path content) :=
  rfl

theorem report_storing (sink : Sink) (made : Report Stop Token) (store : Store) :
    (system.storing sink made).report store = made >>= fun token ↦ token.finish sink.name
      ((system.add sink token.description token.record).report store) := by
  rw [storing, Action.report_bind, Action.report_ofReport]
  rfl

/-- A token that is made is added, and nothing else happens to the store. -/
theorem left_storing (h : made.outcome = .ok token) :
    (system.storing sink made).left store =
      (system.add sink token.description token.record).left store :=
  Action.left_ofReport_bind_of_ok h _ store

/-- A token is stored exactly if it is made and the sink takes it. -/
theorem storing_eq_ok_iff :
    ((system.storing sink made).report store).outcome = .ok () ↔
      ∃ token, made.outcome = .ok token ∧
        system.Takes store token.description token.record.length sink := by
  simp only [report_storing, Report.bind_outcome_eq_ok_iff, Token.outcome_finish,
    Report.mapError_eq_ok_iff, add_eq_ok_iff]

/-- A token that is not stored leaves the store as it was. -/
theorem left_storing_of_error {stop : Stop}
    (h : ((system.storing sink made).report store).outcome = .error stop) :
    (system.storing sink made).left store = store := by
  cases hmade : made.outcome with
  | error fault => exact Action.left_ofReport_bind_of_error hmade _ store
  | ok token =>
      rw [report_storing, Report.bind_of_ok hmade, Token.outcome_finish] at h
      rw [left_storing hmade]
      -- The record is added last of all, so the outcome is that of the adding.
      cases hadd : ((system.add sink token.description token.record).report store).outcome with
      | error fault => exact left_add_of_error hadd
      | ok value => rw [hadd] at h; cases h

/-- A token is not stored and nothing changes, or it is made and its record is put. -/
theorem storing_cases (sink : Sink) (made : Report Stop Token) (store : Store) :
    (∃ stop, ((system.storing sink made).report store).outcome = .error stop ∧
      (system.storing sink made).left store = store) ∨
    ∃ token, made.outcome = .ok token ∧
      ((system.storing sink made).report store).outcome = .ok () ∧
      Puts system token.description token.record store ((system.storing sink made).left store)
        sink := by
  cases houtcome : ((system.storing sink made).report store).outcome with
  | error stop => exact .inl ⟨stop, rfl, left_storing_of_error houtcome⟩
  | ok value =>
      obtain ⟨token, hmade, htakes⟩ := storing_eq_ok_iff.mp houtcome
      refine .inr ⟨token, hmade, rfl, ?_⟩
      rw [left_storing hmade]
      exact puts_of_takes htakes

end Storing

/-! ## One run -/

/-- The token that a run makes before it adds it. -/
def made (system : System) (environment : Environment) (request : TokenRequest) (store : Store) :
    Report Stop Token := do
  let path ← Report.ofExcept (request.path environment)
  Token.ofContent request.cell path (system.read store.files path)

theorem run_eq_storing (system : System) (environment : Environment) (request : TokenRequest)
    (store : Store) :
    system.run environment request store =
      system.storing request.sink (system.made environment request store) store := by
  cases hpath : request.path environment with
  | error stop =>
      rw [run_of_path_error hpath, made, hpath]
      rfl
  | ok path =>
      rw [run_of_path_ok hpath, load_eq_storing, made, hpath]
      rfl

/-- A token is made for the cell of the request. -/
theorem description_of_made {environment : Environment} {request : TokenRequest} {store : Store}
    {token : Token} (h : (system.made environment request store).outcome = .ok token) :
    token.description = "afs@" ++ request.cell.name := by
  obtain ⟨path, -, hcontent⟩ := Report.bind_outcome_eq_ok_iff.mp h
  rw [Token.description_of_ofContent hcontent]
  rfl

/-- A run of a history: what was asked for in which environment, and the store it started with. -/
structure Run where
  environment : Environment
  request : TokenRequest
  before : Store

namespace Run

/-- The token that a run makes. -/
def made (run : Run) (system : System) : Report Stop Token :=
  system.made run.environment run.request run.before

/-- What a run reports. -/
def report (run : Run) (system : System) : Report Stop Unit :=
  (system.run run.environment run.request).report run.before

/-- The store that a run leaves. -/
def after (run : Run) (system : System) : Store :=
  (system.run run.environment run.request).left run.before

/-- The record that a run put into the file of a name, if it did. -/
def fileRecord? (system : System) (name : String) (run : Run) : Option Octets :=
  if (run.report system).outcome.isOk ∧ system.file? run.request.sink = some name then
    (run.made system).outcome.toOption.map (·.record)
  else none

/-- The record that a run put among the keys under a description, if it did. -/
def keyRecord? (system : System) (description : String) (run : Run) : Option Octets :=
  if (run.report system).outcome.isOk ∧ run.request.sink = .memory ∧
      "afs@" ++ run.request.cell.name = description then
    (run.made system).outcome.toOption.map (·.record)
  else none

variable {run : Run}

theorem report_eq (run : Run) : run.report system =
    (system.storing run.request.sink (run.made system)).report run.before :=
  congrArg Prod.fst (run_eq_storing system run.environment run.request run.before)

theorem after_eq (run : Run) : run.after system =
    (system.storing run.request.sink (run.made system)).left run.before :=
  congrArg Prod.snd (run_eq_storing system run.environment run.request run.before)

/-- A run that stops changes nothing.  A run succeeds exactly if its token is made and the sink
takes it, and then it puts the record at the place of the sink, where it is read by every path that
leads there.  If it is repeated while the cache is what it was, it changes nothing more, and it
succeeds once more if the sink takes the record once more. -/
structure AllOrNothing (run : Run) (system : System) : Prop where
  of_error : ∀ stop, (run.report system).outcome = .error stop → run.after system = run.before
  ok_iff : (run.report system).outcome = .ok () ↔ ∃ token, (run.made system).outcome = .ok token ∧
    system.Takes run.before token.description token.record.length run.request.sink
  of_ok : ∀ token, (run.report system).outcome = .ok () → (run.made system).outcome = .ok token →
    Puts system ("afs@" ++ run.request.cell.name) token.record run.before (run.after system)
      run.request.sink
  read_back : ∀ token path name, (run.report system).outcome = .ok () →
    (run.made system).outcome = .ok token → system.file? run.request.sink = some name →
    system.locate path = .ok (.entry name) → system.readFault? name = none →
    system.read (run.after system).files path = .ok token.record
  again : ∀ token, (run.report system).outcome = .ok () →
    (run.made system).outcome = .ok token →
    (∀ path, run.request.path run.environment = .ok path →
      system.read (run.after system).files path = system.read run.before.files path) →
    (system.run run.environment run.request).left (run.after system) = run.after system ∧
      (system.Takes (run.after system) token.description token.record.length run.request.sink →
        system.run run.environment run.request (run.after system) =
          (run.report system, run.after system))

/-- A run that succeeded makes the same token if it is repeated with the same cache. -/
theorem made_again (hcache : ∀ path, run.request.path run.environment = .ok path →
      system.read (run.after system).files path = system.read run.before.files path) :
    system.made run.environment run.request (run.after system) = run.made system := by
  unfold made System.made
  cases hpath : run.request.path run.environment with
  | error stop => rfl
  | ok path =>
      change Token.ofContent _ _ (system.read _ path) = Token.ofContent _ _ (system.read _ path)
      rw [hcache path hpath]

/-- A run that succeeds leaves what adding its token leaves, for the sink takes it. -/
theorem takes_of_ok {token : Token} (hok : (run.report system).outcome = .ok ())
    (hmade : (run.made system).outcome = .ok token) :
    system.Takes run.before token.description token.record.length run.request.sink ∧
      run.after system =
        (system.add run.request.sink token.description token.record).left run.before := by
  rw [report_eq] at hok
  obtain ⟨other, hother, htakes⟩ := storing_eq_ok_iff.mp hok
  cases hmade.symm.trans hother
  exact ⟨htakes, by rw [after_eq, left_storing hmade]⟩

theorem puts_of_ok {token : Token} (hok : (run.report system).outcome = .ok ())
    (hmade : (run.made system).outcome = .ok token) :
    Puts system ("afs@" ++ run.request.cell.name) token.record run.before (run.after system)
      run.request.sink := by
  obtain ⟨htakes, hafter⟩ := takes_of_ok hok hmade
  rw [hafter, ← description_of_made hmade]
  exact puts_of_takes htakes

theorem again_of_ok {token : Token} (hok : (run.report system).outcome = .ok ())
    (hmade : (run.made system).outcome = .ok token)
    (hcache : ∀ path, run.request.path run.environment = .ok path →
      system.read (run.after system).files path = system.read run.before.files path) :
    (system.run run.environment run.request).left (run.after system) = run.after system ∧
      (system.Takes (run.after system) token.description token.record.length run.request.sink →
        system.run run.environment run.request (run.after system) =
          (run.report system, run.after system)) := by
  have hstoring := run_eq_storing system run.environment run.request (run.after system)
  rw [made_again hcache] at hstoring
  obtain ⟨htakes, hafter⟩ := takes_of_ok hok hmade
  have hleft : (system.storing run.request.sink (run.made system)).left (run.after system) =
      run.after system := by
    rw [left_storing hmade, hafter, left_add_again htakes]
  refine ⟨(congrArg Prod.snd hstoring).trans hleft, fun hagain ↦ ?_⟩
  rw [hstoring]
  refine Prod.ext ?_ hleft
  change (system.storing run.request.sink (run.made system)).report (run.after system) = _
  rw [report_eq, report_storing, report_storing, Report.bind_of_ok hmade, Report.bind_of_ok hmade,
    report_add_congr hagain htakes]

theorem allOrNothing (run : Run) (system : System) : run.AllOrNothing system where
  of_error stop hstop := by
    rw [report_eq] at hstop
    rw [after_eq]
    exact left_storing_of_error hstop
  ok_iff := by
    rw [report_eq]
    exact storing_eq_ok_iff
  of_ok _ hok hmade := puts_of_ok hok hmade
  read_back token path name hok hmade hfile hlocate hreadable := by
    have hcontent := (puts_of_ok hok hmade).get?_files name
    rw [if_pos hfile] at hcontent
    exact read_eq_ok_iff.mpr ⟨name, hlocate, hreadable, hcontent⟩
  again _ hok hmade hcache := again_of_ok hok hmade hcache

/-- A run stops and leaves the store as it was, or it makes its token and puts the record. -/
theorem stops_or_puts (run : Run) (system : System) :
    (∃ stop, (run.report system).outcome = .error stop ∧ run.after system = run.before) ∨
    ∃ token, (run.report system).outcome = .ok () ∧ (run.made system).outcome = .ok token ∧
      Puts system ("afs@" ++ run.request.cell.name) token.record run.before (run.after system)
        run.request.sink := by
  have hrun := run.allOrNothing system
  cases houtcome : (run.report system).outcome with
  | error stop => exact .inl ⟨stop, rfl, hrun.of_error stop houtcome⟩
  | ok value =>
      obtain ⟨token, hmade, -⟩ := hrun.ok_iff.mp houtcome
      exact .inr ⟨token, rfl, hmade, hrun.of_ok token houtcome hmade⟩

/-- After a run, each key has the record that the run put there, or what it had before. -/
theorem get?_keys_after (run : Run) (description : String) :
    (run.after system).keys.get? description =
      (run.keyRecord? system description).or (run.before.keys.get? description) := by
  unfold keyRecord?
  rcases run.stops_or_puts system with ⟨stop, hstop, hafter⟩ | ⟨token, hok, hmade, hputs⟩
  · simp [hstop, hafter, Except.isOk, Except.toBool]
  · rw [hok, hmade, hputs.get?_keys]
    by_cases hkey : run.request.sink = .memory ∧ "afs@" ++ run.request.cell.name = description
    · rw [if_pos hkey, if_pos ⟨rfl, hkey⟩]
      rfl
    · rw [if_neg hkey, if_neg fun h ↦ hkey h.2, Option.none_or]

/-- After a run, each file has the record that the run put there, or what it had before. -/
theorem get?_files_after (run : Run) (name : String) :
    (run.after system).files.get? name =
      (run.fileRecord? system name).or (run.before.files.get? name) := by
  unfold fileRecord?
  rcases run.stops_or_puts system with ⟨stop, hstop, hafter⟩ | ⟨token, hok, hmade, hputs⟩
  · simp [hstop, hafter, Except.isOk, Except.toBool]
  · rw [hok, hmade, hputs.get?_files]
    by_cases hfile : system.file? run.request.sink = some name
    · rw [if_pos hfile, if_pos ⟨rfl, hfile⟩]
      rfl
    · rw [if_neg hfile, if_neg fun h ↦ hfile h.2, Option.none_or]

end Run

/-! ## Histories -/

/-- The runs for requests, each with the store that the one before left. -/
def history (system : System) (store : Store) : List (Environment × TokenRequest) → List Run
  | [] => []
  | (environment, request) :: rest =>
      ⟨environment, request, store⟩ ::
        history system ((system.run environment request).left store) rest

/-- What each run puts at a place or leaves there is what the last run put there, in the end. -/
theorem look_runAll (look : Store → Option Octets) {record? : Run → Option Octets}
    (hrun : ∀ run, look (run.after system) = (record? run).or (look run.before)) (store : Store)
    (requests : List (Environment × TokenRequest)) :
    look (system.runAll store requests) =
      ((system.history store requests).filterMap record?).getLast?.or (look store) := by
  induction requests generalizing store with
  | nil => rfl
  | cons first rest ih =>
      obtain ⟨environment, request⟩ := first
      have hstep := hrun ⟨environment, request, store⟩
      change look ((system.run environment request).left store) = _ at hstep
      rw [runAll, history, ih, List.filterMap_cons, hstep]
      cases record? ⟨environment, request, store⟩ with
      | none => rfl
      | some record =>
          rw [List.getLast?_cons]
          cases List.getLast? _ <;> rfl

/-- A token for a cell whose name is given in any case is always taken among the keys. -/
theorem Run.key_of_made {run : Run} {name : String} {realm : Option String} {token : Token}
    (hcell : run.request.cell = Cell.make name realm) (hsink : run.request.sink = .memory)
    (hmade : (run.made system).outcome = .ok token) :
    (run.report system).outcome = .ok () ∧ (run.after system).files = run.before.files ∧
      ∀ description, (run.after system).keys.get? description =
        if description = "afs@" ++ Casing.lower name then some token.record
        else run.before.keys.get? description := by
  have hrun := run.allOrNothing system
  have hok := hrun.ok_iff.mpr ⟨token, hmade, by rw [hsink]; trivial⟩
  have hputs := hrun.of_ok token hok hmade
  have hname : run.request.cell.name = Casing.lower name := by rw [hcell]; rfl
  rw [hsink, hname] at hputs
  refine ⟨hok, ?_, fun description ↦ ?_⟩
  · cases hputs with
    | memory hrecord hothers hfiles => exact hfiles
  · simpa [eq_comm] using hputs.get?_keys description

/-- On whatever system, and whatever requests follow each other in whatever environments, each run
is all or nothing.  In the end each key has the record of the last run that succeeded for its cell
without an output file, and each file that of the last run that succeeded with the file as its
output.  Without an output file a token is taken whenever it is made, under the name of its cell in
lower case. -/
theorem history_allOrNothing (system : System) (store : Store)
    (requests : List (Environment × TokenRequest)) :
    (∀ run ∈ system.history store requests, run.AllOrNothing system) ∧
    (∀ description, (system.runAll store requests).keys.get? description =
      ((system.history store requests).filterMap (·.keyRecord? system description)).getLast?.or
        (store.keys.get? description)) ∧
    (∀ name, (system.runAll store requests).files.get? name =
      ((system.history store requests).filterMap (·.fileRecord? system name)).getLast?.or
        (store.files.get? name)) ∧
    ∀ run ∈ system.history store requests, ∀ name realm token,
      run.request.cell = Cell.make name realm → run.request.sink = .memory →
      (run.made system).outcome = .ok token →
      (run.report system).outcome = .ok () ∧ (run.after system).files = run.before.files ∧
      ∀ description, (run.after system).keys.get? description =
        if description = "afs@" ++ Casing.lower name then some token.record
        else run.before.keys.get? description :=
  ⟨fun run _ ↦ run.allOrNothing system,
    fun description ↦
      look_runAll (·.keys.get? description) (fun run ↦ run.get?_keys_after _) store requests,
    fun name ↦ look_runAll (·.files.get? name) (fun run ↦ run.get?_files_after _) store requests,
    fun _ _ _ _ _ hcell hsink hmade ↦ Run.key_of_made hcell hsink hmade⟩

/-- A host with a directory for temporary files and the home of a user, who works there. -/
def host : System :=
  (Tree.mk [["tmp"], ["home"], ["home", "user"], ["home", "user", "keys"]] ["home", "user"]).system

/-- A message with a ticket for the cell `a` stands where the user has the cache by default, and
there is a key for another cell. -/
def hostStore : Store where
  files := [("/tmp/krb5cc_1000",
    (DescribedTickets.toMessage [DescribedTickets.ticketFor ["afs", "a"]]).encode)]
  keys := [("afs@b", [0])]

/-- The token of that ticket: the header with the key, and the ticket behind it. -/
def hostToken : Token where
  description := "afs@a"
  record :=
    [1, 0, 0, 0, 2, 0, 49, 0, 0, 0xF1, 0x53, 0x65, 0, 1, 0, 0, 1, 2, 4, 7, 8, 11, 13, 14] ++
      (DescribedTickets.ticketFor ["afs", "a"]).ticket.encode

/-- The user has the record written to a file and then added as a key, and at last gives that file
for a cache. -/
def hostRequests : List (Environment × TokenRequest) :=
  [(⟨none, 1000⟩, ⟨Cell.make "A" none, none, .file "keys/../out"⟩),
    (⟨none, 1000⟩, ⟨Cell.make "A" none, none, .memory⟩),
    (⟨none, 1000⟩, ⟨Cell.make "B" none, some "FILE:/home/user/out", .memory⟩)]

/-- The first two runs succeed, and the third one stops and changes nothing.  In the end the record
is in the file, where an absolute path leads too, and with the key of the cell.  The cache and the
other key are what they were. -/
theorem history_allOrNothing_of_hostRequests :
    ∃ first second third, host.history hostStore hostRequests = [first, second, third] ∧
      (first.report host).outcome = .ok () ∧ (second.report host).outcome = .ok () ∧
      (third.report host).outcome =
        .error (.failure (.data (.credentialFile "/home/user/out"))) ∧
      third.after host = third.before ∧
      host.read (host.runAll hostStore hostRequests).files "/home/user/out" =
        .ok hostToken.record ∧
      (host.runAll hostStore hostRequests).keys.get? "afs@a" = some hostToken.record ∧
      (host.runAll hostStore hostRequests).files.get? "/tmp/krb5cc_1000" =
        hostStore.files.get? "/tmp/krb5cc_1000" ∧
      (host.runAll hostStore hostRequests).keys.get? "afs@b" = some [0] := by
  obtain ⟨hruns, hkeys, hfiles, hmemory⟩ := history_allOrNothing host hostStore hostRequests
  have htakes : host.Takes hostStore hostToken.description hostToken.record.length
      (.file "keys/../out") := ⟨"out", by decide, rfl⟩
  have hfirst := (hruns _ (.head _)).ok_iff.mpr ⟨hostToken, by decide +kernel, htakes⟩
  obtain ⟨hsecond, -, -⟩ :=
    hmemory _ (.tail _ (.head _)) "A" none hostToken rfl rfl (by decide +kernel)
  have hthird := (hruns _ (.tail _ (.tail _ (.head _)))).of_error
    (.failure (.data (.credentialFile "/home/user/out"))) (by decide +kernel)
  refine ⟨_, _, _, rfl, hfirst, hsecond, by decide +kernel, hthird, ?out, ?_, ?_, ?_⟩
  case out =>
    refine read_eq_ok_iff.mpr ⟨"out", by decide, rfl, ?_⟩
    rw [hfiles]
    decide +kernel
  · rw [hkeys]
    decide +kernel
  · rw [hfiles]
    decide +kernel
  · rw [hkeys]
    decide +kernel

end AfsToken.System
