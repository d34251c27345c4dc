import AfsToken.CacheName
import AfsToken.Store.Sink
import AfsToken.Token.Basic

/-!
# Runs

A run makes the token of a cell and adds it to a key store.  A run for a request finds the path of
the cache first, and reads the file that the system has there.  A sequence of runs is a history:
each starts with the store that the one before left, whether that one succeeded or stopped.
-/

namespace AfsToken

/-- What a run is asked for: a cell, the name of the cache to read, and the sink. -/
structure TokenRequest where
  cell : Cell
  cacheName : Option String
  sink : Sink
  deriving DecidableEq, Repr

namespace Token

/-- What is reported of adding a token to the key store of a name, which was reported as `added`. -/
def finish (token : Token) (name : String) (added : Report Failure Unit) : Report Stop Unit := do
  added.mapFault Stop.failure
  Report.note .info ("Save " ++ token.description ++ " key in " ++ name)

/-- Makes the token of a cell after the file at a path was read with some outcome, and adds it to a
key store. -/
def load {σ : Type} (keyStore : KeyStore σ) (cell : Cell) (path : String)
    (content : Except OsFault Octets) : Action σ Stop Unit := do
  let token ← Action.ofReport (Token.ofContent cell path content)
  (keyStore.add token.description token.record).mapReport (token.finish keyStore.name)

/-- Nothing behind the adding stops a run. -/
theorem outcome_finish (token : Token) (name : String) (added : Report Failure Unit) :
    (token.finish name added).outcome = added.outcome.mapError Stop.failure := by
  rcases added with ⟨log, outcome⟩
  cases outcome <;> rfl

section Load

variable {σ : Type} (keyStore : KeyStore σ) (cell : Cell) (path : String)
  (content : Except OsFault Octets) (state : σ)

theorem report_load : (load keyStore cell path content).report state =
    Token.ofContent cell path content >>= fun token ↦ token.finish keyStore.name
      ((keyStore.add token.description token.record).report state) := by
  rw [load, Action.report_bind, Action.report_ofReport]
  rfl

/-- A token that is made is added, and nothing else happens to the state. -/
theorem left_load_of_ok {token : Token}
    (h : (Token.ofContent cell path content).outcome = .ok token) :
    (load keyStore cell path content).left state =
      (keyStore.add token.description token.record).left state :=
  Action.left_ofReport_bind_of_ok h _ state

end Load

end Token

/-- The path of the cache that a request reads. -/
def TokenRequest.path (request : TokenRequest) (environment : Environment) : Except Stop String :=
  (CacheName.resolve request.cacheName environment).mapError fun fault ↦ .failure (.request fault)

namespace System

/-- Carries out a request in an environment. -/
def run (system : System) (environment : Environment) (request : TokenRequest) :
    Action Store Stop Unit := do
  let path ← Action.ofReport (Report.ofExcept (request.path environment))
  let content ← Action.view (system.read ·.files path)
  Token.load (system.keyStore request.sink) request.cell path content

variable {system : System} {environment : Environment} {request : TokenRequest}

theorem run_of_path_error {stop : Stop} (h : request.path environment = .error stop)
    (store : Store) : system.run environment request store = (Report.fail stop, store) := by
  rw [run, h]
  rfl

theorem run_of_path_ok {path : String} (h : request.path environment = .ok path) (store : Store) :
    system.run environment request store =
      Token.load (system.keyStore request.sink) request.cell path (system.read store.files path)
        store := by
  rw [run, h]
  rfl

/-- The store after requests, each in its environment. -/
def runAll (system : System) (store : Store) : List (Environment × TokenRequest) → Store
  | [] => store
  | (environment, request) :: rest =>
      runAll system ((system.run environment request).left store) rest

end System

/-- Carries out a request in an environment of the plain system. -/
def Store.run (environment : Environment) (request : TokenRequest) : Action Store Stop Unit :=
  System.plain.run environment request

end AfsToken
