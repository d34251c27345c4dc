import AfsToken.CacheName
import AfsToken.CommandLine.Answer

/-!
# The program

Runs a command line on the host: the cache is read from a file of the host, the record is written to
one, and the environment is that of the process.  There is no call to the session keyring of the
host here.  Everything else is decided by the library.
-/

namespace AfsToken.Host

open AfsToken.CommandLine AfsToken.Text

/-- The number that the system gave to an error.  Some calls give it with a minus sign. -/
def errorCode : IO.Error → UInt32
  | .alreadyExists _ code _ | .interrupted _ code _ | .noFileOrDirectory _ code _
  | .invalidArgument _ code _ | .permissionDenied _ code _ | .resourceExhausted _ code _
  | .inappropriateType _ code _ | .noSuchThing _ code _ => code
  | .otherError code _ | .resourceBusy code _ | .resourceVanished code _
  | .unsupportedOperation code _ | .hardwareFault code _ | .unsatisfiedConstraints code _
  | .illegalOperation code _ | .protocolError code _ | .timeExpired code _ => code
  | .unexpectedEof | .userError _ => 0

/-- The outcome of something done to the file at a path. -/
def attempt {α : Type} (path : String) (action : IO α) : IO (Except OsFault α) := do
  if path.toList.contains '\x00' then return .error .zeroInName
  try return .ok (← action)
  catch error => return .error (.code (errorCode error).toInt32.toInt.natAbs)

/-- Reads a file whole. -/
def readFile (path : String) : IO (Except OsFault Octets) := attempt path do
  return (← IO.FS.readBinFile path).toList

/-- Writes a file whole. -/
def writeFile (path : String) (content : Octets) : IO (Except OsFault Unit) := attempt path do
  IO.FS.writeBinFile path ⟨content.toArray⟩

/-- The environment of the process.  The variable is taken in octets, as the system keeps it. -/
def environment : IO Environment := do
  let settings ← readFile "/proc/self/environ"
  let status ← readFile "/proc/self/status"
  return Environment.ofProcess (settings.toOption.getD []) (status.toOption.getD [])

/-- Adds a token to a sink of the host, and reports it. -/
def add (sink : Sink) (token : Token) : IO (Report Failure Unit) :=
  match sink with
  | .file path => do
      return Store.reportWrite path token.description token.record.length
        (← writeFile path token.record)
  | .memory => return pure ()
  | .sessionKeyring => return Store.reportKey token.description (.error .noKeyrings)

/-- Makes a token from a file of the host and adds it to a sink. -/
def load (request : TokenRequest) (path : String) : IO (Report Stop Unit) := do
  let made := Token.ofContent request.cell path (← readFile path)
  match made.outcome with
  | .error stop => return ⟨made.log, .error stop⟩
  | .ok token => do
      let added ← add request.sink token
      return made >>= fun token ↦ token.finish request.sink.name added

/-- The answer to an invocation. -/
def answer (invocation : Invocation) : IO Answer := do
  match invocation.command with
  | .derive key => return Answer.ofReport invocation.verbosity (deriveReport key)
  | .token cell cacheName output => do
      let request : TokenRequest := ⟨cell, cacheName, sinkOf output⟩
      let report ← match request.path (← environment) with
        | .error stop => pure (Report.fail stop)
        | .ok path => load request path
      return Answer.ofReport invocation.verbosity ((fun _ ↦ "") <$> report)

/-- Answers the words of a command line, and gives the exit code. -/
def run (words : List String) : IO UInt32 := do
  let answer ← match Invocation.parse words with
    | .ok (some invocation) => answer invocation
    | .ok none => pure Answer.brokenOff
    | .error refusal => pure (Answer.ofRefusal refusal)
  IO.print answer.output
  IO.eprint answer.messages
  return UInt32.ofNat answer.exitCode

end AfsToken.Host

/-- The program. -/
def main (words : List String) : IO UInt32 := AfsToken.Host.run words
