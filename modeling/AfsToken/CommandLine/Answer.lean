import AfsToken.CommandLine.Invocation
import AfsToken.SessionKey.Derivation
import AfsToken.Token.Run

/-!
# Answers

A program answers a command line by an exit code, the text of its output, and the text of its
messages.  The log records that are shown depend on how many times more messages were asked for.  A
failure is shown as the last record, and a run that breaks off shows none.  Nothing is put out
unless the command succeeds.
-/

namespace AfsToken.CommandLine

open AfsToken.Octets AfsToken.Text

/-- What a program leaves behind. -/
structure Answer where
  exitCode : Nat
  output : String
  messages : String
  deriving DecidableEq, Repr

/-- The name of the program. -/
def programName : String := "aklog-kafs"

/-- The version of the program. -/
def programVersion : String := "0.1.0"

/-- The least important level that is shown after so many requests for more messages. -/
def threshold : Nat → Level
  | 0 => .warn
  | 1 => .info
  | 2 => .debug
  | _ => .trace

/-- The lines of the records that are shown. -/
def shown (verbosity : Nat) (log : List LogRecord) : String :=
  String.join <| (log.filter (·.level.rank ≤ (threshold verbosity).rank)).map (·.line ++ "\n")

namespace Answer

/-- The exit code of a failure or a refusal. -/
def failureCode : Nat := 1

/-- The exit code of a run that breaks off. -/
def breakdownCode : Nat := 101

/-- The answer of a program that breaks off while it reads the values of a command line. -/
def brokenOff : Answer := ⟨breakdownCode, "", ""⟩

/-- The answer to a run whose value is its output. -/
def ofReport (verbosity : Nat) (report : Report Stop String) : Answer :=
  match report.outcome with
  | .ok output => ⟨0, output, shown verbosity report.log⟩
  | .error (.failure failure) =>
      ⟨failureCode, "", shown verbosity (report.log ++ [⟨.error, failure.message⟩])⟩
  | .error .breakdown => ⟨breakdownCode, "", shown verbosity report.log⟩

end Answer

/-- How the program is used. -/
def usageText : String :=
  "USAGE:\n" ++
    "    " ++ programName ++ " derive -e <etype> -k <key> -v...\n" ++
    "    " ++ programName ++ " token <cell> <realm>? -c <file>? -o <file>? -v...\n"

/-- The version of the program, or of a command, which has no number of its own. -/
def versionText : Option String → String
  | none => programName ++ " " ++ programVersion ++ "\n"
  | some command => programName ++ "-" ++ command ++ " \n"

/-- The message of a refusal. -/
def Refusal.message : Refusal → String
  | .noCommand => "error: A command is required"
  | .help => usageText
  | .version command => versionText command
  | .unknownArgument text =>
      "error: Found argument '" ++ text ++
        "' which wasn't expected, or isn't valid in this context"
  | .misspeltCommand word name =>
      "error: The subcommand '" ++ word ++ "' wasn't recognized\n\tDid you mean '" ++ name ++
        "'?\n\nIf you believe you received this message in error, try re-running with '" ++
        programName ++ " -- " ++ word ++ "'"
  | .unknownCommand word => "error: The subcommand '" ++ word ++ "' wasn't recognized"
  | .missingArgument => "error: A required argument was not provided"
  | .emptyValue => "error: An argument requires a value but none was supplied"
  | .repeated => "error: An argument was provided more than once, but can be used only once"
  | .invalid argument fault => "error: Invalid value for '" ++ argument ++ "': " ++ fault.message

namespace Answer

/-- The answer to a command line that is not carried out.  Help and version are no failures. -/
def ofRefusal : Refusal → Answer
  | .help => ⟨0, Refusal.help.message, ""⟩
  | .version command => ⟨0, (Refusal.version command).message, ""⟩
  | refusal => ⟨failureCode, "", refusal.message ++ "\n\n" ++ usageText⟩

end Answer

/-- The output of a derivation: the path that is taken, and the session key in hexadecimal. -/
def deriveOutput (path : KeyPath) (session : SessionKey) : String :=
  "path:" ++ path.text ++ "\nrxkad:" ++ Hex.encode session.octets ++ "\n"

/-- The derivation of a session key from a key block, with its output. -/
def deriveReport (key : KeyMaterial) : Report Stop String := do
  Report.note .info <|
    "Key of " ++ Decimal.ofNat key.length ++ " octets with etype " ++ key.etype.describe
  let session ← key.sessionKey.mapFault fun fault ↦ .failure (.derivation fault)
  return deriveOutput (KeyPath.choose key.etype key.length) session

/-- The sink of an output file, which is the session keyring if no file is named. -/
def sinkOf : Option String → Sink
  | some path => .file path
  | none => .sessionKeyring

/-- The answer to a command over a store, and the store that the command leaves. -/
def Invocation.answer (system : System) (invocation : Invocation) (environment : Environment)
    (store : Store) : Answer × Store :=
  match invocation.command with
  | .derive key => (Answer.ofReport invocation.verbosity (deriveReport key), store)
  | .token cell cacheName output =>
      let (report, store) := system.run environment ⟨cell, cacheName, sinkOf output⟩ store
      (Answer.ofReport invocation.verbosity ((fun _ ↦ "") <$> report), store)

/-- The answer to a command line on a system, and the store that it leaves. -/
def answerOn (system : System) (words : List String) (environment : Environment) (store : Store) :
    Answer × Store :=
  match Invocation.parse words with
  | .ok (some invocation) => invocation.answer system environment store
  | .ok none => (Answer.brokenOff, store)
  | .error refusal => (Answer.ofRefusal refusal, store)

/-- The answer to a command line on the plain system, and the store that it leaves. -/
def answer (words : List String) (environment : Environment) (store : Store) : Answer × Store :=
  answerOn .plain words environment store

end AfsToken.CommandLine
