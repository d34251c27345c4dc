import AfsToken.Cell
import AfsToken.CommandLine.Grammar
import AfsToken.SessionKey.Basic
import AfsToken.Text.Similarity

/-!
# Invocations

The first word of a command line names a command, and the words behind it use the arguments of the
command.  The texts of the arguments are checked first, and a text that does not pass refuses the
command line.  The values are read from the texts later, on their own: a text that is missing or not
read then would break the program off.  No command line does that, for what passes its check is
read.  An invocation is a command with its values.
-/

namespace AfsToken.CommandLine

open AfsToken.Octets AfsToken.Text

/-! ## Values -/

namespace Value

/-- The cell of a name, with the realm that the name suggests. -/
def cell (value : String) : Except RequestFault Cell :=
  if Cell.isName value then .ok (Cell.make value none) else .error (.cell value)

/-- Checks a realm, which is taken as it is. -/
def realm (value : String) : Except RequestFault Unit :=
  if Cell.isRealm value then .ok () else .error (.realm value)

/-- Checks the signed numeral of an encryption type. -/
def etype (value : String) : Except RequestFault Unit :=
  match Decimal.int32? value with
  | some _ => .ok ()
  | none => .error (.etype value)

/-- The octets of a key in hexadecimal notation. -/
def key (value : String) : Except RequestFault Octets :=
  (Hex.decode value).mapError (.key value)

/-- Checks a path or the name of a cache, which can be any text. -/
def path (_ : String) : Except RequestFault Unit := .ok ()

end Value

/-! ## Commands -/

/-- What is to be done. -/
inductive Command
  /-- Derives the session key of a key block. -/
  | derive (key : KeyMaterial)
  /-- Makes the token of a cell and stores it in a file, or in the session keyring. -/
  | token (cell : Cell) (cacheName output : Option String)
  deriving DecidableEq

/-- A command, and how many times more messages were asked for. -/
structure Invocation where
  command : Command
  verbosity : Nat
  deriving DecidableEq

/-- The arguments of the command that derives. -/
inductive DeriveArgument
  | etype
  | key
  deriving DecidableEq, Repr

/-- The arguments of the command that makes a token. -/
inductive TokenArgument
  | cell
  | realm
  | cacheName
  | output
  deriving DecidableEq, Repr

/-- The name of an argument in the refusal of its value. -/
def DeriveArgument.text : DeriveArgument → String
  | .etype => "--etype <etype>"
  | .key => "--key <key>"

/-- The name of an argument in the refusal of its value. -/
def TokenArgument.text : TokenArgument → String
  | .cell => "<cell>"
  | .realm => "<realm>"
  | .cacheName => "--cred-file <file>"
  | .output => "--output <file>"

/-- The letter that asks for more messages. -/
def verboseLetter : Char := 'v'

/-- The name of the command that shows help. -/
def helpName : String := "help"

/-- The name of the command that derives. -/
def deriveName : String := "derive"

/-- The name of the command that makes a token. -/
def tokenName : String := "token"

/-- The grammar of the command that derives.  A type may be a negative number, so the word behind
its option is always its value. -/
def deriveGrammar : Grammar DeriveArgument where
  command := deriveName
  options := [⟨.etype, ["etype"], 'e', true⟩, ⟨.key, ["key"], 'k', false⟩]
  positionals := []
  verboseLetter := verboseLetter

/-- The grammar of the command that makes a token. -/
def tokenGrammar : Grammar TokenArgument where
  command := tokenName
  options := [⟨.cacheName, ["cred-file", "ccache"], 'c', false⟩, ⟨.output, ["output"], 'o', false⟩]
  positionals := [.cell, .realm]
  verboseLetter := verboseLetter

/-- The grammar in front of a command, which has no arguments. -/
def programGrammar : Grammar Empty where
  command := none
  options := []
  positionals := []
  verboseLetter := none

/-- Refuses uses that the command which derives cannot be carried out with. -/
def checkDeriveUses (uses : List (Use DeriveArgument)) : Except Refusal Unit := do
  Use.checkPresent [.etype, .key] [] uses
  Use.checkValue .etype DeriveArgument.etype.text Value.etype uses
  Use.checkValue .key DeriveArgument.key.text Value.key uses

/-- Refuses uses that the command which makes a token cannot be carried out with. -/
def checkTokenUses (uses : List (Use TokenArgument)) : Except Refusal Unit := do
  Use.checkPresent [.cell] [.realm, .cacheName, .output] uses
  Use.checkValue .cell TokenArgument.cell.text Value.cell uses
  Use.checkValue .realm TokenArgument.realm.text Value.realm uses
  Use.checkValue .cacheName TokenArgument.cacheName.text Value.path uses
  Use.checkValue .output TokenArgument.output.text Value.path uses

/-- The command that uses make.  There is none if a text is missing, or if it is no numeral or no
hexadecimal notation. -/
def Command.ofDeriveUses? (uses : List (Use DeriveArgument)) : Option Command := do
  let etype ← Decimal.int32? (← Use.value? .etype uses)
  let key ← (Value.key (← Use.value? .key uses)).toOption
  return .derive ⟨etype, key⟩

/-- The command that uses make.  There is none if the name of the cell is missing. -/
def Command.ofTokenUses? (uses : List (Use TokenArgument)) : Option Command := do
  let name ← Use.value? .cell uses
  return .token (Cell.make name (Use.value? .realm uses)) (Use.value? .cacheName uses)
    (Use.value? .output uses)

/-- The invocation that words behind a command make, if they are not refused.  There is none if the
program breaks off. -/
def Invocation.ofUses {ω : Type} (grammar : Grammar ω) (check : List (Use ω) → Except Refusal Unit)
    (command? : List (Use ω) → Option Command) (words : List String) :
    Except Refusal (Option Invocation) := do
  let uses ← grammar.uses words
  check uses
  return (command? uses).map fun command ↦ { command, verbosity := Use.totalVerbosity uses }

/-- The names of all commands. -/
def commandNames : List String := [deriveName, tokenName, helpName]

/-- Why the command that shows help carries out nothing.  It takes the name of one command, which
has no commands of its own. -/
def helpRefusal : List String → Refusal
  | [] => .help
  | word :: rest =>
      if word ∈ commandNames then
        match rest with
        | [] => .help
        | next :: _ => .unknownCommand next
      else .unknownCommand word

/-- Why a word that is no command carries out nothing. -/
def wordRefusal (word : String) : Refusal :=
  match commandNames.find? (Text.Similarity.isClose word) with
  | some name => .misspeltCommand word name
  | none => .unknownArgument word

/-- Why a first word that names no command carries out nothing.  No word behind a separator is
one. -/
def firstRefusal (word : String) (rest : List String) : Refusal :=
  match programGrammar.form word, rest with
  | .refused refusal, _ => refusal
  | .separator, [] => .noCommand
  | .separator, next :: _ => wordRefusal next
  | _, _ => wordRefusal word

/-- The invocation that the words of a command line make, if they are not refused.  There is none
if the program breaks off. -/
def Invocation.parse : List String → Except Refusal (Option Invocation)
  | [] => .error .noCommand
  | word :: rest =>
      if word = deriveName then ofUses deriveGrammar checkDeriveUses Command.ofDeriveUses? rest
      else if word = tokenName then ofUses tokenGrammar checkTokenUses Command.ofTokenUses? rest
      else if word = helpName then .error (helpRefusal rest)
      else .error (firstRefusal word rest)

/-! ## What passes the checks is read -/

/-- A text passes the check of encryption types exactly if a number is read from it. -/
theorem Value.etype_eq_ok_iff {text : String} :
    Value.etype text = .ok () ↔ ∃ number, Decimal.int32? text = some number := by
  unfold Value.etype
  cases Decimal.int32? text <;> simp

/-- Uses that pass their checks give a key block. -/
theorem exists_derive_of_checkDeriveUses {uses : List (Use DeriveArgument)}
    (h : checkDeriveUses uses = .ok ()) :
    ∃ material, Command.ofDeriveUses? uses = some (.derive material) := by
  obtain ⟨_, hpresent, h⟩ := bind_eq_ok_iff.mp h
  obtain ⟨_, hetype, hkey⟩ := bind_eq_ok_iff.mp h
  have hvalue (argument : DeriveArgument) : ∃ text, Use.value? argument uses = some text :=
    Use.exists_value?_of_checkPresent (by cases argument <;> decide) hpresent
  obtain ⟨etype, hetypeText⟩ := hvalue .etype
  obtain ⟨key, hkeyText⟩ := hvalue .key
  obtain ⟨_, hpassed⟩ := Use.check_of_checkValue hetype hetypeText
  obtain ⟨number, hnumber⟩ := Value.etype_eq_ok_iff.mp hpassed
  obtain ⟨octets, hoctets⟩ := Use.check_of_checkValue hkey hkeyText
  exact ⟨⟨number, octets⟩, by
    simp [Command.ofDeriveUses?, hetypeText, hkeyText, hnumber, hoctets, Except.toOption]⟩

/-- Uses that pass their checks give a cell. -/
theorem exists_token_of_checkTokenUses {uses : List (Use TokenArgument)}
    (h : checkTokenUses uses = .ok ()) :
    ∃ cell cacheName output, Command.ofTokenUses? uses = some (.token cell cacheName output) := by
  obtain ⟨_, hpresent, -⟩ := bind_eq_ok_iff.mp h
  have hcell : TokenArgument.cell ∈ [TokenArgument.cell] := List.mem_singleton_self _
  obtain ⟨name, hname⟩ := Use.exists_value?_of_checkPresent hcell hpresent
  exact ⟨_, _, _, by rw [Command.ofTokenUses?, hname]; rfl⟩

theorem Invocation.of_ofUses {ω : Type} {grammar : Grammar ω}
    {check : List (Use ω) → Except Refusal Unit} {command? : List (Use ω) → Option Command}
    {words : List String} {parsed : Option Invocation}
    (h : ofUses grammar check command? words = .ok parsed) :
    ∃ uses, grammar.uses words = .ok uses ∧ check uses = .ok () ∧
      parsed.map (·.command) = command? uses := by
  obtain ⟨uses, huses, h⟩ := bind_eq_ok_iff.mp h
  obtain ⟨_, hcheck, h⟩ := bind_eq_ok_iff.mp h
  cases h
  refine ⟨uses, huses, hcheck, ?_⟩
  rw [Option.map_map]
  exact Option.map_id'

/-- No command line breaks the program off. -/
theorem Invocation.isSome_of_parse {words : List String} {parsed : Option Invocation}
    (h : parse words = .ok parsed) : parsed.isSome := by
  unfold parse at h
  split at h
  · cases h
  split at h
  · obtain ⟨uses, -, hcheck, hcommand⟩ := of_ofUses h
    obtain ⟨material, hmaterial⟩ := exists_derive_of_checkDeriveUses hcheck
    rw [← Option.isSome_map, hcommand, hmaterial, Option.isSome_some]
  split at h
  · obtain ⟨uses, -, hcheck, hcommand⟩ := of_ofUses h
    obtain ⟨cell, cacheName, output, htoken⟩ := exists_token_of_checkTokenUses hcheck
    rw [← Option.isSome_map, hcommand, htoken, Option.isSome_some]
  split at h <;> cases h

/-- The invocation that the words of a command line make, if they are not refused. -/
def Invocation.ofWords (words : List String) : Except Refusal Invocation :=
  match h : parse words with
  | .error refusal => .error refusal
  | .ok parsed => .ok (parsed.get (isSome_of_parse h))

theorem Invocation.ofWords_eq_ok_iff {words : List String} {invocation : Invocation} :
    ofWords words = .ok invocation ↔ parse words = .ok (some invocation) := by
  unfold ofWords
  split
  next refusal h => simp [h]
  next parsed h => simp [h, Option.eq_some_iff_get_eq, isSome_of_parse h]

end AfsToken.CommandLine
