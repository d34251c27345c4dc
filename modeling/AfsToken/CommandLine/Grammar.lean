import AfsToken.Failure

/-!
# Grammars of command lines

The words behind a command use its arguments.  A word that starts with a hyphen is an option, by a
long name or by letters; an option has its value attached or takes the next word.  All other words
are values of the positional arguments in their order, and behind a separator of two hyphens every
word is.  Which texts are values of which argument is not a matter of the grammar, but a check of
each: a use of an argument is refused before any value is read.
-/

namespace AfsToken.CommandLine

/-- Why a command line is not carried out. -/
inductive Refusal
  | noCommand
  | help
  /-- The version of the program is asked for, or that of a command. -/
  | version (command : Option String)
  /-- A word or an option is not expected at its place. -/
  | unknownArgument (text : String)
  /-- A word is no command, but close to the name of one. -/
  | misspeltCommand (word name : String)
  /-- Help is asked for what is no command. -/
  | unknownCommand (word : String)
  | missingArgument
  | emptyValue
  | repeated
  /-- A value has the wrong form. -/
  | invalid (argument : String) (fault : RequestFault)
  deriving DecidableEq, Repr

/-- An option with a value. -/
structure ValueOption (ω : Type) where
  argument : ω
  longNames : List String
  letter : Char
  /-- The next word is the value even if it starts with a hyphen. -/
  takesAnyWord : Bool
  deriving Repr

/-- The arguments of a command: its options, and its positional arguments in their order.  In front
of a command there is a grammar without a command. -/
structure Grammar (ω : Type) where
  command : Option String
  options : List (ValueOption ω)
  positionals : List ω
  /-- The letter of the option that makes messages more verbose, which may be repeated. -/
  verboseLetter : Option Char
  deriving Repr

/-- What a word is by its own form. -/
inductive WordForm (ω : Type)
  | operand
  | separator
  /-- The verbose option so many times. -/
  | verbose (count : Nat)
  /-- An option with its value, if one is attached, behind the verbose option so many times. -/
  | option (count : Nat) (option : ValueOption ω) (attached : Option String)
  | refused (refusal : Refusal)

/-- A use of an argument. -/
inductive Use (ω : Type)
  | verbose (count : Nat)
  | value (argument : ω) (text : String)
  /-- An option whose value is missing. -/
  | bare (argument : ω)
  deriving DecidableEq, Repr

variable {ω : Type}

/-- Whether a word looks like an option.  A single hyphen does not. -/
def startsOption (word : String) : Bool :=
  match word.toList with
  | '-' :: _ :: _ => true
  | _ => false

/-- Whether an option takes a word as its value. -/
def ValueOption.takes (option : ValueOption ω) (word : String) : Bool :=
  option.takesAnyWord || !startsOption word

/-- A value that is attached to an option.  Equals signs in front of it are no part of it. -/
def attachedText (rest : List Char) : String := String.ofList (rest.dropWhile (· == '='))

namespace Grammar

/-- The form of the letters behind a hyphen, after so many verbose letters. -/
def lettersForm (grammar : Grammar ω) (count : Nat) : List Char → WordForm ω
  | [] => .verbose count
  | letter :: rest =>
      match grammar.options.find? (·.letter == letter) with
      | some option => .option count option (if rest = [] then none else some (attachedText rest))
      | none =>
          if grammar.verboseLetter = some letter then lettersForm grammar (count + 1) rest
          else if letter = 'h' then .refused .help
          else if letter = 'V' then .refused (.version grammar.command)
          else .refused (.unknownArgument ("-" ++ String.singleton letter))

/-- The form of what is behind the hyphens of a long option. -/
def longForm (grammar : Grammar ω) (body : List Char) : WordForm ω :=
  let name := String.ofList (body.takeWhile (· != '='))
  let attached := body.dropWhile (· != '=')
  match grammar.options.find? (·.longNames.contains name) with
  | some option => .option 0 option (if attached = [] then none else some (attachedText attached))
  | none =>
      if name = "help" then .refused .help
      else if name = "version" then .refused (.version grammar.command)
      else .refused (.unknownArgument ("--" ++ name))

/-- The form of a word. -/
def form (grammar : Grammar ω) (word : String) : WordForm ω :=
  match word.toList with
  | ['-'] => .operand
  | ['-', '-'] => .separator
  | '-' :: '-' :: rest => grammar.longForm (rest.dropWhile (· == '-'))
  | '-' :: letters => grammar.lettersForm 0 letters
  | _ => .operand

/-- Uses words as the values of positional arguments. -/
def place : List ω → List String → Except Refusal (List (Use ω))
  | _, [] => .ok []
  | [], word :: _ => .error (.unknownArgument word)
  | slot :: slots, word :: rest => (Use.value slot word :: ·) <$> place slots rest

/-- The uses of arguments that words are, while some positional arguments have no value yet. -/
def scan (grammar : Grammar ω) (slots : List ω) : List String → Except Refusal (List (Use ω))
  | [] => .ok []
  | word :: rest =>
      match grammar.form word with
      | .refused refusal => .error refusal
      | .separator => place slots rest
      | .verbose count => (Use.verbose count :: ·) <$> scan grammar slots rest
      | .operand =>
          match slots with
          | [] => .error (.unknownArgument word)
          | slot :: slots => (Use.value slot word :: ·) <$> scan grammar slots rest
      | .option count option (some attached) =>
          ([Use.verbose count, Use.value option.argument attached] ++ ·) <$>
            scan grammar slots rest
      | .option count option none =>
          match rest with
          | [] => .ok [Use.verbose count, Use.bare option.argument]
          | next :: others =>
              if option.takes next then
                ([Use.verbose count, Use.value option.argument next] ++ ·) <$>
                  scan grammar slots others
              else
                ([Use.verbose count, Use.bare option.argument] ++ ·) <$>
                  scan grammar slots (next :: others)

/-- The uses of arguments that the words behind a command are. -/
def uses (grammar : Grammar ω) (words : List String) : Except Refusal (List (Use ω)) :=
  grammar.scan grammar.positionals words

end Grammar

namespace Use

/-- How many times a use asks for more messages. -/
def verbosity : Use ω → Nat
  | .verbose count => count
  | _ => 0

/-- How many times uses ask for more messages. -/
def totalVerbosity (uses : List (Use ω)) : Nat :=
  uses.foldl (fun total use ↦ total + use.verbosity) 0

variable [DecidableEq ω]

/-- Whether an argument is used. -/
def isOf (argument : ω) : Use ω → Bool
  | .verbose _ => false
  | .value other _ => other = argument
  | .bare other => other = argument

/-- The value that a use gives to an argument. -/
def valueOf (argument : ω) : Use ω → Option String
  | .value other text => if other = argument then some text else none
  | _ => none

/-- The values of an argument in their order. -/
def values (argument : ω) (uses : List (Use ω)) : List String := uses.filterMap (valueOf argument)

/-- How often an argument is used. -/
def count (argument : ω) (uses : List (Use ω)) : Nat := uses.countP (isOf argument)

/-- The text of an argument, if it has a value. -/
def value? (argument : ω) (uses : List (Use ω)) : Option String := (values argument uses).head?

/-- Refuses uses without a required argument, or with an argument that has no value at all. -/
def checkPresent (required optional : List ω) (uses : List (Use ω)) : Except Refusal Unit :=
  if required.any fun argument ↦ count argument uses = 0 then .error .missingArgument
  else if (required ++ optional).any fun argument ↦
    count argument uses ≠ 0 ∧ values argument uses = []
  then .error .emptyValue
  else .ok ()

/-- The fault of a text that does not pass a check. -/
def faultOf? {α : Type} : Except RequestFault α → Option RequestFault
  | .ok _ => none
  | .error fault => some fault

/-- Refuses a value of an argument that does not pass its check, and an argument that is used more
than once.  The name is that of the argument in the refusal of a value. -/
def checkValue {α : Type} (argument : ω) (name : String) (check : String → Except RequestFault α)
    (uses : List (Use ω)) : Except Refusal Unit :=
  match (values argument uses).findSome? fun text ↦ faultOf? (check text) with
  | some fault => .error (.invalid name fault)
  | none => if 1 < count argument uses then .error .repeated else .ok ()

variable {argument : ω} {uses : List (Use ω)}

/-- A required argument has a value if the uses are not refused. -/
theorem exists_value?_of_checkPresent {required optional : List ω} (hmem : argument ∈ required)
    (h : checkPresent required optional uses = .ok ()) :
    ∃ text, value? argument uses = some text := by
  unfold checkPresent at h
  split at h
  · cases h
  next hused =>
    split at h
    · cases h
    next hvalued =>
      simp only [List.any_eq_true, decide_eq_true_eq, not_exists, not_and] at hused hvalued
      have hne : values argument uses ≠ [] := fun hnil ↦
        hvalued argument (List.mem_append_left _ hmem) (hused argument hmem) hnil
      exact ⟨_, List.head?_eq_some_head hne⟩

/-- A value of an argument passes its check if the uses are not refused. -/
theorem check_of_checkValue {α : Type} {name text : String}
    {check : String → Except RequestFault α} (h : checkValue argument name check uses = .ok ())
    (htext : value? argument uses = some text) : ∃ value, check text = .ok value := by
  unfold checkValue at h
  split at h
  · cases h
  next hnone =>
    have hpassed := List.findSome?_eq_none_iff.mp hnone text (List.mem_of_mem_head? htext)
    cases hcheck : check text with
    | ok value => exact ⟨value, rfl⟩
    | error fault => rw [hcheck] at hpassed; cases hpassed

end Use

end AfsToken.CommandLine
