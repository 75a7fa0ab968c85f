import MapLint.Project.Survey
import MapLint.Text.Similar

/-!
# The arguments of the command line

The first argument names a command, the others are its options. Options are read from left to right:
`--name value`, `--name=value`, or letters behind a single dash. The value of an option is looked at
only when the next option is known or the line has ended, so a name that is not known is reported
first.

## Architecture

- `CommandName` and `Flag` say what there is;
- `Request` is what a line of arguments asks for, `Refusal` why it cannot be followed;
- `readOptions` reads the options of a command, `readArguments` a whole line.
-/

namespace MapLint.Command

open MapLint.Lint (Strictness)

/-- The commands. -/
inductive CommandName where
  | check
  | fix
  | init
deriving DecidableEq, Inhabited

/-- The word of a command. -/
def CommandName.word : CommandName → String
  | .check => "check"
  | .fix => "fix"
  | .init => "init"

/-- All commands in the order in which they are listed. -/
def CommandName.all : List CommandName := [.check, .fix, .init]

/-- The word that asks for help on a command. -/
def helpWord : String := "help"

/-- A place on the command line: before a command, or behind one. -/
abbrev Level := Option CommandName

/-- The options. -/
inductive Flag where
  | sourceRoot
  | strictness
  | verbose
  | apply
  | help
  | version
deriving DecidableEq, Inhabited

namespace Flag

/-- The name behind two dashes. -/
def long : Flag → String
  | .sourceRoot => "source-root"
  | .strictness => "strictness"
  | .verbose => "verbose"
  | .apply => "apply"
  | .help => "help"
  | .version => "version"

/-- The letter behind one dash. -/
def short? : Flag → Option Char
  | .verbose => some 'v'
  | .help => some 'h'
  | .version => some 'V'
  | _ => none

/-- The name of the value, for an option that has one. -/
def valueName? : Flag → Option String
  | .sourceRoot => some "SOURCE_ROOT"
  | .strictness => some "STRICTNESS"
  | _ => none

/-- The option as it is shown. -/
def shown (f : Flag) : String :=
  "--" ++ f.long ++
    match f.valueName? with
    | some name => " <" ++ name ++ ">"
    | none => ""

/-- The words that are allowed as a value, where not every one is. -/
def allowedValues : Flag → List String
  | .strictness => [Strictness.strict.word, Strictness.loose.word]
  | _ => []

end Flag

/-- The options of a command in the order in which they are listed. -/
def flagsOf : Level → List Flag
  | none => [.help, .version]
  | some .check => [.sourceRoot, .strictness, .verbose, .help]
  | some .fix => [.sourceRoot, .strictness, .verbose, .apply, .help]
  | some .init => [.help]

/-- Everything the options of a command can say. -/
structure Options where
  sourceRoot : Option Path := none
  strictness : Option Strictness := none
  verbose : Bool := false
  apply : Bool := false
deriving DecidableEq, Inhabited

/-- What a line of arguments asks for. -/
inductive Request where
  | check (options : Options)
  | fix (options : Options)
  | init
  /-- No command is named. -/
  | nothing
  /-- Help on a command, on all of them, or on help itself. -/
  | help (level : Level)
  | helpOnHelp
  | version
deriving DecidableEq, Inhabited

/-- What may have been meant by a name that is not known. -/
inductive Tip where
  /-- A similar option. -/
  | flag (flag : Flag)
  /-- A similar option of a command. -/
  | flagOf (command : CommandName) (flag : Flag)
deriving DecidableEq, Inhabited

/-- Why a line of arguments cannot be followed. The level tells whose usage is shown, and `used`
which options it names. -/
inductive Refusal where
  | unknownArgument (level : Level) (argument : String) (used : List Flag) (tip : Option Tip)
  /-- A command behind two dashes. -/
  | hiddenCommand (name : String)
  | unknownCommand (level : Level) (word : String) (similar : List String)
  | badValue (flag : Flag) (value : String)
  | repeatedFlag (level : Level) (flag : Flag)
  | unwantedValue (level : Level) (flag : Flag) (value : String) (used : List Flag)
deriving DecidableEq, Inhabited

/-! ## Options -/

/-- The state behind some of the options: what they say, which were given, and an option whose value
is not looked at yet, with the value if it was seen. -/
structure OptionsRead where
  options : Options := {}
  given : List Flag := []
  pending : Option (Flag × Option String) := none

/-- The strictness of a word. -/
def strictnessOf? (word : String) : Option Strictness :=
  if word = Strictness.strict.word then some .strict
  else if word = Strictness.loose.word then some .loose
  else none

/-- Takes in an option with a value. -/
def OptionsRead.setValue (level : Level) (state : OptionsRead) (flag : Flag) (value : String) :
    Except Refusal OptionsRead :=
  if state.given.contains flag then .error (.repeatedFlag level flag)
  else if value = "" then .error (.badValue flag value)
  else
    let given := flag :: state.given
    match flag with
    | .strictness =>
      match strictnessOf? value with
      | some s => .ok { state with options := { state.options with strictness := some s }, given }
      | none => .error (.badValue flag value)
    | _ => .ok { state with options := { state.options with sourceRoot := some value }, given }

/-- Looks at the value that was put off. -/
def OptionsRead.settle (level : Level) (state : OptionsRead) : Except Refusal OptionsRead :=
  match state.pending with
  | none => .ok state
  | some (flag, some value) => { state with pending := none }.setValue level flag value
  | some (flag, none) => .error (.badValue flag "")

/-- Takes in an option without a value. -/
def OptionsRead.setFlag (level : Level) (state : OptionsRead) (flag : Flag) :
    Except Refusal OptionsRead :=
  if state.given.contains flag then .error (.repeatedFlag level flag)
  else
    let given := flag :: state.given
    match flag with
    | .apply => .ok { state with options := { state.options with apply := true }, given }
    | _ => .ok { state with options := { state.options with verbose := true }, given }

/-- What reading an argument comes to. -/
inductive Step where
  | goOn (state : OptionsRead)
  | help
  | version

/-- An option without a value. -/
def stepFlag (level : Level) (state : OptionsRead) (flag : Flag) : Except Refusal Step :=
  match state.settle level with
  | .error e => .error e
  | .ok state =>
    match flag with
    | .help => .ok .help
    | .version => .ok .version
    | _ => (state.setFlag level flag).map .goOn

/-- The letters behind a single dash. -/
def stepLetters (level : Level) (state : OptionsRead) : List Char → Except Refusal Step
  | [] => .ok (.goOn state)
  | c :: cs =>
    match (flagsOf level).find? (·.short? == some c) with
    | none => .error (.unknownArgument level (String.ofList ['-', c]) [] none)
    | some flag =>
      match stepFlag level state flag with
      | .ok (.goOn state) => stepLetters level state cs
      | outcome => outcome

/-- The options given so far, one whose value was put off included. -/
def OptionsRead.used (level : Level) (state : OptionsRead) : List Flag :=
  match state.settle level with
  | .ok settled => settled.given.reverse
  | .error _ => state.given.reverse

/-- The option that is most like a name. -/
def similarFlag? (level : Level) (name : String) : Option Flag :=
  match similarWords name ((flagsOf level).map Flag.long) with
  | long :: _ => (flagsOf level).find? (·.long == long)
  | [] => none

/-- What may have been meant by a name: an option of the level, or one of the first command on the
rest of the line that has it. -/
def tipFor (level : Level) (name : String) (rest : List String) : Option Tip :=
  match similarFlag? level name with
  | some flag => some (.flag flag)
  | none =>
    if level.isSome then none
    else
      rest.findSome? fun word =>
        (CommandName.all.find? (·.word == word)).bind fun command =>
          (similarFlag? (some command) name).map (.flagOf command)

/-- The refusal of a name behind two dashes that is not known. -/
def unknownLong (level : Level) (state : OptionsRead) (name : String) (rest : List String) :
    Refusal :=
  let tip := tipFor level name rest
  let used := match tip with
    | some (.flag flag) => state.used level ++ [flag]
    | _ => state.used level
  .unknownArgument level ("--" ++ name) used tip

/-- A name behind two dashes, with the value behind an equals sign. -/
def stepLong (level : Level) (state : OptionsRead) (name : String) (value : Option String)
    (rest : List String) : Except Refusal Step :=
  match (flagsOf level).find? (·.long == name) with
  | none => .error (unknownLong level state name rest)
  | some flag =>
    match flag.valueName?, value with
    | none, none => stepFlag level state flag
    | none, some value => .error (.unwantedValue level flag value (state.used level))
    | some _, none =>
      (state.settle level).map fun state => .goOn { state with pending := some (flag, none) }
    | some _, some value =>
      match state.settle level with
      | .error e => .error e
      | .ok state => (state.setValue level flag value).map .goOn

/-- Splits an argument behind its two dashes at the first equals sign. -/
def splitLong (cs : List Char) : String × Option String :=
  let name := String.ofList (cs.takeWhile (· != '='))
  match cs.dropWhile (· != '=') with
  | [] => (name, none)
  | _ :: value => (name, some (String.ofList value))

/-- Reads the options of a command. Behind two dashes nothing is an option. -/
def readOptions (level : Level) (state : OptionsRead) : List String → Except Refusal Step
  | [] => (state.settle level).map .goOn
  | argument :: rest =>
    let next : Except Refusal Step → Except Refusal Step
      | .ok (.goOn state) => readOptions level state rest
      | outcome => outcome
    match argument.toList with
    | ['-', '-'] =>
      match rest with
      | [] => (state.settle level).map .goOn
      | word :: _ => .error (.unknownArgument level word [] none)
    | '-' :: '-' :: cs =>
      let (name, value) := splitLong cs
      next (stepLong level state name value rest)
    | '-' :: c :: cs => next (stepLetters level state (c :: cs))
    | _ =>
      match state.pending with
      | some (flag, none) => readOptions level { state with pending := some (flag, some argument) } rest
      | _ => .error (.unknownArgument level argument [] none)

/-! ## The whole line -/

/-- The options of a line, where a strictness that is not given may come from elsewhere. -/
def optionsFor (command : CommandName) (fallback : Option String) (arguments : List String) :
    Except Refusal (Option Options) :=
  match readOptions (some command) {} arguments with
  | .error e => .error e
  | .ok (.goOn state) =>
    match fallback with
    | some value =>
      if command = .init || state.given.contains .strictness then .ok (some state.options)
      else (state.setValue (some command) .strictness value).map fun state => some state.options
    | none => .ok (some state.options)
  | .ok _ => .ok none

/-- The request of a command with its arguments. -/
def commandRequest (command : CommandName) (fallback : Option String) (arguments : List String) :
    Except Refusal Request :=
  (optionsFor command fallback arguments).map fun
    | none => .help (some command)
    | some options =>
      match command with
      | .check => .check options
      | .fix => .fix options
      | .init => .init

/-- The words that can stand in the place of a command. -/
def commandWords : List String := CommandName.all.map CommandName.word ++ [helpWord]

/-- The words behind the word for help: the command to explain. -/
def helpRequest (level : Level) : List String → Except Refusal Request
  | [] => .ok (.help level)
  | word :: rest =>
    match level, CommandName.all.find? (·.word == word) with
    | none, some command => helpRequest (some command) rest
    | none, none =>
      if word = helpWord then
        match rest with
        | [] => .ok .helpOnHelp
        | other :: _ => .error (.unknownCommand none other [])
      else .error (.unknownCommand none word [])
    | some _, _ => .error (.unknownCommand level word [])

/-- The request that an option before any command makes. -/
def stepRequest : Step → Request
  | .goOn _ => .nothing
  | .help => .help none
  | .version => .version

/-- Reads a line of arguments. `fallback` is a strictness for a line that gives none. -/
def readArguments (fallback : Option String) : List String → Except Refusal Request
  | [] => .ok .nothing
  | argument :: rest =>
    match CommandName.all.find? (·.word == argument) with
    | some command => commandRequest command fallback rest
    | none =>
      if argument = helpWord then helpRequest none rest
      else
        match argument.toList with
        | ['-', '-'] =>
          match rest with
          | [] => .ok .nothing
          | word :: _ =>
            if commandWords.contains word then .error (.hiddenCommand word)
            else .error (.unknownCommand none word (similarWords word commandWords))
        | '-' :: '-' :: cs =>
          let (name, value) := splitLong cs
          (stepLong none {} name value rest).map stepRequest
        | '-' :: c :: cs => (stepLetters none {} (c :: cs)).map stepRequest
        | _ => .error (.unknownCommand none argument (similarWords argument commandWords))

end MapLint.Command
