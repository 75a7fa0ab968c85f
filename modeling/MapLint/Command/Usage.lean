import MapLint.Command.Arguments

/-!
# Help and refusals

The texts that explain the command line: the help on a command, and why a line of arguments was
refused. A text is made of `Piece`s, whose emphasis shows only where styles are shown.

## Architecture

- `Piece` and `renderPieces`;
- `usageLine` shows how a command is called;
- `helpText` explains a command, `refusalText` a refusal.
-/

namespace MapLint.Command

/-- How a piece of text stands out. -/
inductive Emphasis where
  | plain
  | header
  | literal
  | valid
  | invalid
  | error
deriving DecidableEq, Inhabited

/-- The codes of an emphasis, each in an escape of its own. -/
def Emphasis.codes : Emphasis → List String
  | .plain => []
  | .header => ["1", "4"]
  | .literal => ["1"]
  | .valid => ["32"]
  | .invalid => ["33"]
  | .error => ["1", "31"]

/-- A piece of text. -/
structure Piece where
  emphasis : Emphasis
  text : String
deriving DecidableEq, Inhabited

/-- The text of a piece. -/
def Piece.render (styled : Bool) (piece : Piece) : String :=
  if styled && piece.emphasis != .plain then
    "".intercalate (piece.emphasis.codes.map fun code => "\x1b[" ++ code ++ "m") ++ piece.text ++
      "\x1b[0m"
  else piece.text

/-- The text of several pieces. -/
def renderPieces (styled : Bool) (pieces : List Piece) : String :=
  "".intercalate (pieces.map (Piece.render styled))

/-- Text without emphasis. -/
def plain (text : String) : Piece := ⟨.plain, text⟩

/-- Text to be typed as it is. -/
def literal (text : String) : Piece := ⟨.literal, text⟩

/-! ## How a command is called -/

/-- The name of the program. -/
def programName : String := "native-map"

/-- The version of the program. -/
def programVersion : String := "0.1.0"

/-- What the program does. -/
def programSummary : String :=
  "A fast CLI tool that rewrites lodash-style _.map calls to native Array.prototype.map"

/-- The variable from which a strictness is taken that the command line does not give. -/
def strictnessVariable : String := "NATIVE_MAP_STRICTNESS"

/-- The words that call a command. -/
def callWords : Level → String
  | none => programName
  | some command => programName ++ " " ++ command.word

/-- An option as it is shown. -/
def flagPieces (flag : Flag) : List Piece :=
  literal ("--" ++ flag.long) ::
    match flag.valueName? with
    | some name => [plain (" <" ++ name ++ ">")]
    | none => []

/-- The line that shows how a command is called, with the options in `used` or all of them. -/
def usageLine (level : Level) (used : List Flag) : List Piece :=
  [⟨.header, "Usage:"⟩, plain " ", literal (callWords level)] ++
    if used.isEmpty then
      match level with
      | none => [plain " [COMMAND]"]
      | some .init => []
      | some _ => [plain " [OPTIONS]"]
    else used.flatMap fun flag => plain " " :: flagPieces flag

/-! ## Help -/

/-- What a command does. -/
def commandSummary : CommandName → String
  | .check =>
    "Report \x60_.map(collection, callback)\x60 calls that can use \x60collection.map(callback)\x60"
  | .fix =>
    "Rewrite \x60_.map\x60 calls to the native method, guarded when the argument may not be an array"
  | .init => "Initialize a new .nativemaprc.json configuration file"

/-- What the word for help does. -/
def helpSummary : String := "Print this message or the help of the given subcommand(s)"

/-- What an option does; the variable's value is shown beside the option that it stands for. -/
def flagSummary (variable_ : Option String) : Flag → String
  | .sourceRoot => "Source code root directory (defaults to the current directory)"
  | .strictness =>
    "How much evidence a member-path argument needs (overrides config file) [env: " ++
      strictnessVariable ++ "=" ++ variable_.getD "" ++ "] [possible values: " ++
      ", ".intercalate Flag.strictness.allowedValues ++ "]"
  | .verbose => "Enable verbose output"
  | .apply => "Actually rewrite files (default is dry-run)"
  | .help => "Print help"
  | .version => "Print version"

/-- The total length of some pieces. -/
def piecesLength (pieces : List Piece) : Nat := (pieces.map (·.text.length)).foldr (· + ·) 0

/-- A table of two columns, the second one aligned. -/
def table (rows : List (List Piece × String)) : List Piece :=
  let width := (rows.map fun row => piecesLength row.1).max?.getD 0
  rows.flatMap fun (left, right) =>
    let gap := String.ofList (List.replicate (width - piecesLength left + 2) ' ')
    plain "  " :: left ++ [plain (gap ++ right ++ "\n")]

/-- An option in the left column: its letter, or room for one, and its name. -/
def flagColumn (flag : Flag) : List Piece :=
  (match flag.short? with
    | some c => [literal (String.ofList ['-', c]), plain ", "]
    | none => [plain "    "]) ++ flagPieces flag

/-- The help on a command, or on the program. -/
def helpPieces (variable_ : Option String) (level : Level) : List Piece :=
  let summary := match level with
    | none => programSummary
    | some command => commandSummary command
  let commands := match level with
    | none =>
      [⟨.header, "Commands:"⟩, plain "\n"] ++
        table (CommandName.all.map (fun c => ([literal c.word], commandSummary c)) ++
          [([literal helpWord], helpSummary)]) ++
        [plain "\n"]
    | some _ => []
  [plain (summary ++ "\n\n")] ++ usageLine level [] ++ [plain "\n\n"] ++ commands ++
    [⟨.header, "Options:"⟩, plain "\n"] ++
    table ((flagsOf level).map fun flag => (flagColumn flag, flagSummary variable_ flag))

/-- The help on the word for help. -/
def helpOnHelpPieces : List Piece :=
  [plain (helpSummary ++ "\n\n"), ⟨.header, "Usage:"⟩, plain " ",
    literal (programName ++ " " ++ helpWord), plain " [COMMAND]...\n\n", ⟨.header, "Arguments:"⟩,
    plain "\n  [COMMAND]...  Print help for the subcommand(s)\n"]

/-- The help on a command, or on the program. -/
def helpText (styled : Bool) (variable_ : Option String) (level : Level) : String :=
  renderPieces styled (helpPieces variable_ level)

/-! ## Refusals -/

/-- A text between single quotes. -/
def quoted (emphasis : Emphasis) (text : String) : List Piece := [plain "'", ⟨emphasis, text⟩, plain "'"]

/-- A tip on a line of its own. -/
def tipPieces (pieces : List Piece) : List Piece :=
  plain "\n  " :: ⟨.valid, "tip:"⟩ :: plain " " :: pieces

/-- Several things with commas between them. -/
def listed (things : List (List Piece)) : List Piece := (things.intersperse [plain ", "]).flatten

/-- A tip that names similar things. -/
def similarPieces (kind : String) : List String → List Piece
  | [] => []
  | [word] => plain "\n" :: tipPieces (plain ("a similar " ++ kind ++ " exists: ") :: quoted .valid word)
  | words =>
    plain "\n" :: tipPieces (plain ("some similar " ++ kind ++ "s exist: ") ::
      listed (words.map (quoted .valid)))

/-- What is wrong, with tips. -/
def reasonPieces : Refusal → List Piece
  | .unknownArgument _ argument _ tip =>
    plain "unexpected argument " :: quoted .invalid argument ++ plain " found" ::
      match tip with
      | some (.flag flag) => similarPieces "argument" ["--" ++ flag.long]
      | some (.flagOf command flag) =>
        plain "\n" :: tipPieces (quoted .valid (command.word ++ " --" ++ flag.long) ++ [plain " exists"])
      | none => []
  | .hiddenCommand name =>
    plain "unexpected argument " :: quoted .invalid name ++ plain " found" :: plain "\n" ::
      tipPieces (plain "subcommand " :: quoted .valid name ++
        plain " exists; to use it, remove the " :: quoted .invalid "--" ++ [plain " before it"])
  | .unknownCommand _ word similar =>
    plain "unrecognized subcommand " :: quoted .invalid word ++ similarPieces "subcommand" similar
  | .badValue flag value =>
    (if value = "" then
      plain "a value is required for " :: quoted .invalid flag.shown ++
        [plain " but none was supplied"]
    else
      plain "invalid value " :: quoted .invalid value ++ plain " for " ::
        quoted .literal flag.shown) ++
    (if flag.allowedValues.isEmpty then []
    else
      plain "\n  [possible values: " :: listed (flag.allowedValues.map fun v => [⟨.valid, v⟩]) ++
        [plain "]"]) ++
    similarPieces "value" ((similarWords value flag.allowedValues).take 1)
  | .repeatedFlag _ flag =>
    plain "the argument " :: quoted .invalid flag.shown ++ [plain " cannot be used multiple times"]
  | .unwantedValue _ flag value _ =>
    plain "unexpected value " :: quoted .invalid value ++ plain " for " ::
      quoted .literal flag.shown ++ [plain " found; no more were expected"]

/-- The usage shown with a refusal; a value that is refused shows none. -/
def refusalUsage : Refusal → List Piece
  | .unknownArgument level _ used _ => plain "\n\n" :: usageLine level used
  | .hiddenCommand _ => plain "\n\n" :: usageLine none []
  | .unknownCommand level _ _ => plain "\n\n" :: usageLine level []
  | .badValue _ _ => []
  | .repeatedFlag level _ => plain "\n\n" :: usageLine level []
  | .unwantedValue level _ _ used => plain "\n\n" :: usageLine level used

/-- The text of a refusal. -/
def refusalText (styled : Bool) (refusal : Refusal) : String :=
  renderPieces styled <|
    ⟨.error, "error:"⟩ :: plain " " :: reasonPieces refusal ++ refusalUsage refusal ++
      [plain "\n\nFor more information, try '", literal "--help", plain "'.\n"]

end MapLint.Command
