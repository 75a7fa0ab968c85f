/-!
# Styled text

Text on a terminal can be bold, dimmed or coloured. A style is switched on in front of a text and
everything is switched off behind it; where styles are off, the text stands as it is.
-/

namespace MapLint.Report

/-- The colours that are used. -/
inductive Colour where
  | red
  | green
  | yellow
  | blue
  | cyan
deriving DecidableEq, Inhabited

/-- The code of a colour. -/
def Colour.code : Colour → String
  | .red => "31"
  | .green => "32"
  | .yellow => "33"
  | .blue => "34"
  | .cyan => "36"

/-- How a text is shown. -/
structure Style where
  bold : Bool := false
  dimmed : Bool := false
  colour : Option Colour := none
deriving DecidableEq, Inhabited

namespace Style

/-- The codes of a style. -/
def codes (s : Style) : List String :=
  (if s.bold then ["1"] else []) ++ (if s.dimmed then ["2"] else []) ++
    (s.colour.map Colour.code).toList

/-- Switches a style on. -/
def on (s : Style) : List Char := '\x1b' :: '[' :: (";".intercalate s.codes).toList ++ ['m']

/-- Switches everything off. -/
def off : List Char := ['\x1b', '[', '0', 'm']

/-- Switches a style on again behind every place where a text switches it off. -/
def resume (s : Style) : List Char → List Char
  | '\x1b' :: '[' :: '0' :: 'm' :: rest => off ++ s.on ++ resume s rest
  | c :: rest => c :: resume s rest
  | [] => []

/-- A text in a style, if styles are shown. -/
def paint (s : Style) (shown : Bool) (text : String) : String :=
  if shown then String.ofList (s.on ++ resume s text.toList ++ off) else text

end Style

/-- A style that is only a colour. -/
def colour (c : Colour) : Style := { colour := some c }

/-- Bold text. -/
def bold : Style := { bold := true }

/-- Bold text in a colour. -/
def boldColour (c : Colour) : Style := { bold := true, colour := some c }

/-- Dimmed text in a colour. -/
def dimmedColour (c : Colour) : Style := { dimmed := true, colour := some c }

/-- Blanks in front of a text up to a width. -/
def padLeft (width : Nat) (text : String) : String :=
  String.ofList (List.replicate (width - text.length) ' ') ++ text

/-- The word for one or for several. -/
def plural (count : Nat) (one many : String) : String := if count = 1 then one else many

/-- Text with a line feed behind it. -/
def line (text : String) : String := text ++ "\n"

end MapLint.Report
