import MapLint.Script.Grammar.Basic

/-!
# The parts of the grammar that contain each other

Expressions contain functions, functions contain statements, and statements contain expressions.
`Goal` names the parts in which that circle is closed, and `Grammar` is the promise that each of them
can be read. All productions are plain definitions that rely on this promise; only the top of
the grammar redeems it, with a number of steps that no script exhausts.
-/

namespace MapLint.Script

/-- An element that was read up to its last angle bracket. -/
structure Element where
  span : Span
  /-- The expressions in it. -/
  parts : List Item
  /-- What is wrong with its closing tag, which shows only behind the bracket. -/
  mismatch : Option Fault := none

/-- The parts of a script that may contain themselves, with what reading them yields. -/
inductive Goal : Type → Type where
  /-- Expressions with commas between them. -/
  | expr : Goal Expr
  /-- An expression without a comma. -/
  | assign : Goal Expr
  /-- An operand with the operators before and behind it, and binary operators. -/
  | binary : Goal Expr
  /-- What follows a left operand, as long as it binds tighter than a level. -/
  | binaryRest (left : Expr) (level : Nat) : Goal Expr
  | unary : Goal Expr
  /-- An operand with members and arguments behind it. -/
  | operand : Goal Expr
  /-- A member or a construction. -/
  | memberOrNew : Goal Expr
  /-- A pattern that binds names. -/
  | pattern (letRefused : Bool) : Goal Pattern
  /-- A statement; `declarations` says whether it may be a declaration. -/
  | stmt (declarations : Bool) : Goal Stmt
  | moduleItem : Goal ModuleItem
  /-- A type; the result is the expressions in it. -/
  | type : Goal (List Expr)
  /-- A type without a condition, union or intersection at its top. -/
  | typeOperand : Goal (List Expr)
  /-- An element, up to its last angle bracket. -/
  | markup : Goal Element

/-- The promise that every goal can be read. -/
class Grammar where
  parse : {α : Type} → Goal α → Parse α

export Grammar (parse)

/-- Stops the reading if the tags of an element do not match. -/
def Element.check (element : Element) : Parse Unit :=
  match element.mismatch with
  | some fault => throw fault
  | none => pure ()

end MapLint.Script
