import MapLint.Lint.Scope

/-!
# What the lint looks at

A script is reduced to the list of its *events*, in the order in which a reader meets them: calls of
a method on a variable, and assignments to the variable `_`. Everything the verdict on a call needs
is in its `CallSite`.
-/

namespace MapLint.Lint

open MapLint.Script

/-- How an expression stands in its parent. -/
inductive Position where
  /-- On its own: a statement, an argument, an initial value and the like. -/
  | standalone
  /-- As part of a larger expression. -/
  | operand
  /-- Where its value decides what happens next. -/
  | condition
deriving DecidableEq, Inhabited

/-- What an argument is, as far as the script tells. -/
inductive Operand where
  | direct (shape : Shape)
  | bound (binding : Resolved)
  | unbound (name : String)
deriving DecidableEq, Inhabited

/-- An argument of a call. -/
structure Argument where
  span : Span
  operand : Operand
  spread : Bool
  memberSafe : Bool
deriving DecidableEq, Inhabited

/-- A call `receiver.method(arguments)`. -/
structure CallSite where
  receiver : String
  method : String
  methodSpan : Span
  span : Span
  arguments : List Argument
  position : Position
  /-- Whether the call begins a statement that follows another one. -/
  opensStatement : Bool
deriving DecidableEq, Inhabited

/-- One thing the lint takes notice of. -/
inductive Event where
  | call (site : CallSite)
  /-- An assignment to the reserved receiver. -/
  | receiverAssigned (span : Span)
deriving DecidableEq, Inhabited

/-- The variable whose calls the lint is about. -/
def reservedReceiver : String := "_"

/-- The method whose calls the lint is about. -/
def targetMethod : String := "map"

end MapLint.Lint
