import MapLint.Script.Tree

/-!
# The shape of an expression

What can be said of a value from the expression alone: that it is an array, a function, a path of
property names, and so on. Parentheses and annotations do not change a shape.

`memberSafe` is a second, purely textual question: may `.map(…)` be written right behind the
expression?
-/

namespace MapLint.Lint

open MapLint.Script

/-- What is known of a value from its expression. -/
inductive Shape where
  /-- An array literal. -/
  | sequence
  /-- An object literal. -/
  | object
  /-- A function or an arrow. -/
  | function
  /-- A variable. -/
  | reference (name : String)
  /-- `this`, or fixed property names behind a variable or `this`. -/
  | path
  /-- A literal, a template or a class. -/
  | value
  /-- Anything else. -/
  | other
deriving DecidableEq, Inhabited

/-- Fixed property names behind a variable or `this`. -/
def isPath : Expr → Bool
  | .member _ (.ident _ _) _ _ => true
  | .member _ (.this _) _ _ => true
  | .member _ object _ _ => isPath object
  | _ => false

/-- The shape of an expression. -/
def shapeOf : Expr → Shape
  | .array _ _ => .sequence
  | .object _ _ => .object
  | .function _ _ _ => .function
  | .arrow _ _ _ => .function
  | .ident _ name => .reference name
  | .literal _ _ => .value
  | .classValue _ _ _ => .value
  | .compound _ .template _ _ _ => .value
  | .this _ => .path
  | .member s object name nameSpan =>
    if isPath (.member s object name nameSpan) then .path else .other
  | .paren _ inner => shapeOf inner
  | .typed _ inner _ => shapeOf inner
  | _ => .other

/-- Whether a property can be written right behind an expression without parentheses around it. -/
def memberSafe : Expr → Bool
  | .array _ _ => true
  | .ident _ _ => true
  | .member _ _ _ _ => true
  | .call _ _ _ _ => true
  | .this _ => true
  | .paren _ _ => true
  | .literal _ isText => isText
  | .compound _ form _ _ _ => form = .template || form = .computedMember || form = .specialCall
  | _ => false

end MapLint.Lint
