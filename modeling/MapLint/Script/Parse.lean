import MapLint.Script.Grammar.Modules

/-!
# Parsing a script

`parseChars` reads a whole text. It closes the circle of the grammar: `parseAt` reads every `Goal`
with a bounded number of nested steps, each production relying on one step less. The bound grows
with the length of the text, and every level of nesting takes characters, so it is never reached.

A text is refused for the fault that stopped the reading, or else for the first fault that did not.
-/

namespace MapLint.Script

/-- Which dialect a file is written in. -/
inductive Dialect where
  /-- The plain language with elements. -/
  | plain
  /-- The typed language, with elements or in a file of mere declarations. -/
  | typed (markup declarations : Bool)
deriving DecidableEq, Inhabited

/-- The production of a goal. -/
def produce [Grammar] : {α : Type} → Goal α → Parse α
  | _, .expr => exprProduction
  | _, .assign => assignProduction
  | _, .binary => binaryProduction
  | _, .binaryRest left level => binaryRestProduction left level
  | _, .unary => unaryProduction
  | _, .operand => operandProduction
  | _, .memberOrNew => memberOrNewProduction
  | _, .pattern letRefused => patternProduction letRefused
  | _, .stmt declarations => stmtProduction declarations
  | _, .moduleItem => moduleItemProduction
  | _, .type => typeProduction
  | _, .typeOperand => typeOperand
  | _, .markup => markupProduction

/-- Reads a goal with a bounded number of nested steps. -/
def parseAt : Nat → {α : Type} → Goal α → Parse α
  | 0, _, _ => failHere .outOfSteps
  | n + 1, _, goal => @produce ⟨fun goal => parseAt n goal⟩ _ goal

/-- What a text holds: the program and its comments in the order of the text. -/
structure Parsed where
  program : Program
  comments : List Comment

/-- The context at the top of a file. -/
def Dialect.context (dialect : Dialect) (limit : Nat) : Context :=
  match dialect with
  | .plain => { typed := false, markup := true, limit }
  | .typed markup declarations => { typed := true, markup, ambient := declarations, limit }

/-- The state before the first token is taken. -/
def initialState (typed : Bool) (cs : List Char) : State :=
  let cursor := skipInterpreterLine ⟨cs, 0⟩
  let r := readToken true cursor
  { token := r.token
    span := ⟨r.start, r.after.pos⟩
    here := r.here
    after := r.after
    lineBreak := r.lineBreak
    previousStop := 0
    comments := r.comments
    faults := r.faults ++ octalFaults typed r.token r.strictFaults
    moduleFaults := r.strictFaults
    labels := []
    moduleSeen := false
    arrowStart := none
    trailingCommas := [] }

/-- Reads a whole text. -/
def parseChars (dialect : Dialect) (cs : List Char) : Except Problem Parsed :=
  let limit := cs.length + 4
  let grammar : Grammar := ⟨fun goal => parseAt (16 * limit) goal⟩
  let ctx := dialect.context limit
  match @programItems grammar ctx (initialState ctx.typed cs) with
  | .error fault _ => .error fault.problem
  | .ok items state =>
    let isModule := state.moduleSeen || items.any (·.isModuleOnly)
    let faults := state.faults.reverse ++ (if isModule then state.moduleFaults.reverse else [])
    match faults with
    | fault :: _ => .error fault.problem
    | [] => .ok ⟨⟨isModule, items⟩, state.comments.reverse⟩

end MapLint.Script
