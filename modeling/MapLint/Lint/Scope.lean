import MapLint.Lint.Shape

/-!
# Scopes and the names declared in them

A `Scopes` is the chain of scopes around a place of the script: the current one and those that
enclose it, the innermost first. It always has at least one scope. Resolving a name finds its
innermost declaration and follows initial values that are themselves variables, each looked up from
the scope of the declaration that mentions it outward.

## Architecture

- `Binding` is one declaration, `Scope` the declarations of one scope, the first of a name winning;
- `lookup` finds a name in a chain and returns the part of the chain that starts at its scope;
- `settle` follows variables, at most `maxHops` of them;
- `resolve` joins the two;
- `patternBindings` lists the declarations of a pattern.
-/

namespace MapLint.Lint

open MapLint.Script

/-- How a name was declared. -/
inductive Origin where
  | variable
  | objectPattern
  | pattern
  | parameter
  | function
  | class_
  | import_
deriving DecidableEq, Inhabited

/-- A declaration: the shape of its initial value, if it has one, and how it was made. -/
structure Binding where
  init : Option Shape
  origin : Origin
deriving DecidableEq, Inhabited

/-- The declarations of one scope in the order in which they were made. -/
abbrev Scope := List (String × Binding)

namespace Scope

/-- The declaration of a name. -/
def find? (scope : Scope) (name : String) : Option Binding := List.lookup name scope

/-- Adds a declaration unless the name is declared already. -/
def declare (scope : Scope) (name : String) (binding : Binding) : Scope :=
  if (scope.find? name).isSome then scope else scope ++ [(name, binding)]

end Scope

/-- A chain of scopes: the current one and those around it. -/
structure Scopes where
  current : Scope
  outer : List Scope
deriving DecidableEq, Inhabited

namespace Scopes

/-- Only the global scope, with nothing declared. -/
def global : Scopes := ⟨[], []⟩

/-- The number of scopes. -/
def depth (s : Scopes) : Nat := s.outer.length + 1

/-- All scopes, the innermost first. -/
def chain (s : Scopes) : List Scope := s.current :: s.outer

/-- Opens a scope. -/
def enter (s : Scopes) : Scopes := ⟨[], s.chain⟩

/-- Closes the current scope; the global one stays. -/
def exit (s : Scopes) : Scopes :=
  match s.outer with
  | [] => s
  | scope :: outer => ⟨scope, outer⟩

/-- Declares a name in the current scope unless it is declared there already. -/
def declare (s : Scopes) (name : String) (binding : Binding) : Scopes :=
  ⟨s.current.declare name binding, s.outer⟩

/-- Declares several names, the first of equal ones winning. -/
def declareAll (s : Scopes) (bindings : List (String × Binding)) : Scopes :=
  bindings.foldl (fun s b => s.declare b.1 b.2) s

end Scopes

/-! ## Resolving a name -/

/-- The innermost declaration of a name, with the part of the chain that starts at its scope. -/
def lookup (name : String) : List Scope → Option (Binding × List Scope)
  | [] => none
  | scope :: outer =>
    match scope.find? name with
    | some binding => some (binding, scope :: outer)
    | none => lookup name outer

/-- The number of variables followed before an initial value counts as unknown. -/
def maxHops : Nat := 8

/-- The shape behind an initial value: a variable stands for the initial value of its declaration.
Cycles, undeclared names and chains that are too long have no shape. -/
def settle : Nat → Option Shape → List Scope → Option Shape
  | 0, some (.reference _), _ => none
  | hops + 1, some (.reference name), chain =>
    match lookup name chain with
    | some (binding, from_) => settle hops binding.init from_
    | none => none
  | _, init, _ => init

/-- A name as it was found: its declaration with the initial value followed to its end. -/
structure Resolved where
  name : String
  init : Option Shape
  origin : Origin
deriving DecidableEq, Inhabited

/-- The innermost declaration of a name. -/
def Scopes.resolve (s : Scopes) (name : String) : Option Resolved :=
  match lookup name s.chain with
  | some (binding, from_) => some ⟨name, settle maxHops binding.init from_, binding.origin⟩
  | none => none

/-! ## What a pattern declares -/

mutual

/-- The declarations that a pattern makes. Only a plain name keeps the initial value; inside a
pattern the origin tells what the name was taken out of. -/
def patternBindings (init : Option Shape) (origin : Origin) : Pattern → List (String × Binding)
  | .ident _ name _ => [(name, ⟨init, origin⟩)]
  | .object _ fields _ => fieldsBindings fields
  | .array _ elements _ => patternsBindings .pattern elements
  | .rest _ inner _ => patternBindings none .pattern inner
  | .withDefault _ inner _ =>
    patternBindings none (if origin = .variable then .pattern else origin) inner
  | .place _ => []

/-- The declarations of several patterns, none with an initial value. -/
def patternsBindings (origin : Origin) : List Pattern → List (String × Binding)
  | [] => []
  | p :: ps => patternBindings none origin p ++ patternsBindings origin ps

/-- The declarations of one field. -/
def fieldBindings : Field → List (String × Binding)
  | .keyed _ value => patternBindings none .objectPattern value
  | .shorthand name _ _ => [(name, ⟨none, .objectPattern⟩)]
  | .rest inner => patternBindings none .objectPattern inner

/-- The declarations of the fields of an object pattern. -/
def fieldsBindings : List Field → List (String × Binding)
  | [] => []
  | f :: fs => fieldBindings f ++ fieldsBindings fs

end

/-- Declares the parameters of a function. -/
def Scopes.declareParams (s : Scopes) (params : List Pattern) : Scopes :=
  s.declareAll (patternsBindings .parameter params)

/-- The declarations of variables. -/
def declaratorsBindings (vars : List Declarator) : List (String × Binding) :=
  vars.flatMap fun | .mk target value => patternBindings (value.map shapeOf) .variable target

/-- What the head of a counting loop declares. -/
def forHeadBindings : ForHead → List (String × Binding)
  | .vars .using _ => []
  | .vars _ vars => declaratorsBindings vars
  | _ => []

/-- What the head of a loop over a value declares: names without an initial value. -/
def forEachBindings : ForHead → List (String × Binding)
  | .vars .using _ => []
  | .vars _ vars => vars.flatMap fun | .mk target _ => patternBindings none .variable target
  | _ => []

/-- What a declaration declares. Types and namespaces, and variables bound by `using`, are not
followed. -/
def declBindings : Decl → List (String × Binding)
  | .vars .using _ => []
  | .vars _ vars => declaratorsBindings vars
  | .function name _ => [(name, ⟨some .function, .function⟩)]
  | .classNamed name _ _ => [(name, ⟨some .value, .class_⟩)]
  | .space _ => []
  | .typeLevel _ => []

/-- What a list of statements declares before its first statement runs. -/
def stmtsBindings (stmts : List Stmt) : List (String × Binding) :=
  stmts.flatMap fun
    | .declaration decl => declBindings decl
    | _ => []

/-- What the items of a program declare before the first of them runs. -/
def itemsBindings (items : List ModuleItem) : List (String × Binding) :=
  items.flatMap fun
    | .stmt (.declaration decl) => declBindings decl
    | .exporting decl => declBindings decl
    | .exportDefault (.function _ (some name) _) => [(name, ⟨some .function, .function⟩)]
    | .importing names _ => names.map fun name => (name, ⟨none, .import_⟩)
    | _ => []

end MapLint.Lint
