import MapLint.Text.Span

/-!
# The tree of a script

What a script consists of, as far as the lint can tell apart. Calls, members, names, assignments
and everything that opens a scope have nodes of their own; the many other kinds of expression
share the node `compound`, which keeps their parts in the order of the text.

Types leave no trace except for the expressions inside them (a computed key in an object type, say),
which are kept as `types` of the node that carries the annotation.

## Architecture

- `Expr` with `Item` (elements and arguments) and `Property` (entries of an object);
- `Pattern` with `Field`: what a declaration or an assignment takes apart;
- `Function`, `ArrowBody` and `ClassMember`: what has parameters or a body;
- `Stmt` with `ForHead`, `Case`, `Declarator` and `Decl`;
- `ModuleItem` and `Program` at the top.
-/

namespace MapLint.Script

/-- The kinds of compound expression. The lint itself only asks for the first three. -/
inductive Form where
  /-- A template without a tag. -/
  | template
  /-- A property whose name is computed or private. -/
  | computedMember
  /-- A call of `super` or of `import`. -/
  | specialCall
  | superMember
  | optionalChain
  | construction
  | taggedTemplate
  | unary
  | update
  | binary (operator : String)
  | sequence
  | yield
  | await
  | metaProperty
  | privateName
  | instantiation
  | invalid
deriving DecidableEq, Inhabited

/-- The keywords that declare variables. -/
inductive VarKind where
  | var
  | letKind
  | const
  | using
deriving DecidableEq, Inhabited

mutual

/-- An expression. -/
inductive Expr where
  /-- A name that stands for a variable. -/
  | ident (span : Span) (name : String)
  | this (span : Span)
  /-- A literal; `isText` for strings. -/
  | literal (span : Span) (isText : Bool)
  | array (span : Span) (items : List Item)
  | object (span : Span) (properties : List Property)
  | function (span : Span) (name : Option String) (function : Function)
  | arrow (span : Span) (params : List Pattern) (body : ArrowBody)
  /-- A class: its members, then what it extends and implements. -/
  | classValue (span : Span) (members : List ClassMember) (heritage : List Expr)
  /-- A property with a fixed name. -/
  | member (span : Span) (object : Expr) (name : String) (nameSpan : Span)
  | call (span : Span) (callee : Expr) (args : List Item) (types : List Expr)
  | paren (span : Span) (inner : Expr)
  | conditional (span : Span) (test yes no : Expr)
  /-- An assignment; one with an operator, such as `+=`, is one too. -/
  | assign (span : Span) (plain : Bool) (target : Pattern) (value : Expr)
  /-- An expression with an annotation that does not change its value. -/
  | typed (span : Span) (inner : Expr) (types : List Expr)
  /-- Elements between tags, flattened to the expressions in them: a spread item for `...`, a plain
  item for a pair of braces. -/
  | markup (span : Span) (parts : List Item)
  /-- Any other expression: its operands, the arguments of a call, and the expressions in types. -/
  | compound (span : Span) (form : Form) (operands : List Expr) (args : List Item)
      (types : List Expr)

/-- An element of an array or an argument of a call. -/
inductive Item where
  /-- An element left out. -/
  | hole
  | plain (value : Expr)
  | spread (start : Nat) (value : Expr)

/-- An entry of an object literal. A key is kept only when it is computed. -/
inductive Property where
  /-- A name that stands for itself. A default value makes sense only in a pattern. -/
  | shorthand (span : Span) (name : String) (default : Option Expr)
  | keyed (span : Span) (key : Option Expr) (value : Expr)
  | spread (span : Span) (value : Expr)
  | getter (span : Span) (key : Option Expr) (types : List Expr) (body : List Stmt)
  | setter (span : Span) (key : Option Expr) (params : List Pattern) (body : List Stmt)
  | method (span : Span) (key : Option Expr) (function : Function)

/-- What binds or assigns values by taking them apart. -/
inductive Pattern where
  | ident (span : Span) (name : String) (types : List Expr)
  | array (span : Span) (elements : List Pattern) (types : List Expr)
  | object (span : Span) (fields : List Field) (types : List Expr)
  | rest (span : Span) (inner : Pattern) (types : List Expr)
  | withDefault (span : Span) (inner : Pattern) (value : Expr)
  /-- A place that is assigned to without being declared, such as a property. -/
  | place (target : Expr)

/-- A field of an object pattern. -/
inductive Field where
  | keyed (key : Option Expr) (value : Pattern)
  | shorthand (name : String) (types : List Expr) (default : Option Expr)
  | rest (inner : Pattern)

/-- The parameters and the body of a function; one that is only declared has an empty body. -/
inductive Function where
  | mk (params : List Pattern) (body : List Stmt) (types : List Expr)

/-- The right side of an arrow. -/
inductive ArrowBody where
  | block (body : List Stmt)
  | value (value : Expr)

/-- A member of a class. -/
inductive ClassMember where
  | constructor (params : List Pattern) (body : List Stmt)
  | method (key : Option Expr) (function : Function)
  /-- A field: its value and then the expressions in its type. -/
  | field (key : Option Expr) (value : Option Expr) (types : List Expr)
  | staticBlock (body : List Stmt)

/-- A statement. -/
inductive Stmt where
  | expr (start : Nat) (value : Expr)
  | block (body : List Stmt)
  | returning (value : Option Expr)
  | throwing (value : Expr)
  /-- A choice; a missing `else` is an inert statement. -/
  | choice (test : Expr) (yes no : Stmt)
  | whileLoop (test : Expr) (body : Stmt)
  | doLoop (body : Stmt) (test : Expr)
  | forLoop (head : ForHead) (test update : Option Expr) (body : Stmt)
  /-- A loop over the keys or the elements of a value. -/
  | forEach (head : ForHead) (subject : Expr) (body : Stmt)
  | switch (subject : Expr) (cases : List Case)
  /-- The block, the caught value (at most one pattern) with its handler, and the last block. -/
  | trying (block : List Stmt) (caught : List Pattern) (handler last : List Stmt)
  | withObject (object : Expr) (body : Stmt)
  | labelled (body : Stmt)
  | declaration (decl : Decl)
  /-- A statement without parts. -/
  | inert

/-- What stands before the first semicolon, or before `in` or `of`, in the head of a loop. -/
inductive ForHead where
  | empty
  | vars (kind : VarKind) (vars : List Declarator)
  | expr (value : Expr)
  | pattern (target : Pattern)

/-- A clause of a `switch`. -/
inductive Case where
  | mk (test : Option Expr) (body : List Stmt)

/-- One variable of a declaration. -/
inductive Declarator where
  | mk (target : Pattern) (value : Option Expr)

/-- A declaration. -/
inductive Decl where
  | vars (kind : VarKind) (vars : List Declarator)
  | function (name : String) (function : Function)
  | classNamed (name : String) (members : List ClassMember) (heritage : List Expr)
  /-- A namespace with a body of its own. -/
  | space (items : List ModuleItem)
  /-- An enumeration or a type: the expressions in it. -/
  | typeLevel (parts : List Expr)

/-- An item at the top of a module. -/
inductive ModuleItem where
  | stmt (stmt : Stmt)
  /-- An import, with the attributes of the module that is imported from. -/
  | importing (names : List String) (attributes : List Property)
  | exporting (decl : Decl)
  | exportDefault (value : Expr)
  /-- An export of names or of everything, with the attributes of the module that it is from. -/
  | exportNames (attributes : List Property)
  /-- An export that declares nothing here. -/
  | exportOther (parts : List Expr)

end

/-- A whole script or module. -/
structure Program where
  isModule : Bool
  items : List ModuleItem

instance : Inhabited Expr := ⟨.this default⟩
instance : Inhabited Pattern := ⟨.ident default default []⟩
instance : Inhabited Stmt := ⟨.inert⟩
instance : Inhabited Program := ⟨⟨false, []⟩⟩

namespace Expr

/-- The part of the text that an expression covers. -/
def span : Expr → Span
  | ident s _ | this s | literal s _ | array s _ | object s _ | function s _ _ | arrow s _ _
  | classValue s _ _ | member s _ _ _ | call s _ _ _ | paren s _ | conditional s _ _ _
  | assign s _ _ _ | typed s _ _ | markup s _ | compound s _ _ _ _ => s

/-- Parts joined by operators. -/
def operation (span : Span) (form : Form) (operands : List Expr) : Expr :=
  compound span form operands [] []

/-- What stands where an expression could not be read. -/
def invalid (span : Span) : Expr := operation span .invalid []

end Expr

/-- The part of the text that an entry of an object covers. -/
def Property.span : Property → Span
  | shorthand s _ _ | keyed s _ _ | spread s _ | getter s _ _ _ | setter s _ _ _ | method s _ _ => s

namespace Pattern

/-- The part of the text that a pattern covers. -/
def span : Pattern → Span
  | ident s _ _ | array s _ _ | object s _ _ | rest s _ _ | withDefault s _ _ => s
  | place e => e.span

/-- What stands where a pattern could not be read. -/
def invalid (span : Span) : Pattern := place (Expr.invalid span)

end Pattern

end MapLint.Script
