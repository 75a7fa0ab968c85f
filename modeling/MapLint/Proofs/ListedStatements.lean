import MapLint.Proofs.EventCoverage
import MapLint.Proofs.WalkState

/-!
# Statements in lists

Statements stand in lists: those of a program or a namespace, of a block, of a clause of a `switch`. Where a
statement is an expression that follows another one in its list, the walk notes where it begins, and this is
what the calls in it see until another statement of a list comes. A statement that is the body of an `if`, of a
loop or of a label stands in no list, and nothing is noted of it.

## Architecture

- `Program.followers` are the statements that follow another one in their list, read off the lists, and
  `mem_followers_iff` finds them at the ends of trails;
- `Node.inline` says that there is no statement in a node but for those behind a brace, and
  `inExpr_or_listed_of_inline` what its parts are;
- `HeadInline.toward` is what one step down a tree keeps: a noted beginning is seen from within the statement
  alone;
- `head_along_eq_some_iff` is the way down a tree: the innermost statement decides what is seen.
-/

namespace MapLint.Lint

open MapLint.Script

/-! ## Statements that follow another one -/

/-- The statement that an item of a module is. -/
def itemStmt? : ModuleItem → Option Stmt
  | .stmt stmt => some stmt
  | _ => none

/-- The statements in the lists of a node that follow another one in their list. -/
def Node.followers : Node → List Stmt
  | .block body => body.tail
  | .stmt (.switch _ cases) => cases.flatMap fun | .mk _ body => body.tail
  | .decl (.space items) => items.tail.filterMap itemStmt?
  | _ => []

end MapLint.Lint

namespace MapLint.Script.Program

open MapLint.Lint

/-- The statements of a program, at any depth, that follow another one in their list. -/
def followers (p : Program) : List Stmt :=
  p.items.tail.filterMap itemStmt? ++ p.tree.flatMap fun part => part.node.followers

end MapLint.Script.Program

namespace MapLint.Lint

open MapLint.Script

/-! ## What stands in expressions -/

namespace Node

def isStmt : Node → Bool
  | .stmt _ => true
  | _ => false

/-- Neither a statement nor a declaration. -/
def inExpr : Node → Bool
  | .stmt _ => false
  | .decl _ => false
  | _ => true

@[simp] theorem inExpr_expr (e : Expr) : (expr e).inExpr = true := rfl
@[simp] theorem inExpr_pattern (p : Pattern) : (pattern p).inExpr = true := rfl
@[simp] theorem inExpr_function (f : Function) : (function f).inExpr = true := rfl
@[simp] theorem inExpr_block (body : List Stmt) : (block body).inExpr = true := rfl

/-- There is no statement in the node but for those behind a brace. -/
def inline : Node → Bool
  | .stmt (.expr _ _) => true
  | node => node.inExpr

theorem inline_of_inExpr {node : Node} (h : node.inExpr = true) : node.inline = true := by
  cases node with
  | stmt stmt => cases h
  | _ => exact h

theorem isStmt_of_inExpr {node : Node} (h : node.inExpr = true) : node.isStmt = false := by
  cases node with
  | stmt stmt => cases h
  | _ => rfl

end Node

/-- All of the parts stand in expressions. -/
def InExpr (parts : List Part) : Prop := ∀ part ∈ parts, part.node.inExpr = true

section InExpr

variable {ps qs : List Part}

@[simp]
theorem inExpr_nil : InExpr [] := by simp [InExpr]

@[simp]
theorem inExpr_cons {part : Part} : InExpr (part :: ps) ↔ part.node.inExpr = true ∧ InExpr ps := by
  simp [InExpr]

@[simp]
theorem inExpr_append : InExpr (ps ++ qs) ↔ InExpr ps ∧ InExpr qs := by
  simp only [InExpr, List.mem_append, or_imp, forall_and]

@[simp]
theorem inExpr_map_inside {scope : Scope} : InExpr (ps.map (Part.inside scope)) ↔ InExpr ps := by
  simp [InExpr]

theorem inExpr_map {α : Type} {f : α → Part} (h : ∀ x, (f x).node.inExpr = true) (xs : List α) :
    InExpr (xs.map f) := by
  intro part hpart
  obtain ⟨x, -, rfl⟩ := List.mem_map.mp hpart
  exact h x

theorem inExpr_flatMap {α : Type} {f : α → List Part} (h : ∀ x, InExpr (f x)) (xs : List α) :
    InExpr (xs.flatMap f) := by
  intro part hpart
  obtain ⟨x, -, hpart⟩ := List.mem_flatMap.mp hpart
  exact h x part hpart

@[simp]
theorem inExpr_operandParts (es : List Expr) : InExpr (operandParts es) := inExpr_map (fun _ => rfl) es

@[simp]
theorem inExpr_optionParts (position : Position) (e : Option Expr) : InExpr (optionParts position e) :=
  inExpr_map (fun _ => rfl) e.toList

@[simp]
theorem inExpr_patternsParts (patterns : List Pattern) : InExpr (patternsParts patterns) :=
  inExpr_map (fun _ => rfl) patterns

@[simp]
theorem inExpr_propertiesParts (properties : List Property) : InExpr (propertiesParts properties) :=
  inExpr_map (fun _ => rfl) properties

@[simp]
theorem inExpr_membersParts (members : List ClassMember) : InExpr (membersParts members) :=
  inExpr_map (fun _ => rfl) members

@[simp]
theorem inExpr_itemParts (position : Position) (items : List Item) :
    InExpr (items.flatMap (itemParts position)) :=
  inExpr_flatMap (fun item => by cases item <;> simp [itemParts]) items

@[simp]
theorem inExpr_fieldParts (fields : List Field) : InExpr (fields.flatMap fieldParts) :=
  inExpr_flatMap (fun field => by cases field <;> simp [fieldParts]) fields

@[simp]
theorem inExpr_declaratorParts (vars : List Declarator) : InExpr (vars.flatMap declaratorParts) :=
  inExpr_flatMap (fun var => by cases var; simp [declaratorParts]) vars

@[simp]
theorem inExpr_forHeadParts (position : Position) (head : ForHead) :
    InExpr (forHeadParts position head) := by
  cases head <;> simp [forHeadParts]

@[simp]
theorem inExpr_arrowBodyPart (body : ArrowBody) : (arrowBodyPart body).node.inExpr = true := by
  cases body <;> rfl

end InExpr

/-- What stands in a list of statements is a statement. -/
theorem mem_stmtsParts {followsAnother : Bool} {stmts : List Stmt} {part : Part}
    (h : part ∈ stmtsParts followsAnother stmts) :
    ∃ follows stmt, part = .statement follows stmt := by
  induction stmts generalizing followsAnother with
  | nil => cases h
  | cons stmt stmts ih =>
    rcases List.mem_cons.mp h with rfl | h
    · exact ⟨followsAnother, stmt, rfl⟩
    · exact ih h

/-- Where there is no statement in a node but for those behind a brace, its parts are no statements either, or
they are those behind the brace. -/
theorem inExpr_or_listed_of_inline {part child : Part} (h : part.node.inline = true)
    (hchild : child ∈ part.parts) :
    child.node.inExpr = true ∨ ∃ body follows stmt, part.node = .block body ∧
      child.listed = some follows ∧ child.node = .stmt stmt := by
  obtain ⟨node, position, opened, listed⟩ := part
  cases node with
  | block body =>
    obtain ⟨inner, hinner, rfl⟩ := List.mem_map.mp hchild
    obtain ⟨follows, stmt, rfl⟩ := mem_stmtsParts hinner
    exact .inr ⟨body, follows, stmt, rfl, rfl, rfl⟩
  | stmt stmt =>
    cases stmt with
    | expr start value =>
      obtain rfl := List.mem_singleton.mp hchild
      exact .inl rfl
    | _ => cases h
  | decl d => cases h
  | expr e =>
    refine .inl ((?_ : InExpr (exprParts position e)) child hchild)
    cases e <;> simp [exprParts]
  | property p =>
    refine .inl ((?_ : InExpr (propertyParts p)) child hchild)
    cases p <;> simp [propertyParts]
  | pattern p =>
    refine .inl ((?_ : InExpr (patternParts p)) child hchild)
    cases p <;> simp [patternParts]
  | function f =>
    refine .inl ((?_ : InExpr (functionParts f)) child hchild)
    cases f
    simp [functionParts]
  | member m =>
    refine .inl ((?_ : InExpr (memberParts m)) child hchild)
    cases m <;> simp [memberParts]

/-! ## Followers at the ends of trails -/

/-- The statement that a part is, if it follows another one in a list. -/
def Part.follower? (part : Part) : Option Stmt :=
  match part.listed, part.node with
  | some true, .stmt stmt => some stmt
  | _, _ => none

theorem Part.follower?_eq_some_iff {part : Part} {stmt : Stmt} :
    part.follower? = some stmt ↔ part.listed = some true ∧ part.node = .stmt stmt := by
  obtain ⟨node, position, opened, listed⟩ := part
  cases node <;> rcases listed with _ | _ | _ <;> simp [Part.follower?]

/-- The statements among the parts that follow another one in a list. -/
def followersAmong (parts : List Part) : List Stmt := parts.filterMap Part.follower?

section Followers

variable {parts others : List Part}

@[simp]
theorem followersAmong_append :
    followersAmong (parts ++ others) = followersAmong parts ++ followersAmong others :=
  List.filterMap_append

@[simp]
theorem followersAmong_cons (part : Part) :
    followersAmong (part :: parts) = part.follower?.toList ++ followersAmong parts := by
  rw [followersAmong, List.filterMap_cons]
  cases part.follower? <;> rfl

@[simp] theorem follower?_of (node : Node) : (Part.of node).follower? = none := rfl

@[simp]
theorem follower?_expr (position : Position) (e : Expr) : (Part.expr position e).follower? = none := rfl

@[simp]
theorem follower?_statement (follows : Bool) (stmt : Stmt) :
    (Part.statement follows stmt).follower? = if follows then some stmt else none := by
  cases follows <;> rfl

@[simp]
theorem follower?_inside (scope : Scope) (part : Part) :
    (part.inside scope).follower? = part.follower? := rfl

@[simp]
theorem followersAmong_map_inside (scope : Scope) (parts : List Part) :
    followersAmong (parts.map (Part.inside scope)) = followersAmong parts := by
  rw [followersAmong, List.filterMap_map]
  rfl

/-- No statement of a list stands directly in an expression. -/
@[simp]
theorem followersAmong_of_inExpr (h : InExpr parts) : followersAmong parts = [] := by
  refine List.filterMap_eq_nil_iff.mpr fun part hpart => ?_
  by_contra hne
  obtain ⟨stmt, hstmt⟩ := Option.ne_none_iff_exists'.mp hne
  have hexpr := h part hpart
  rw [(Part.follower?_eq_some_iff.mp hstmt).2] at hexpr
  cases hexpr

@[simp]
theorem followersAmong_stmtsParts (followsAnother : Bool) (stmts : List Stmt) :
    followersAmong (stmtsParts followsAnother stmts) = if followsAnother then stmts else stmts.tail := by
  have hbehind : ∀ stmts, followersAmong (stmtsParts true stmts) = stmts := by
    intro stmts
    induction stmts with
    | nil => rfl
    | cons stmt stmts ih => simp [stmtsParts, ih]
  cases followsAnother with
  | true => exact hbehind stmts
  | false => cases stmts <;> simp [stmtsParts, hbehind]

@[simp]
theorem followersAmong_caseParts (cases : List Case) :
    followersAmong (cases.flatMap caseParts) = cases.flatMap fun | .mk _ body => body.tail := by
  rw [followersAmong, List.filterMap_flatMap]
  refine congrArg (cases.flatMap ·) (funext fun | .mk test body => ?_)
  show followersAmong (caseParts (.mk test body)) = body.tail
  simp [caseParts]

@[simp]
theorem followersAmong_moduleItemsParts (followsAnother : Bool) (items : List ModuleItem) :
    followersAmong (moduleItemsParts followsAnother items) =
      (if followsAnother then items else items.tail).filterMap itemStmt? := by
  have hitem : ∀ follows item, followersAmong (moduleItemParts follows item) =
      if follows then (itemStmt? item).toList else [] := by
    intro follows item
    cases item <;> cases follows <;> simp [moduleItemParts, itemStmt?]
  have hbehind : ∀ items, followersAmong (moduleItemsParts true items) = items.filterMap itemStmt? := by
    intro items
    induction items with
    | nil => rfl
    | cons item items ih =>
      rw [moduleItemsParts, followersAmong_append, hitem, ih, List.filterMap_cons]
      cases itemStmt? item <;> rfl
  cases followsAnother with
  | true => exact hbehind items
  | false => cases items <;> simp [moduleItemsParts, hitem, hbehind]

end Followers

/-- The parts of a node that follow another statement are those that its lists say. -/
theorem followersAmong_parts (part : Part) : followersAmong part.parts = part.node.followers := by
  have hinline : part.node.inline = true → (∀ body, part.node ≠ .block body) →
      followersAmong part.parts = [] := by
    intro h hblock
    refine followersAmong_of_inExpr fun child hchild => ?_
    rcases inExpr_or_listed_of_inline h hchild with hexpr | ⟨body, -, -, hnode, -, -⟩
    · exact hexpr
    · exact absurd hnode (hblock body)
  obtain ⟨node, position, opened, listed⟩ := part
  cases node with
  | block body => simp [Part.parts, Node.parts, Node.followers]
  | stmt stmt => cases stmt <;> simp [Part.parts, Node.parts, stmtParts, Node.followers]
  | decl d => cases d <;> simp [Part.parts, Node.parts, declParts, Node.followers]
  | _ => exact hinline rfl (by simp)

/-! ## Trails and trees -/

section Trails

variable {parts trail : List Part} {part last : Part}

theorem IsTrail.concat (h : IsTrail parts trail) (hlast : trail.getLast? = some last)
    (hpart : part ∈ last.parts) : IsTrail parts (trail ++ [part]) := by
  obtain ⟨front, rfl⟩ := List.getLast?_eq_some_iff.mp hlast
  rw [List.append_assoc]
  exact isTrail_append_cons.mpr ⟨h, hpart, trivial⟩

/-- A trail leads to a part of the parts it begins with, or to a part of what a shorter trail leads to. -/
theorem IsTrail.mem_or_exists (h : IsTrail parts trail) (hlast : trail.getLast? = some last) :
    last ∈ parts ∨ ∃ front above, IsTrail parts front ∧ front.getLast? = some above ∧
      last ∈ above.parts := by
  obtain ⟨front, rfl⟩ := List.getLast?_eq_some_iff.mp hlast
  rcases List.eq_nil_or_concat front with rfl | ⟨front, above, rfl⟩
  · exact .inl h.1
  · rw [List.concat_eq_append, List.append_assoc] at h
    obtain ⟨hfront, hinner⟩ := isTrail_append_cons.mp h
    exact .inr ⟨front ++ [above], above, hfront, List.getLast?_concat, hinner.1⟩

/-- All that is in a part is at the end of a trail that begins with it. -/
theorem exists_trail_of_mem_subtree (part : Part) : ∀ {parts : List Part}, part ∈ parts →
    ∀ {inner : Part}, inner ∈ part.subtree →
      ∃ trail, IsTrail parts trail ∧ trail.getLast? = some inner := by
  induction part using Part.induction with
  | step part ih =>
    intro parts hpart inner hinner
    rw [Part.subtree_eq, List.mem_cons, List.mem_flatMap] at hinner
    rcases hinner with rfl | ⟨child, hchild, hinner⟩
    · exact ⟨[inner], ⟨hpart, trivial⟩, rfl⟩
    · obtain ⟨trail, htrail, hlast⟩ := ih child hchild hchild hinner
      refine ⟨part :: trail, ⟨hpart, htrail⟩, ?_⟩
      rw [List.getLast?_cons, hlast]
      rfl

theorem IsTrail.mem_subtree (h : IsTrail parts trail) (hlast : trail.getLast? = some last) :
    last ∈ parts.flatMap Part.subtree := by
  induction trail generalizing parts with
  | nil => cases hlast
  | cons part trail ih =>
    refine List.mem_flatMap.mpr ⟨part, h.1, ?_⟩
    rw [Part.subtree_eq]
    cases trail with
    | nil =>
      obtain rfl := Option.some.inj hlast
      exact List.mem_cons_self
    | cons child trail =>
      rw [List.getLast?_cons_cons] at hlast
      exact List.mem_cons_of_mem _ (ih h.2 hlast)

/-- The tree of a program consists of what its trails lead to. -/
theorem mem_tree_iff {p : Program} :
    part ∈ p.tree ↔ ∃ trail, IsTrail p.parts trail ∧ trail.getLast? = some part := by
  constructor
  · intro h
    obtain ⟨top, htop, hpart⟩ := List.mem_flatMap.mp h
    exact exists_trail_of_mem_subtree top htop hpart
  · rintro ⟨trail, htrail, hlast⟩
    exact htrail.mem_subtree hlast

/-- The statements that follow another one are at the ends of the trails to such a part. -/
theorem mem_followers_iff {p : Program} {stmt : Stmt} :
    stmt ∈ p.followers ↔ ∃ trail part, IsTrail p.parts trail ∧ trail.getLast? = some part ∧
      part.follower? = some stmt := by
  have htop : p.items.tail.filterMap itemStmt? = followersAmong p.parts := by
    rw [Program.parts, followersAmong_moduleItemsParts, if_neg Bool.false_ne_true]
  rw [Program.followers, htop, List.mem_append, List.mem_flatMap]
  constructor
  · rintro (hstmt | ⟨above, habove, hstmt⟩)
    · obtain ⟨part, hpart, hfollower⟩ := List.mem_filterMap.mp hstmt
      exact ⟨[part], part, ⟨hpart, trivial⟩, rfl, hfollower⟩
    · rw [← followersAmong_parts] at hstmt
      obtain ⟨part, hpart, hfollower⟩ := List.mem_filterMap.mp hstmt
      obtain ⟨trail, htrail, hlast⟩ := mem_tree_iff.mp habove
      exact ⟨trail ++ [part], part, htrail.concat hlast hpart, List.getLast?_concat, hfollower⟩
  · rintro ⟨trail, part, htrail, hlast, hfollower⟩
    rcases htrail.mem_or_exists hlast with hpart | ⟨front, above, hfront, habove, hpart⟩
    · exact .inl (List.mem_filterMap.mpr ⟨part, hpart, hfollower⟩)
    · refine .inr ⟨above, mem_tree_iff.mpr ⟨front, hfront, habove⟩, ?_⟩
      rw [← followersAmong_parts]
      exact List.mem_filterMap.mpr ⟨part, hpart, hfollower⟩

end Trails

/-! ## What is seen of the beginning of a statement -/

section Heads

variable {s : Surroundings} {part child : Part} {start : Nat}

@[simp]
theorem head_foldl_inside (scopes : List Scope) (s : Surroundings) :
    (scopes.foldl Surroundings.inside s).head = s.head := by
  induction scopes generalizing s with
  | nil => rfl
  | cons scope scopes ih => exact ih (s.inside scope)

theorem headOf_eq_some_iff {followsAnother : Bool} {stmt : Stmt} :
    headOf followsAnother stmt = some start ↔ followsAnother = true ∧ ∃ value, stmt = .expr start value := by
  cases stmt <;> cases followsAnother <;> simp [headOf]

/-- A statement of a list decides what is seen from within it. -/
theorem head_toward_of_listed {followsAnother : Bool} {stmt : Stmt}
    (hlisted : part.listed = some followsAnother) (hnode : part.node = .stmt stmt) :
    (s.toward part).head = headOf followsAnother stmt := by
  unfold Surroundings.toward
  rw [hlisted, hnode]
  cases stmt <;> rfl

/-- Any other part leaves it as it is. -/
theorem head_toward_of_not_listed (h : part.listed = none ∨ part.node.isStmt = false) :
    (s.toward part).head = s.head := by
  obtain ⟨node, position, opened, listed⟩ := part
  rcases h with rfl | hnode
  · simp [Surroundings.toward]
  · cases node with
    | stmt stmt => cases hnode
    | _ => cases listed <;> simp [Surroundings.toward]

/-- The three kinds of step down a tree, as far as statements go. -/
theorem statement_cases (part : Part) :
    (∃ followsAnother stmt, part.listed = some followsAnother ∧ part.node = .stmt stmt) ∨
      (part.listed = none ∧ part.node.isStmt = true) ∨ part.node.isStmt = false := by
  obtain ⟨node, position, opened, listed⟩ := part
  cases node with
  | stmt stmt => cases listed <;> simp [Node.isStmt]
  | _ => simp [Node.isStmt]

/-- The beginning of a statement is seen from within the expression alone. -/
def HeadInline (s : Surroundings) (part : Part) : Prop := s.head ≠ none → part.node.inline = true

/-- From an expression no single statement is reached that is not in a list. -/
theorem listed_ne_none_of_inline (h : part.node.inline = true) (hchild : child ∈ part.parts)
    (hstmt : child.node.isStmt = true) : child.listed ≠ none := by
  rcases inExpr_or_listed_of_inline h hchild with hexpr | ⟨_, follows, _, -, hlisted, -⟩
  · rw [Node.isStmt_of_inExpr hexpr] at hstmt
    cases hstmt
  · simp [hlisted]

/-- One step down a tree. -/
theorem HeadInline.toward (h : HeadInline s part) (hchild : child ∈ part.parts) :
    HeadInline (s.toward child) child := by
  intro hhead
  rcases statement_cases child with ⟨follows, stmt, hlisted, hnode⟩ | ⟨hlisted, hstmt⟩ | hstmt
  · -- what is seen is the beginning of the statement itself, so it is an expression
    rw [head_toward_of_listed hlisted hnode] at hhead
    obtain ⟨start, hstart⟩ := Option.ne_none_iff_exists'.mp hhead
    obtain ⟨-, value, rfl⟩ := headOf_eq_some_iff.mp hstart
    rw [hnode]
    rfl
  · -- a body that is in no list is not reached from an expression
    rw [head_toward_of_not_listed (.inl hlisted)] at hhead
    exact absurd hlisted (listed_ne_none_of_inline (h hhead) hchild hstmt)
  · rw [head_toward_of_not_listed (.inr hstmt)] at hhead
    rcases inExpr_or_listed_of_inline (h hhead) hchild with hexpr | ⟨_, _, stmt, -, -, hnode⟩
    · exact Node.inline_of_inExpr hexpr
    · rw [hnode] at hstmt
      cases hstmt

/-- What is seen at the end of a trail is what the innermost statement of a list on it set, or, without a
statement on it, what was seen at its beginning. Induction on the trail, where `HeadInline` rules out that a
beginning is seen from within a statement that stands in no list. -/
theorem head_along_cases {trail : List Part} (h : HeadInline s part) (htrail : IsTrail part.parts trail)
    (hhead : (s.along trail).head = some start) :
    (s.head = some start ∧ ∀ further ∈ trail, further.node.isStmt = false) ∨
      ∃ outer stmt inner value, trail = outer ++ stmt :: inner ∧
        stmt.follower? = some (.expr start value) ∧ ∀ further ∈ inner, further.node.isStmt = false := by
  induction trail generalizing s part with
  | nil => exact .inl ⟨hhead, by simp⟩
  | cons child trail ih =>
    obtain ⟨hchild, htrail⟩ := htrail
    rcases ih (h.toward hchild) htrail hhead with ⟨hseen, hinner⟩ | ⟨outer, stmt, inner, value, rfl, hstmt⟩
    · rcases statement_cases child with ⟨follows, stmt, hlisted, hnode⟩ | ⟨hlisted, hstmt⟩ | hstmt
      · rw [head_toward_of_listed hlisted hnode] at hseen
        obtain ⟨rfl, value, rfl⟩ := headOf_eq_some_iff.mp hseen
        exact .inr ⟨[], child, trail, value, rfl, Part.follower?_eq_some_iff.mpr ⟨hlisted, hnode⟩, hinner⟩
      · rw [head_toward_of_not_listed (.inl hlisted)] at hseen
        have hinline := h (by simp [hseen])
        exact absurd hlisted (listed_ne_none_of_inline hinline hchild hstmt)
      · rw [head_toward_of_not_listed (.inr hstmt)] at hseen
        exact .inl ⟨hseen, List.forall_mem_cons.mpr ⟨hstmt, hinner⟩⟩
    · exact .inr ⟨child :: outer, stmt, inner, value, rfl, hstmt⟩

theorem head_along_of_not_stmt {inner : List Part} (h : ∀ further ∈ inner, further.node.isStmt = false) :
    (s.along inner).head = s.head := by
  induction inner generalizing s with
  | nil => rfl
  | cons child inner ih =>
    rw [List.forall_mem_cons] at h
    exact (ih h.2).trans (head_toward_of_not_listed (.inr h.1))

/-- The innermost statement on the way decides what is seen: it has to be an expression that follows another
statement in its list. -/
theorem head_along_eq_some_iff {p : Program} {trail : List Part} (htrail : IsTrail p.parts trail) :
    (p.surroundings.along trail).head = some start ↔
      ∃ outer stmt inner value, trail = outer ++ stmt :: inner ∧
        stmt.follower? = some (.expr start value) ∧ ∀ further ∈ inner, further.node.isStmt = false := by
  constructor
  · intro hhead
    -- nothing is seen at the top, where the items stand as in a namespace
    have htop : HeadInline p.surroundings (.of (.decl (.space p.items))) := fun h => absurd rfl h
    rcases head_along_cases htop htrail hhead with ⟨hseen, -⟩ | hfound
    · cases hseen
    · exact hfound
  · rintro ⟨outer, stmt, inner, value, rfl, hstmt, hinner⟩
    obtain ⟨hlisted, hnode⟩ := Part.follower?_eq_some_iff.mp hstmt
    have hsplit : p.surroundings.along (outer ++ stmt :: inner) =
        ((p.surroundings.along outer).toward stmt).along inner := List.foldl_append
    rw [hsplit, head_along_of_not_stmt hinner, head_toward_of_listed hlisted hnode]
    rfl

end Heads

end MapLint.Lint
