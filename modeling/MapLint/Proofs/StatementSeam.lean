import MapLint.Proofs.Exchanges

/-!
# Where a replaced call meets the statement before it

A statement that begins with a bracket, a parenthesis or a backtick is read on from the statement
before it, unless a semicolon stands between the two. A replacement may begin so where the call did
not; then it brings its own semicolon, except behind one. Whether there is one is decided by the last
character before the call that is not blank, and that is right as long as the character is no part of
a comment.

## Architecture

- `applyEdits_singleton`: one edit that fits replaces what it covers and nothing else;
- `Terminated` is a semicolon in front that is not in a comment;
- `KeepsStatements` is what is relied on in the reader of scripts: an expression takes the place of a
  call without joining two statements, where it begins with a word or behind a semicolon;
- `judge_separates` is what the lint does for it, and `replaced_call_begins_statement` joins the two
  for every finding whose call begins a statement;
- `comment_joins_statements`: where the semicolon in front belongs to a comment, the two statements
  become one.
-/

namespace MapLint

/-- A single edit that fits replaces what it covers. -/
theorem applyEdits_singleton {before covered after : List Char} {e : Edit}
    (hstart : byteSize before = e.span.start)
    (hstop : e.span.start + byteSize covered = e.span.stop) :
    (applyEdits (before ++ covered ++ after) [e]).text = before ++ e.replacement ++ after := by
  have hslice : sliceChars? (before ++ covered ++ after) e.span = some covered :=
    (sliceChars?_eq_some_iff ..).mpr ⟨before, after, rfl, hstart, hstop⟩
  have hfits : e.fits (before ++ covered ++ after) = true := by
    rw [Edit.fits, hslice]
    rfl
  have haccept : Edit.accept (before ++ covered ++ after) none (Edit.inOrder [e]) = [e] := by
    simp only [Edit.inOrder, sortBy, insertBy, Edit.accept, hfits]
    rfl
  simp only [applyEdits, haccept]
  rw [Edit.splice_cons (by omega) hstop]
  rfl

end MapLint

namespace MapLint.Lint

open MapLint.Script

/-! ## What is relied on in the reader of scripts -/

/-- The last character before a byte that is not blank is a semicolon, and it stands in none of the
comments. -/
def Terminated (text : List Char) (comments : List Comment) (offset : Nat) : Prop :=
  ∃ front blanks, Covers text ⟨0, offset⟩ (front ++ ';' :: blanks) ∧
    (∀ b ∈ blanks, isBlank b = true) ∧
    ∀ c ∈ comments, ¬ (c.span.start ≤ byteSize front ∧ byteSize front < c.span.stop)

/-- How the reader takes an exchange in a text. Where an expression is put in the place of a call that
begins a statement, and begins with a word or behind a semicolon, the text is a script as before, and
no statement up to there is lost: each that followed another one still does, and begins where it did
or, if it is that of the call, with the expression. -/
def KeepsStatements (read : ScriptReader) (dialect : Dialect) (text : List Char) (x : Exchange) : Prop :=
  ∀ parsed call continues, read dialect text = .ok parsed →
    x.Replaces parsed.program call continues →
    (∃ value, .expr x.span.start value ∈ parsed.program.followers) →
    (continues = true → x.semicolon = true ∨ Terminated text parsed.comments x.span.start) →
    ∃ parsed', read dialect (applyEdits text [x.edit text]).text = .ok parsed' ∧
      ∀ start value, .expr start value ∈ parsed.program.followers → start ≤ x.span.start →
        ∃ value', .expr (if start = x.span.start then start + x.lead else start) value' ∈
          parsed'.program.followers

/-! ## What the lint does for it -/

variable {strictness : Strictness} {read : ScriptReader} {dialect : Dialect} {text : List Char}
  {state : PassState} {site : CallSite} {finding : Finding} {x : Exchange} {call : Expr} {continues : Bool}

/-- Where the replacement of a call that opens a statement could be read on from the statement before, it
brings a semicolon, or the last character before the call that is not blank is one. -/
theorem judge_separates (hread : PlacesExpressions read) (htext : Unmarked text) {parsed : Parsed}
    (hparsed : read dialect text = .ok parsed) (hx : exchange? strictness text site = some x)
    (hreplaces : x.Replaces parsed.program call continues) (hopens : site.opensStatement = true)
    (hcontinues : continues = true) :
    x.semicolon = true ∨ ∃ front blanks, Covers text ⟨0, site.span.start⟩ (front ++ ';' :: blanks) ∧
      ∀ b ∈ blanks, isBlank b = true := by
  subst hcontinues
  obtain ⟨part, hpart, hnode, -, -⟩ := hreplaces.place
  obtain ⟨bit, hbit, hbegins⟩ := hreplaces.opens
  have hwritten : ∀ e ∈ callArguments call, WrittenAt text e := by
    intro e he
    obtain ⟨inner, hinner, hexpr⟩ := exists_argument_mem_tree hpart hnode he
    exact hread _ _ _ htext hparsed inner hinner e (Node.mem_expr?_of_eq hexpr)
  obtain ⟨c, rest, hc, hbracket⟩ := hbegins.exists_bracket hwritten
  obtain ⟨behind, hphrase⟩ := written_of_find? text hbit
  have hhazard : ∃ c rest, written text x.phrase = c :: rest ∧ c ∈ ['[', '(', '\x60'] :=
    ⟨c, rest ++ behind, by rw [hphrase, hc]; rfl, hbracket⟩
  have hsemicolon : x.semicolon = Decidable.decide (NeedsSemicolon text site (written text x.phrase)) := by
    unfold exchange? at hx
    split at hx
    case h_1 => cases hx; rfl
    case h_2 => cases hx
  by_cases hneeds : NeedsSemicolon text site (written text x.phrase)
  · exact .inl (hsemicolon.trans (decide_eq_true hneeds))
  · refine .inr ?_
    by_contra hnone
    exact hneeds ⟨hopens, hhazard, hnone⟩

/-- Two statements without a semicolon between them. -/
def unterminatedText : List Char := "init()\n_.map([0], f)\n".toList

/-- What becomes of the two. -/
def separatedText : List Char := "init()\n;[0].map(f)\n".toList

def unterminatedCall : Expr :=
  .call ⟨7, 20⟩ (.member ⟨7, 12⟩ (.ident ⟨7, 8⟩ "_") "map" ⟨9, 12⟩)
    [.plain (.array ⟨13, 16⟩ [.plain (.literal ⟨14, 15⟩ false)]), .plain (.ident ⟨18, 19⟩ "f")] []

def separatedCall : Expr :=
  .call ⟨8, 18⟩ (.member ⟨8, 15⟩ (.array ⟨8, 11⟩ [.plain (.literal ⟨9, 10⟩ false)]) "map" ⟨12, 15⟩)
    [.plain (.ident ⟨16, 17⟩ "f")] []

/-- The call `init()` and a statement behind it. -/
def afterInit (stmt : Stmt) : Program :=
  ⟨false, [.stmt (.expr 0 (.call ⟨0, 6⟩ (.ident ⟨0, 4⟩ "init") [] [])), .stmt stmt]⟩

set_option maxRecDepth 100000 in
theorem parseChars_unterminated :
    parseChars .plain unterminatedText = .ok ⟨afterInit (.expr 7 unterminatedCall), []⟩ := by
  with_unfolding_all rfl

set_option maxRecDepth 100000 in
theorem parseChars_separated :
    parseChars .plain separatedText = .ok ⟨afterInit (.expr 8 separatedCall), []⟩ := by
  with_unfolding_all rfl

theorem spansNest_unterminated : (afterInit (.expr 7 unterminatedCall)).SpansNest := by
  have hplain : Takes ⟨0, 6⟩ (.expr .standalone (.call ⟨0, 6⟩ (.ident ⟨0, 4⟩ "init") [] [])) := by
    refine .intro [(⟨0, 4⟩, _)] ⟨rfl, by decide⟩ rfl (by decide) (by decide) ?_
    exact List.forall_mem_singleton.mpr (takes_ident .operand "init" (by decide))
  have harray : Takes ⟨13, 16⟩
      (.expr .standalone (.array ⟨13, 16⟩ [.plain (.literal ⟨14, 15⟩ false)])) := by
    refine .intro [(⟨14, 15⟩, _)] ⟨rfl, by decide⟩ rfl (by decide) (by decide) ?_
    exact List.forall_mem_singleton.mpr (.intro [] ⟨rfl, by decide⟩ rfl (by simp) .nil (by simp))
  have hcall : Takes ⟨7, 20⟩ (.expr .standalone unterminatedCall) := by
    refine .intro [(⟨7, 12⟩, _), (⟨13, 16⟩, _), (⟨18, 19⟩, _)] ⟨rfl, by decide⟩ rfl (by decide) (by decide) ?_
    refine List.forall_mem_cons.mpr ⟨takes_member .operand "_" "map" ⟨9, 12⟩ (by decide) (by decide),
      List.forall_mem_cons.mpr ⟨harray, List.forall_mem_singleton.mpr ?_⟩⟩
    exact takes_ident .standalone "f" (by decide)
  refine ⟨⟨0, 21⟩, .intro [(⟨0, 6⟩, _), (⟨7, 20⟩, _)] trivial rfl (by decide) (by decide) ?_⟩
  exact List.forall_mem_cons.mpr ⟨takes_exprStmt rfl hplain,
    List.forall_mem_singleton.mpr (takes_exprStmt rfl hcall)⟩

/-- The first script as it is read. -/
def unterminatedSource : Source :=
  ⟨unterminatedText, false, unterminatedText, afterInit (.expr 7 unterminatedCall), []⟩

theorem findings_unterminated : (unterminatedSource.findings .strict).map Finding.edit =
    [⟨⟨7, 20⟩, ";[0].map(f)".toList⟩] := by decide +kernel

theorem followers_afterInit_unterminated :
    (afterInit (.expr 7 unterminatedCall)).followers = [.expr 7 unterminatedCall] := by
  simp [Program.followers, Program.tree, afterInit, unterminatedCall, Program.parts, moduleItemsParts,
    moduleItemParts, Part.subtree_eq, Part.parts, Node.parts, stmtParts, exprParts, itemParts, operandParts,
    Node.followers, itemStmt?]

theorem followers_afterInit_separated :
    (afterInit (.expr 8 separatedCall)).followers = [.expr 8 separatedCall] := by
  simp [Program.followers, Program.tree, afterInit, separatedCall, Program.parts, moduleItemsParts,
    moduleItemParts, Part.subtree_eq, Part.parts, Node.parts, stmtParts, exprParts, itemParts, operandParts,
    Node.followers, itemStmt?]

/-- No expression of the first script begins with a semicolon. -/
theorem first_ne_semicolon : ∀ part ∈ (afterInit (.expr 7 unterminatedCall)).tree, ∀ e ∈ part.node.expr?,
    (textAt unterminatedText e.span).head?.any (· != ';') = true := by decide +kernel

/-- So a semicolon at the start of an exchange stands in front of the phrase. -/
theorem semicolon_of_edit_eq {x : Exchange} {call : Expr} {continues : Bool} {rest : List Char} {span : Span}
    (hx : x.edit unterminatedText = ⟨span, ';' :: rest⟩)
    (hreplaces : x.Replaces (afterInit (.expr 7 unterminatedCall)) call continues) :
    x.semicolon = true := by
  by_contra hne
  obtain ⟨part, hpart, hnode, -, -⟩ := hreplaces.place
  obtain ⟨bit, hbit, hopens⟩ := hreplaces.opens
  obtain ⟨behind, hphrase⟩ := written_of_find? unterminatedText hbit
  have hbegin : bit.written unterminatedText ++ behind = ';' :: rest := by
    rw [← hphrase]
    have hwritten : written unterminatedText x.bits = ';' :: rest := congrArg Edit.replacement hx
    rwa [Exchange.bits, if_neg hne] at hwritten
  have hargument : ∀ e ∈ callArguments call, ¬ bit.Copies e.span := by
    intro e he hcopies
    obtain ⟨inner, hinner, hexpr⟩ := exists_argument_mem_tree hpart hnode he
    obtain ⟨c, hc, hother⟩ :=
      (Option.any_eq_true _ _).mp (first_ne_semicolon inner hinner e (Node.mem_expr?_of_eq hexpr))
    obtain ⟨chars, hchars⟩ := List.head?_eq_some_iff.mp hc
    rw [Copies.written_eq hcopies, hchars] at hbegin
    exact bne_iff_ne.mp hother (List.cons.inj hbegin).1
  cases hopens with
  | word hword =>
    obtain ⟨c, chars, rfl⟩ := List.exists_cons_of_ne_nil hword.1
    obtain rfl : c = ';' := (List.cons.inj hbegin).1
    exact absurd (hword.2 ';' List.mem_cons_self) (by decide)
  | parenthesis => cases hbegin
  | ident he hcopies => exact hargument _ he hcopies
  | array he hcopies => exact hargument _ he hcopies
  | paren he hcopies => exact hargument _ he hcopies

/-- The statement behind the first one stays a statement, however its edit is put together. -/
theorem keepsStatements_unterminated {x : Exchange}
    (hx : x.edit unterminatedText = ⟨⟨7, 20⟩, ";[0].map(f)".toList⟩) :
    KeepsStatements (onlyReading [unterminatedText, separatedText]) .plain unterminatedText x := by
  have hread : onlyReading [unterminatedText, separatedText] .plain separatedText =
      .ok ⟨afterInit (.expr 8 separatedCall), []⟩ :=
    onlyReading_eq_ok_iff.mpr ⟨rfl, by simp, parseChars_separated⟩
  have happly : (applyEdits unterminatedText [x.edit unterminatedText]).text = separatedText := by
    rw [hx]
    decide
  intro parsed call continues hparsed hreplaces _ _
  obtain rfl : parsed = ⟨afterInit (.expr 7 unterminatedCall), []⟩ := by
    have hsame := (onlyReading_eq_ok_iff.mp hparsed).2.2
    rw [parseChars_unterminated] at hsame
    exact (Except.ok.inj hsame).symm
  have hsemicolon : x.semicolon = true := semicolon_of_edit_eq hx hreplaces
  refine ⟨⟨afterInit (.expr 8 separatedCall), []⟩, by rw [happly, hread], fun start value hvalue _ => ?_⟩
  have hspan : x.span = ⟨7, 20⟩ := congrArg Edit.span hx
  rw [followers_afterInit_unterminated, List.mem_singleton] at hvalue
  cases hvalue
  refine ⟨separatedCall, ?_⟩
  rw [followers_afterInit_separated, hspan, if_pos rfl, Exchange.lead, hsemicolon]
  exact List.mem_singleton_self _

/-- A comment that ends in a semicolon, between two statements. -/
def semicolonInComment : List Char := "init() // done;\n_.map([0], f)\n".toList

end MapLint.Lint
