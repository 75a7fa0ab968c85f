import MapLint.Proofs.EditSplicing
import MapLint.Proofs.FindingSpec
import MapLint.Proofs.RepairFixpoint
import MapLint.Proofs.StatementStarts

/-!
# What is written in the place of a call

A replacement is made of stretches of the call that it replaces and of some characters of its own. Said in
this way, it tells what becomes of every stretch of the old text, and it can be held against the grammar of
expressions. The grammar is told here without the walk and without the lint: what is put in the place of a
call is an expression again, of a kind that may stand where the call stood.

## Architecture

- `Bit` is a piece of a text that is made from another one, `Exchange` a call with the bits that take its place,
  and `layout` the bits of a whole text; `written_layout_of_assemble?` says that it is the text with the edits
  made in it;
- `Phrase` is the grammar, `Opens` says how a phrase begins, and `Exchange.Replaces` joins the two with the
  place of the call;
- `exchange?` is the exchange for a call, `exists_exchange_of_judge` ties it to the edit of a finding, and
  `replaces_of_judge` is what the judgement on a call is good for: the exchange keeps to the grammar;
- `PlacesExpressions` is what is relied on in the reader of scripts: an expression is written where its span
  says.
-/

namespace MapLint

/-! ## Texts made from other texts -/

/-- A piece of a text that is made from another one. -/
inductive Bit where
  /-- Characters that are not taken from the old text. -/
  | own (chars : List Char)
  /-- A stretch of the old text, written here besides the place where it is kept. -/
  | again (span : Span)
  /-- A stretch of the old text that is kept. -/
  | kept (span : Span)
  /-- A stretch of the old text that is left out. -/
  | dropped (span : Span)
deriving DecidableEq

/-- The characters that a span covers, or none if it covers nothing. -/
def textAt (text : List Char) (span : Span) : List Char := (sliceChars? text span).getD []

theorem textAt_of_covers {text covered : List Char} {span : Span} (h : Covers text span covered) :
    textAt text span = covered := by
  rw [textAt, sliceChars?_eq_some_iff_covers.mpr h]
  rfl

theorem exists_slice_of_mem_head? {text : List Char} {span : Span} {c : Char}
    (h : c ∈ (textAt text span).head?) : ∃ cs, sliceChars? text span = some (c :: cs) := by
  obtain ⟨cs, hcs⟩ := List.head?_eq_some_iff.mp h
  cases hslice : sliceChars? text span with
  | none =>
    rw [textAt, hslice] at hcs
    cases hcs
  | some chars =>
    rw [textAt, hslice] at hcs
    exact ⟨cs, congrArg some hcs⟩

namespace Bit

/-- What is written in the new text. -/
def written (text : List Char) : Bit → List Char
  | own chars => chars
  | again span => textAt text span
  | kept span => textAt text span
  | dropped _ => []

/-- The bit shows in the new text. -/
def shows : Bit → Bool
  | dropped _ => false
  | _ => true

/-- The bit brings a stretch of the old text into the new one. -/
inductive Copies (span : Span) : Bit → Prop where
  | kept : Copies span (.kept span)
  | again : Copies span (.again span)

end Bit

/-- The new text. -/
def written (text : List Char) (bits : List Bit) : List Char := bits.flatMap (Bit.written text)

section Written

variable {text : List Char} {bits others : List Bit}

@[simp]
theorem written_nil : written text [] = [] := rfl

@[simp]
theorem written_cons (bit : Bit) : written text (bit :: bits) = bit.written text ++ written text bits := rfl

@[simp]
theorem written_append : written text (bits ++ others) = written text bits ++ written text others :=
  List.flatMap_append

end Written

/-- What takes the place of a stretch of a text. -/
structure Exchange where
  span : Span
  /-- A semicolon is put in front. -/
  semicolon : Bool
  phrase : List Bit
deriving DecidableEq

namespace Exchange

/-- All that is written in the place of the stretch. -/
def bits (x : Exchange) : List Bit := if x.semicolon then .own [';'] :: x.phrase else x.phrase

theorem eq_or_mem_of_mem_bits {x : Exchange} {bit : Bit} (h : bit ∈ x.bits) :
    bit = .own [';'] ∨ bit ∈ x.phrase := by
  unfold bits at h
  split at h
  · exact List.mem_cons.mp h
  · exact .inr h

/-- The exchange as an edit of the text. -/
def edit (text : List Char) (x : Exchange) : Edit := ⟨x.span, written text x.bits⟩

/-- The number of characters in front of the phrase. -/
def lead (x : Exchange) : Nat := if x.semicolon then 1 else 0

theorem replacement_edit (text : List Char) (x : Exchange) :
    (x.edit text).replacement = (if x.semicolon then [';'] else []) ++ MapLint.written text x.phrase := by
  cases hsemicolon : x.semicolon <;> simp [edit, bits, hsemicolon, Bit.written]

theorem byteSize_lead (x : Exchange) : byteSize (if x.semicolon then [';'] else []) = x.lead := by
  unfold lead
  split <;> rfl

end Exchange

/-- The bits of a whole text from byte `cursor` on, with the exchanges made in it; `stop` is its end. -/
def layout (stop cursor : Nat) : List Exchange → List Bit
  | [] => [.kept ⟨cursor, stop⟩]
  | x :: xs => .kept ⟨cursor, x.span.start⟩ :: (x.bits ++ layout stop x.span.stop xs)

/-- The bits of a text with exchanges made in it are the text with the edits made in it. -/
theorem written_layout_of_assemble? {text result : List Char} {cursor : Nat} {xs : List Exchange}
    (h : Edit.assemble? text cursor (xs.map (Exchange.edit text)) = some result) :
    written text (layout (byteSize text) cursor xs) = result := by
  induction xs generalizing cursor result with
  | nil =>
    have hslice : sliceChars? text ⟨cursor, byteSize text⟩ = some result := h
    simp [layout, Bit.written, textAt, hslice]
  | cons x xs ih =>
    simp only [List.map_cons, Edit.assemble?, Option.bind_eq_bind, Option.bind_eq_some_iff,
      Option.some.injEq] at h
    obtain ⟨gap, hgap, rest, hrest, rfl⟩ := h
    have hslice : sliceChars? text ⟨cursor, x.span.start⟩ = some gap := hgap
    have hbehind : written text (layout (byteSize text) x.span.stop xs) = rest := ih hrest
    simp [layout, Bit.written, textAt, hslice, hbehind, Exchange.edit]

end MapLint

namespace MapLint.Lint

open MapLint.Script

/-! ## The grammar of what is written -/

/-- A property or an argument list can be written right behind the expression. -/
def takesSuffix : Expr → Bool
  | .ident _ _ => true
  | .this _ => true
  | .literal _ isText => isText
  | .array _ _ => true
  | .object _ _ => true
  | .function _ _ _ => true
  | .classValue _ _ _ => true
  | .member _ _ _ _ => true
  | .call _ _ _ _ => true
  | .paren _ _ => true
  | .compound _ form _ _ _ =>
    form ∈ [.template, .taggedTemplate, .computedMember, .superMember, .specialCall, .metaProperty]
  | _ => false

/-- Where a phrase may stand. -/
inductive Rank where
  /-- In front of a property or of an argument list, and wherever else an expression may stand. -/
  | head
  /-- Where a whole expression may stand. -/
  | whole
  /-- Between parentheses. -/
  | enclosed
deriving DecidableEq

/-- A word of letters. -/
def IsWord (chars : List Char) : Prop := chars ≠ [] ∧ ∀ c ∈ chars, c.isAlpha = true

instance (chars : List Char) : Decidable (IsWord chars) :=
  decidable_of_iff (chars ≠ [] ∧ chars.all Char.isAlpha = true) (by simp [IsWord])

/-- The bits are an expression of this rank, in which the call and its arguments may occur as they are
written. What is left out shows nowhere. -/
inductive Phrase (call : Expr) : Rank → List Bit → Prop where
  | part {e : Expr} {bit : Bit} (he : e ∈ call :: callArguments call) (hbit : bit.Copies e.span) :
      Phrase call (if takesSuffix e then .head else .enclosed) [bit]
  | name {word : List Char} (hword : IsWord word) : Phrase call .head [.own word]
  | parens {rank : Rank} {bits : List Bit} (inner : Phrase call rank bits) :
      Phrase call .head (.own ['('] :: bits ++ [.own [')']])
  | property {bits : List Bit} {word : List Char} (object : Phrase call .head bits) (hword : IsWord word) :
      Phrase call .head (bits ++ [.own ('.' :: word)])
  | apply {rank : Rank} {callee argument : List Bit} (function : Phrase call .head callee)
      (value : Phrase call rank argument) :
      Phrase call .head (callee ++ .own ['('] :: argument ++ [.own [')']])
  | choice {test yes no : List Bit} (first : Phrase call .head test) (second : Phrase call .head yes)
      (third : Phrase call .head no) :
      Phrase call .whole (test ++ .own " ? ".toList :: yes ++ .own " : ".toList :: no)
  | gap {rank : Rank} {front back : List Bit} {span : Span} (around : Phrase call rank (front ++ back)) :
      Phrase call rank (front ++ .dropped span :: back)

/-- How a phrase begins that has this bit in front, and whether it could be read on from a statement before
it. A word or a variable could not; a bracket could, be it the phrase's own or that of an argument. -/
inductive Opens (call : Expr) : (continues : Bool) → Bit → Prop where
  | word {chars : List Char} (h : IsWord chars) : Opens call false (.own chars)
  | ident {span : Span} {name : String} {bit : Bit} (h : .ident span name ∈ callArguments call)
      (hbit : bit.Copies span) : Opens call false bit
  | parenthesis : Opens call true (.own ['('])
  | array {span : Span} {items : List Item} {bit : Bit} (h : .array span items ∈ callArguments call)
      (hbit : bit.Copies span) : Opens call true bit
  | paren {span : Span} {inner : Expr} {bit : Bit} (h : .paren span inner ∈ callArguments call)
      (hbit : bit.Copies span) : Opens call true bit

end MapLint.Lint

namespace MapLint.Exchange

open MapLint.Script MapLint.Lint

/-- The exchange puts an expression in the place of a call, and one that may stand there. A semicolon comes
in front only where a statement begins that follows another one. -/
structure Replaces (x : Exchange) (p : Program) (call : Expr) (continues : Bool) : Prop where
  span : call.span = x.span
  isCall : ∃ span callee args types, call = .call span callee args types
  place : ∃ part ∈ p.tree, part.node = .expr call ∧ part.position ≠ .condition ∧
    ∃ rank, Phrase call rank x.phrase ∧ rank ≠ .enclosed ∧ (part.position = .operand → rank = .head)
  opens : ∃ bit, x.phrase.find? Bit.shows = some bit ∧ Opens call continues bit
  semicolon : x.semicolon = true → ∃ value, .expr x.span.start value ∈ p.followers

end MapLint.Exchange

namespace MapLint.Lint

open MapLint.Script

/-! ## The exchange for a call -/

/-- The bits of the method call on the first argument. -/
def methodBits (memberSafe : Bool) (first second : List Bit) : List Bit :=
  ((if memberSafe then first else .own ['('] :: first ++ [.own [')']]) ++
    [.own ('.' :: targetMethod.toList)]) ++ .own ['('] :: second ++ [.own [')']]

/-- The bits of the choice between the method call and the call as it was. -/
def choiceBits (site : CallSite) (sequence callback : Argument) : List Bit :=
  (([.own "Array".toList] ++ [.own ".isArray".toList]) ++ .own ['('] :: [.again sequence.span] ++
      [.own [')']]) ++
    .own " ? ".toList :: methodBits sequence.memberSafe [.again sequence.span] [.again callback.span] ++
      .own " : ".toList :: [.kept site.span]

/-- The bits that take the place of a call, without a semicolon in front. A method call keeps both arguments
and leaves out what stands around them; a choice keeps the whole call and writes the arguments again. -/
def phraseFor (site : CallSite) (sequence callback : Argument) : FixAction → List Bit
  | .guarded =>
    if site.position = .operand then .own ['('] :: choiceBits site sequence callback ++ [.own [')']]
    else choiceBits site sequence callback
  | _ =>
    methodBits sequence.memberSafe
      [.dropped ⟨site.span.start, sequence.span.start⟩, .kept sequence.span,
        .dropped ⟨sequence.span.stop, callback.span.start⟩]
      [.kept callback.span, .dropped ⟨callback.span.stop, site.span.stop⟩]

instance {source : List Char} {site : CallSite} {text : List Char} :
    Decidable (NeedsSemicolon source site text) :=
  decidable_of_iff _ needsSemicolon_iff.symm

/-- What takes the place of a call with two arguments. -/
def exchange? (strictness : Strictness) (source : List Char) (site : CallSite) : Option Exchange :=
  match site.arguments with
  | [sequence, callback] =>
    let phrase := phraseFor site sequence callback (classify strictness sequence callback).action
    some ⟨site.span, Decidable.decide (NeedsSemicolon source site (written source phrase)), phrase⟩
  | _ => none

section Exchange

variable {strictness : Strictness} {source text : List Char} {state : PassState} {site : CallSite}
  {finding : Finding} {sequence callback : Argument} {action : FixAction} {x : Exchange}

theorem written_methodBits (first second : List Bit) :
    written source (methodBits sequence.memberSafe first second) =
      nativeCall sequence (written source first) (written source second) := by
  cases hsafe : sequence.memberSafe <;>
    simp [methodBits, nativeCall, parenthesised, hsafe, Bit.written, targetMethod]

/-- The bits come to the text that takes the place of the call. -/
theorem Rewritten.written_phraseFor (h : Rewritten source site sequence callback action text) :
    written source (phraseFor site sequence callback action) = text := by
  rcases h with ⟨hfirst, hsecond⟩ | ⟨hfirst, hsecond, hcall⟩
  · simp [phraseFor, written_methodBits, Bit.written, textAt_of_covers hfirst, textAt_of_covers hsecond]
  · have hchoice : written source (choiceBits site sequence callback) =
        "Array.isArray(".toList ++ textAt source sequence.span ++ ") ? ".toList ++
          nativeCall sequence (textAt source sequence.span) (textAt source callback.span) ++
            " : ".toList ++ textAt source site.span := by
      simp [choiceBits, written_methodBits, Bit.written]
    rw [textAt_of_covers hfirst, textAt_of_covers hsecond, textAt_of_covers hcall] at hchoice
    by_cases hposition : site.position = .operand
    · simp [phraseFor, hposition, hchoice, parenthesised, Bit.written]
    · simp [phraseFor, hposition, hchoice, parenthesised]

/-- The edit of a finding is the exchange of its call. -/
theorem exists_exchange_of_judge (h : judge strictness source state site = .ok finding) :
    ∃ x, exchange? strictness source site = some x ∧ x.edit source = finding.edit := by
  obtain ⟨-, -, -, sequence, callback, text, hargs, -, haction, htext, rfl⟩ := judge_eq_ok_iff.mp h
  have hwritten := ((replacementFor_eq_some_iff haction).mp htext).written_phraseFor
  have hexchange : exchange? strictness source site = some ⟨site.span,
      Decidable.decide (NeedsSemicolon source site text),
      phraseFor site sequence callback (classify strictness sequence callback).action⟩ := by
    simp only [exchange?, hargs, hwritten]
  refine ⟨_, hexchange, ?_⟩
  have hseparated : (NeedsSemicolon source site text → separated source site text = ';' :: text) ∧
      (¬ NeedsSemicolon source site text → separated source site text = text) := eq_separated_iff.mp rfl
  by_cases hneeds : NeedsSemicolon source site text
  · simp [Exchange.edit, Exchange.bits, hneeds, hseparated.1 hneeds, Bit.written, hwritten]
  · simp [Exchange.edit, Exchange.bits, hneeds, hseparated.2 hneeds, hwritten]

/-! ## The exchange keeps to the grammar -/

theorem takesSuffix_of_memberSafe {e : Expr} (h : memberSafe e = true) : takesSuffix e = true := by
  cases e with
  | literal span isText => exact h
  | compound span form operands args types => cases form <;> simp_all [memberSafe, takesSuffix]
  | _ => first | rfl | cases h

/-- An argument is recorded with its span, as it is seen from around the call. -/
theorem exists_expr_of_mem_argumentsOf {scopes : Scopes} {args : List Item} {argument : Argument}
    (h : argument ∈ argumentsOf scopes args) :
    ∃ e ∈ args.filterMap itemValue?, argument.span = e.span ∧
      argument.operand = operandOf scopes e ∧ argument.memberSafe = memberSafe e := by
  obtain ⟨item, hitem, hsome⟩ := List.mem_filterMap.mp h
  cases item with
  | hole => cases hsome
  | plain e =>
    cases hsome
    exact ⟨e, List.mem_filterMap.mpr ⟨_, hitem, rfl⟩, rfl, rfl, rfl⟩
  | spread start e =>
    cases hsome
    exact ⟨e, List.mem_filterMap.mpr ⟨_, hitem, rfl⟩, rfl, rfl, rfl⟩

section Grammar

variable {call e : Expr} {bits first second : List Bit} {rank : Rank}

/-- What is left out around a phrase makes no difference to it. -/
theorem Phrase.between (h : Phrase call rank bits) (before after : Span) :
    Phrase call rank (.dropped before :: bits ++ [.dropped after]) := by
  have hafter : Phrase call rank ([] ++ (bits ++ [.dropped after])) :=
    .gap (by rwa [List.append_nil])
  show Phrase call rank ([] ++ .dropped before :: (bits ++ [.dropped after]))
  exact .gap hafter

theorem Phrase.methodBits {memberSafe : Bool} {rank' : Rank} (hfirst : Phrase call rank first)
    (hrank : memberSafe = true → rank = .head) (hsecond : Phrase call rank' second) :
    Phrase call .head (methodBits memberSafe first second) := by
  have hword : IsWord targetMethod.toList := by decide
  cases memberSafe with
  | true =>
    obtain rfl := hrank rfl
    exact .apply (.property hfirst hword) hsecond
  | false => exact .apply (.property (.parens hfirst) hword) hsecond

end Grammar

/-- A method call without a choice is made only of what is known to be an array. -/
theorem sequenceEvidence_of_unconditional
    (h : (classify strictness sequence callback).action = .unconditional) :
    sequenceEvidence strictness sequence = .literal ∨ sequenceEvidence strictness sequence = .resolved := by
  have htable : Lint.decide strictness (sequenceEvidence strictness sequence) (invocableEvidence callback) =
      .unconditional := h
  cases hsequence : sequenceEvidence strictness sequence with
  | literal => exact .inl rfl
  | resolved => exact .inr rfl
  | unknown =>
    cases strictness <;> cases hcallback : invocableEvidence callback <;>
      simp [Lint.decide, hsequence, hcallback] at htable
  | unlikely =>
    cases hcallback : invocableEvidence callback <;> simp [Lint.decide, hsequence, hcallback] at htable
  | objectLike =>
    cases hcallback : invocableEvidence callback <;> simp [Lint.decide, hsequence, hcallback] at htable

/-- Only an array literal and a variable are known to be arrays. -/
theorem shapeOf_of_sequenceEvidence {e : Expr} {scopes : Scopes}
    (hoperand : sequence.operand = operandOf scopes e)
    (h : sequenceEvidence strictness sequence = .literal ∨
      sequenceEvidence strictness sequence = .resolved) :
    shapeOf e = .sequence ∨ ∃ name, shapeOf e = .reference name := by
  cases hshape : shapeOf e with
  | sequence => exact .inl rfl
  | reference name => exact .inr ⟨name, rfl⟩
  | path => cases strictness <;> simp [sequenceEvidence, hoperand, operandOf, hshape] at h
  | _ => simp [sequenceEvidence, hoperand, operandOf, hshape] at h

/-- What has the shape of an array or of a variable, and can be written without parentheses, is an array literal
or a variable, or has parentheses of its own. -/
theorem opens_of_shape {call e : Expr} {bit : Bit} (he : e ∈ callArguments call) (hbit : bit.Copies e.span)
    (hsafe : memberSafe e = true) (h : shapeOf e = .sequence ∨ ∃ name, shapeOf e = .reference name) :
    ∃ continues, Opens call continues bit := by
  cases e with
  | array span items => exact ⟨true, .array he hbit⟩
  | ident span name => exact ⟨false, .ident he hbit⟩
  | paren span inner => exact ⟨true, .paren he hbit⟩
  | member span object name nameSpan =>
    rw [shapeOf] at h
    split at h <;> simp at h
  | compound span form operands args types =>
    unfold shapeOf at h
    split at h <;> simp_all
  | call => simp [shapeOf] at h
  | this => simp [shapeOf] at h
  | literal => simp [shapeOf] at h
  | _ => cases hsafe

/-- What the judgement on a call knows of the expressions behind its arguments. -/
structure StandsFor (call : Expr) (scopes : Scopes) (argument : Argument) (e : Expr) : Prop where
  mem : e ∈ callArguments call
  span : argument.span = e.span
  operand : argument.operand = operandOf scopes e
  memberSafe : argument.memberSafe = memberSafe e

variable {call first second : Expr} {scopes : Scopes}

/-- An argument as it is written is a phrase. -/
theorem StandsFor.exists_phrase {argument : Argument} {e : Expr} {bit : Bit}
    (h : StandsFor call scopes argument e) (hbit : bit.Copies argument.span) :
    ∃ rank, Phrase call rank [bit] ∧ (argument.memberSafe = true → rank = .head) := by
  refine ⟨_, .part (List.mem_cons_of_mem _ h.mem) (h.span ▸ hbit), fun hsafe => ?_⟩
  rw [if_pos (takesSuffix_of_memberSafe (h.memberSafe.symm.trans hsafe))]

/-- The bits in the place of a call are an expression that may stand there. -/
theorem phrase_phraseFor (hsequence : StandsFor call scopes sequence first)
    (hcallback : StandsFor call scopes callback second) (hcall : takesSuffix call = true)
    (hspan : call.span = site.span) :
    ∃ rank, Phrase call rank (phraseFor site sequence callback action) ∧ rank ≠ .enclosed ∧
      (site.position = .operand → rank = .head) := by
  have hkept : ∀ span, Bit.Copies span (.kept span) := fun _ => .kept
  have hagain : ∀ span, Bit.Copies span (.again span) := fun _ => .again
  by_cases haction : action = .guarded
  · -- the call is kept behind the choice, so its arguments are written again in front of it
    subst haction
    obtain ⟨rank, harg, hhead⟩ := hsequence.exists_phrase (hagain sequence.span)
    obtain ⟨rank', harg', -⟩ := hcallback.exists_phrase (hagain callback.span)
    have hname : Phrase call .head [.own "Array".toList] := .name (by decide)
    have hproperty : Phrase call .head ([.own "Array".toList] ++ [.own ('.' :: "isArray".toList)]) :=
      .property hname (by decide)
    have htest := hproperty.apply harg
    have hwhole : Phrase call .head [.kept site.span] := by
      have hpart : Phrase call (if takesSuffix call then .head else .enclosed) [.kept site.span] :=
        .part List.mem_cons_self (hspan ▸ hkept site.span)
      rwa [if_pos hcall] at hpart
    have hchoice : Phrase call .whole (choiceBits site sequence callback) :=
      .choice htest (harg.methodBits hhead harg') hwhole
    by_cases hoperand : site.position = .operand
    · refine ⟨.head, ?_, by decide, fun _ => rfl⟩
      rw [phraseFor, if_pos hoperand]
      exact .parens hchoice
    · refine ⟨.whole, ?_, by decide, fun h => absurd h hoperand⟩
      rw [phraseFor, if_neg hoperand]
      exact hchoice
  · -- the call is gone, and what stood around its arguments is left out
    obtain ⟨rank, harg, hhead⟩ := hsequence.exists_phrase (hkept sequence.span)
    obtain ⟨rank', harg', -⟩ := hcallback.exists_phrase (hkept callback.span)
    have hsecond : Phrase call rank'
        ([.kept callback.span] ++ [.dropped ⟨callback.span.stop, site.span.stop⟩]) :=
      .gap (by rwa [List.append_nil])
    have hmethod := (harg.between ⟨site.span.start, sequence.span.start⟩
      ⟨sequence.span.stop, callback.span.start⟩).methodBits hhead hsecond
    refine ⟨.head, ?_, by decide, fun _ => rfl⟩
    cases action with
    | guarded => exact absurd rfl haction
    | none => exact hmethod
    | unconditional => exact hmethod

/-- How the bits in the place of a call begin. -/
theorem opens_phraseFor (site : CallSite) (hsequence : StandsFor call scopes sequence first)
    (haction : (classify strictness sequence callback).action ≠ .none) :
    ∃ bit, (phraseFor site sequence callback
        (classify strictness sequence callback).action).find? Bit.shows = some bit ∧
      ∃ continues, Opens call continues bit := by
  cases hclass : (classify strictness sequence callback).action with
  | none => exact absurd hclass haction
  | guarded =>
    by_cases hoperand : site.position = .operand
    · refine ⟨.own ['('], ?_, true, .parenthesis⟩
      rw [phraseFor, if_pos hoperand]
      rfl
    · refine ⟨.own "Array".toList, ?_, false, .word (by decide)⟩
      rw [phraseFor, if_neg hoperand]
      rfl
  | unconditional =>
    cases hsafe : sequence.memberSafe with
    | false =>
      refine ⟨.own ['('], ?_, true, .parenthesis⟩
      simp only [phraseFor, hsafe]
      rfl
    | true =>
      -- a choice would be made of anything else, so this is an array literal or a variable
      refine ⟨.kept sequence.span, ?_, ?_⟩
      · simp only [phraseFor, hsafe]
        rfl
      · have hcopies : (Bit.kept sequence.span).Copies first.span := by
          rw [hsequence.span]
          exact .kept
        have hshape := shapeOf_of_sequenceEvidence hsequence.operand
          (sequenceEvidence_of_unconditional hclass)
        exact opens_of_shape hsequence.mem hcopies (hsequence.memberSafe ▸ hsafe) hshape

/-- The exchange for a call that is found keeps to the grammar. -/
theorem replaces_of_judge {p : Program} (hsite : Event.call site ∈ programEvents p)
    (hjudge : judge strictness source state site = .ok finding)
    (hx : exchange? strictness source site = some x) :
    ∃ call continues, x.Replaces p call continues := by
  obtain ⟨-, -, hposition, sequence, callback, -, hargs, -, haction, -, -⟩ := judge_eq_ok_iff.mp hjudge
  obtain ⟨trail, call, hcall⟩ := call_mem_programEvents_iff.mp hsite
  obtain ⟨htrail, last, hlast, hnode, hown⟩ := hcall
  obtain ⟨span, callee, args, types, hnode', hspan, hseen⟩ := call_mem_ownEvents hown
  obtain rfl : call = .call span callee args types := Node.expr.inj (hnode.symm.trans hnode')
  -- the judgement sees the arguments from the scopes around the call
  have hwritten : ∀ argument ∈ site.arguments, ∃ e,
      StandsFor (.call span callee args types) (p.surroundings.along trail).scopes argument e := by
    intro argument hargument
    rw [hseen] at hargument
    obtain ⟨e, he, hspan, hoperand, hsafe⟩ := exists_expr_of_mem_argumentsOf hargument
    exact ⟨e, he, hspan, hoperand, hsafe⟩
  obtain ⟨first, hfirst⟩ := hwritten sequence (by simp [hargs])
  obtain ⟨second, hsecond⟩ := hwritten callback (by simp [hargs])
  obtain ⟨bit, hbit, continues, hopens⟩ := opens_phraseFor site hfirst haction
  obtain rfl : x = ⟨site.span, _, _⟩ := by simpa [exchange?, hargs] using hx.symm
  refine ⟨.call span callee args types, continues, hspan.symm, ⟨_, _, _, _, rfl⟩,
    ⟨last, ?_, hnode, ?_, ?_⟩, ⟨bit, hbit, hopens⟩, ?_⟩
  · exact mem_tree_iff.mpr ⟨trail, htrail, hlast⟩
  · rwa [← position_of_mem_ownEvents hown]
  · rw [← position_of_mem_ownEvents hown]
    exact phrase_phraseFor hfirst hsecond rfl hspan.symm
  · intro hsemicolon
    have hneeds := of_decide_eq_true hsemicolon
    exact Recorded.mem_followers ⟨htrail, last, hlast, hnode, hown⟩ hneeds.opensStatement

end Exchange

/-! ## What is relied on in the reader of scripts -/

/-- The bracket in which an expression is written. -/
def bracket? : Expr → Option Char
  | .array _ _ => some '['
  | .paren _ _ => some '('
  | _ => none

/-- The text has the expression where its span says, from the first token of the expression to the last, and
the arguments of a call follow each other in there. -/
structure WrittenAt (body : List Char) (e : Expr) : Prop where
  first : ∃ c ∈ (textAt body e.span).head?, isBlank c = false ∧ ∀ b ∈ bracket? e, c = b
  last : ∃ c ∈ (textAt body e.span).getLast?, isBlank c = false
  arguments : (e.span.start :: (callArguments e).flatMap (fun arg => [arg.span.start, arg.span.stop]) ++
    [e.span.stop]).Pairwise (· ≤ ·)

theorem writtenAt_iff {body : List Char} {e : Expr} : WrittenAt body e ↔
    (∃ c ∈ (textAt body e.span).head?, isBlank c = false ∧ ∀ b ∈ bracket? e, c = b) ∧
      (∃ c ∈ (textAt body e.span).getLast?, isBlank c = false) ∧
      (e.span.start :: (callArguments e).flatMap (fun arg => [arg.span.start, arg.span.stop]) ++
        [e.span.stop]).Pairwise (· ≤ ·) :=
  ⟨fun h => ⟨h.first, h.last, h.arguments⟩, fun h => ⟨h.1, h.2.1, h.2.2⟩⟩

instance (body : List Char) (e : Expr) : Decidable (WrittenAt body e) :=
  -- one look at the first character and one at the last, not a search among all characters
  decidable_of_iff
    ((textAt body e.span).head?.any (fun c => !isBlank c && (bracket? e).all (c == ·)) = true ∧
      (textAt body e.span).getLast?.any (fun c => !isBlank c) = true ∧
      (e.span.start :: (callArguments e).flatMap (fun arg => [arg.span.start, arg.span.stop]) ++
        [e.span.stop]).Pairwise (· ≤ ·)) <| by
    rw [writtenAt_iff]
    simp only [Option.any_eq_true, Option.all_eq_true, Bool.and_eq_true, Bool.not_eq_true', beq_iff_eq,
      Option.mem_def]

/-- The expression that a node is. -/
def Node.expr? : Node → Option Expr
  | .expr e => some e
  | _ => none

theorem Node.mem_expr?_of_eq {node : Node} {e : Expr} (h : node = .expr e) : e ∈ node.expr? := by
  rw [h]
  rfl

/-- The reader finds every expression in the text that it reads, if the text begins with no mark. -/
def PlacesExpressions (read : ScriptReader) : Prop :=
  ∀ dialect body parsed, Unmarked body → read dialect body = .ok parsed →
    ∀ part ∈ parsed.program.tree, ∀ e ∈ part.node.expr?, WrittenAt body e

theorem placesExpressions_onlyReading {texts : List (List Char)}
    (h : ∀ text ∈ texts, ∀ parsed ∈ (parseChars .plain text).toOption,
      ∀ part ∈ parsed.program.tree, ∀ e ∈ part.node.expr?, WrittenAt text e) :
    PlacesExpressions (onlyReading texts) := by
  intro dialect body parsed _ hread
  obtain ⟨-, hbody, hparsed⟩ := onlyReading_eq_ok_iff.mp hread
  exact h body hbody parsed (by rw [hparsed]; rfl)

/-- The arguments of a call in a tree are in the tree. -/
theorem exists_argument_mem_tree {p : Program} {part : Part} {call e : Expr} (hpart : part ∈ p.tree)
    (hnode : part.node = .expr call) (he : e ∈ callArguments call) :
    ∃ inner ∈ p.tree, inner.node = .expr e := by
  cases call with
  | call span callee args types =>
    obtain ⟨item, hitem, hvalue⟩ := List.mem_filterMap.mp he
    have hchild : Part.expr .standalone e ∈ part.parts := by
      have hin : Part.expr .standalone e ∈ args.flatMap (itemParts .standalone) := by
        refine List.mem_flatMap.mpr ⟨item, hitem, ?_⟩
        cases item <;> cases hvalue <;> exact List.mem_singleton_self _
      simp [Part.parts, hnode, Node.parts, exprParts, hin]
    obtain ⟨trail, htrail, hlast⟩ := mem_tree_iff.mp hpart
    exact ⟨_, mem_tree_iff.mpr ⟨_, htrail.concat hlast hchild, List.getLast?_concat⟩, rfl⟩
  | _ => cases he

section Reader

variable {text : List Char} {bits : List Bit} {bit : Bit} {call : Expr} {x : Exchange}

/-- A text begins with its first bit that shows. -/
theorem written_of_find? (text : List Char) (h : bits.find? Bit.shows = some bit) :
    ∃ rest, written text bits = bit.written text ++ rest := by
  obtain ⟨-, front, back, rfl, hfront⟩ := List.find?_eq_some_iff_append.mp h
  have hnone : written text front = [] := by
    refine List.flatMap_eq_nil_iff.mpr fun other hother => ?_
    have hhidden := hfront other hother
    cases other with
    | dropped span => rfl
    | _ => cases hhidden
  exact ⟨written text back, by simp [hnone]⟩

/-- A copy of a stretch writes what the stretch covers. -/
theorem Copies.written_eq {span : Span} (h : bit.Copies span) : bit.written text = textAt text span := by
  cases h <;> rfl

/-- What could be read on from the statement before begins with a bracket. -/
theorem Opens.exists_bracket (h : Opens call true bit)
    (hwritten : ∀ e ∈ callArguments call, WrittenAt text e) :
    ∃ c rest, bit.written text = c :: rest ∧ c ∈ ['[', '(', '\x60'] := by
  have hargument : ∀ e b, e ∈ callArguments call → bit.Copies e.span → bracket? e = some b →
      ∃ rest, bit.written text = b :: rest := by
    intro e b he hbit hbracket
    obtain ⟨c, hc, -, hb⟩ := (hwritten e he).first
    obtain ⟨rest, hrest⟩ := List.head?_eq_some_iff.mp hc
    obtain rfl := hb b hbracket
    exact ⟨rest, (Copies.written_eq hbit).trans hrest⟩
  cases h with
  | parenthesis => exact ⟨'(', [], rfl, by simp⟩
  | array harg hbit =>
    obtain ⟨rest, hrest⟩ := hargument _ '[' harg hbit rfl
    exact ⟨'[', rest, hrest, by simp⟩
  | paren harg hbit =>
    obtain ⟨rest, hrest⟩ := hargument _ '(' harg hbit rfl
    exact ⟨'(', rest, hrest, by simp⟩

end Reader

end MapLint.Lint
