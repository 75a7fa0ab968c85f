import MapLint.Proofs.KeptCalls

/-!
# Calls that are switched off

A finding on a line where the lint is switched off takes no part in a pass. But the next pass reads the text
anew, and whether the call is still switched off there is a matter of what became of the comment: a pass that
replaces a call around it writes the arguments and nothing else, and a comment between them is gone.

So a call that is switched off survives all passes as long as each of them leaves the directives alone.

## Architecture

- `Source.disabledFindings` are the findings that are left out, and `Source.disabledNames` the calls of `_.map`
  on lines that are switched off, of which there are at least as many;
- `PlacesTokens` and `KeepsTokens` are what is relied on in the reader of scripts: where tokens stand, and that
  what is written in the text that a pass makes is read there as it was;
- `Spares` is what a pass has to leave alone;
- `IsPass.length_disabledNames_le` is what one such pass does to the calls, `Passes.length_disabledNames_le`
  what any number of them do, and `repair_keeps_disabled_calls` tells of a whole repair;
- `disabled_call_replaced_in_second_pass`: a comment that is left out does not protect its call any more.
-/

namespace MapLint.Lint

open MapLint.Script

/-! ## Calls by their names -/

/-- The name of a call: what it is called on, the method, and where that is written. -/
structure CalledName where
  receiver : String
  method : String
  span : Span
deriving DecidableEq

/-- The call is one of the method that the lint is about. -/
def CalledName.isMap (n : CalledName) : Bool := n.receiver == reservedReceiver && n.method == targetMethod

def CallSite.name (site : CallSite) : CalledName := ⟨site.receiver, site.method, site.methodSpan⟩

/-- The names of the calls in a program. -/
def calledNames (p : Program) : List CalledName := (callSites (programEvents p)).map CallSite.name

/-- The event is a call of the method that the lint is about. -/
def isMapCall : Event → Bool
  | .call site => site.receiver == reservedReceiver && site.method == targetMethod
  | .receiverAssigned _ => false

end MapLint.Lint

namespace MapLint.Source

open MapLint.Lint

/-- The findings that are left out because of a comment. -/
def disabledFindings (source : Source) (strictness : Strictness) : List Finding :=
  (source.allFindings strictness).filter fun finding =>
    source.disabledLines.ignores (lineAt source.body finding.anchor.start)

/-- The calls of `_.map` on lines where the lint is switched off. -/
def disabledNames (source : Source) : List CalledName :=
  (calledNames source.program).filter fun n =>
    n.isMap && source.disabledLines.ignores (lineAt source.body n.span.start)

end MapLint.Source

namespace MapLint.Lint

open MapLint.Script

variable {strictness : Strictness}

/-- Every finding has a call of its own, and is anchored at its name. -/
theorem countP_findingsFrom_le (source : List Char) (state : PassState) (events : List Event)
    (marked : Nat → Bool) :
    (findingsFrom strictness source state events).countP (fun finding => marked finding.anchor.start) ≤
      ((callSites events).map CallSite.name).countP fun n => n.isMap && marked n.span.start := by
  induction events generalizing state with
  | nil => exact Nat.le_refl _
  | cons event events ih =>
    simp only [findingsFrom, List.countP_append]
    have hrest := ih (step strictness source state event).1
    cases event with
    | receiverAssigned span => simpa [step, callSites] using hrest
    | call site =>
      have hsites : callSites (.call site :: events) = site :: callSites events := rfl
      rw [hsites, List.map_cons, List.countP_cons]
      have hhere : (step strictness source state (.call site)).2.toList.countP
          (fun finding => marked finding.anchor.start) ≤
            if site.name.isMap && marked site.name.span.start then 1 else 0 := by
        cases hjudge : judge strictness source state site with
        | error skip => simp [step, hjudge]
        | ok finding =>
          obtain ⟨⟨hreceiver, hmethod⟩, -, -, _, _, _, -, -, -, -, rfl⟩ := judge_eq_ok_iff.mp hjudge
          simp [step, hjudge, CalledName.isMap, CallSite.name, hreceiver, hmethod]
      omega

/-- There are at least as many calls that are switched off as findings that are left out. -/
theorem length_disabledFindings_le (source : Source) (strictness : Strictness) :
    (source.disabledFindings strictness).length ≤ source.disabledNames.length := by
  rw [Source.disabledFindings, Source.disabledNames, ← List.countP_eq_length_filter,
    ← List.countP_eq_length_filter]
  exact countP_findingsFrom_le source.code {} (programEvents source.program)
    fun offset => source.disabledLines.ignores (lineAt source.body offset)

/-- The calls that are switched off are calls of the file. -/
theorem length_disabledNames_le (source : Source) :
    source.disabledNames.length ≤ (programEvents source.program).countP isMapCall := by
  have hcalls : ∀ events, ((callSites events).map CallSite.name).countP CalledName.isMap =
      events.countP isMapCall := by
    intro events
    induction events with
    | nil => rfl
    | cons event events ih =>
      cases event with
      | receiverAssigned span => simpa [callSites, isMapCall] using ih
      | call site =>
        have hsites : callSites (.call site :: events) = site :: callSites events := rfl
        rw [hsites, List.map_cons, List.countP_cons, List.countP_cons, ih]
        rfl
  rw [← hcalls, Source.disabledNames, ← List.countP_eq_length_filter]
  refine List.countP_mono_left fun n _ h => ?_
  exact (Bool.and_eq_true_iff.mp h).1

/-! ## What is relied on in the reader of scripts -/

/-- The name by which a call calls a method on a variable. -/
def ownName? : Expr → Option Span
  | .call _ (.member _ (.ident _ _) _ nameSpan) _ _ => some nameSpan
  | _ => none

/-- The expressions in the type arguments of a call. -/
def typeArguments : Expr → List Expr
  | .call _ _ _ types => types
  | _ => []

/-- Where the names of calls and the comments of a script stand. -/
def tokenSpans (parsed : Parsed) : List Span :=
  (calledNames parsed.program).map CalledName.span ++ parsed.comments.map Comment.span

/-- The text has the tokens of the script where their spans say. No expression begins or ends inside one, and
in a call by name all other names are in its arguments. -/
structure TokensPlaced (body : List Char) (parsed : Parsed) : Prop where
  tokens : ∀ span ∈ tokenSpans parsed, IsToken body span
  solid : ∀ span ∈ tokenSpans parsed, ∀ part ∈ parsed.program.tree, ∀ e ∈ part.node.expr?,
    ¬ Cuts e.span.start span ∧ ¬ Cuts e.span.stop span
  inside : ∀ part ∈ parsed.program.tree, ∀ e ∈ part.node.expr?, ∀ own ∈ ownName? e,
    ∀ n ∈ calledNames parsed.program, n.span.Within e.span →
      n.span = own ∨ ∃ inner ∈ callArguments e ++ typeArguments e, n.span.Within inner.span
  starts : ∀ c ∈ parsed.comments, ∀ c' ∈ parsed.comments, c.span.start = c'.span.start → c = c'

/-- The reader finds the tokens of every text that it reads, if the text begins with no mark. -/
def PlacesTokens (read : ScriptReader) : Prop :=
  ∀ dialect body parsed, Unmarked body → read dialect body = .ok parsed → TokensPlaced body parsed

/-- The names of the calls in a text, wherever they are written in the text made from it. -/
def copiedNames (text : List Char) (bits : List Bit) (p : Program) : List CalledName :=
  (calledNames p).flatMap fun n => (copiesFrom text n.span 0 bits).map fun copy => { n with span := copy }

/-- How the reader takes a text in which exchanges were made. If each puts an expression in the place of a
call, then a call whose name is written in the new text is one there too, and the comments of the new text are
those of the old one that are written in it. -/
def KeepsTokens (read : ScriptReader) (dialect : Dialect) (text : List Char) (xs : List Exchange) : Prop :=
  ∀ old new, read dialect text = .ok old →
    read dialect (written text (layout (byteSize text) 0 xs)) = .ok new →
    (∀ x ∈ xs, ∃ call continues, x.Replaces old.program call continues) →
      (copiedNames text (layout (byteSize text) 0 xs) old.program).Subperm (calledNames new.program) ∧
        ∀ c, c ∈ new.comments ↔ c ∈ copiedComments text (layout (byteSize text) 0 xs) old.comments

/-! ## What a pass puts in the place of calls -/

end MapLint.Lint

namespace MapLint.Source

open MapLint.Script MapLint.Lint

/-- The exchanges for the calls that are found on lines where the lint is not switched off. -/
def exchanges (source : Source) (strictness : Strictness) : List Exchange :=
  ((openCalls (programEvents source.program)).filter fun site =>
    (judge strictness source.code {} site).isOk &&
      !source.disabledLines.ignores (lineAt source.body site.methodSpan.start)).filterMap
    (exchange? strictness source.code)

/-- The exchanges that a pass makes. -/
def madeExchanges (source : Source) (strictness : Strictness) : List Exchange :=
  (madeEdits strictness source.code source).filterMap fun e =>
    (source.exchanges strictness).find? fun x => x.edit source.code = e

/-- The bits of the text that a pass makes. -/
def passBits (source : Source) (strictness : Strictness) : List Bit :=
  layout (byteSize source.code) 0 (source.madeExchanges strictness)

/-- What a pass leaves alone so that calls stay switched off. It leaves out no comment that switches the lint
off and writes none a second time that switches it on, the calls that it replaces have no call among their type
arguments that is switched off, and the line ends around calls that are switched off are kept. -/
structure Spares (source : Source) (strictness : Strictness) : Prop where
  kept : ∀ c ∈ source.comments, Asks .disable c ∨ Asks .disableNextLine c →
    ∀ span ∈ leftOut (source.passBits strictness), ¬ c.span.Within span
  once : ∀ c ∈ source.comments, Asks .enable c →
    ∀ span ∈ writtenAgain (source.passBits strictness), ¬ c.span.Within span
  types : ∀ x ∈ source.madeExchanges strictness, ∀ part ∈ source.program.tree, ∀ e ∈ part.node.expr?,
    e.span = x.span → ∀ t ∈ typeArguments e, ∀ n ∈ source.disabledNames, ¬ n.span.Within t.span
  lines : ∀ n ∈ source.disabledNames,
    LinesKept source.code (source.passBits strictness) source.comments n.span

end MapLint.Source

namespace MapLint.Lint

open MapLint.Script

section Pass

variable {read : ScriptReader} {path : Path} {strictness : Strictness} {source source' : Source}
  {text : List Char} {parsed : Parsed} {x : Exchange}

/-! ## The bits of a pass -/

/-- The exchanges for calls have the edits of what is found there. -/
theorem map_edit_exchanges (source : Source) (strictness : Strictness) :
    (source.exchanges strictness).map (Exchange.edit source.code) =
      (source.findings strictness).map Finding.edit := by
  unfold Source.exchanges Source.findings Source.allFindings
  rw [findings_eq_filterMap]
  dsimp only
  induction openCalls (programEvents source.program) with
  | nil => rfl
  | cons site sites ih =>
    cases hjudge : judge strictness source.code {} site with
    | error skip => simpa [hjudge, Except.isOk, Except.toBool, Except.toOption] using ih
    | ok finding =>
      obtain ⟨x, hx, hedit⟩ := exists_exchange_of_judge hjudge
      have hanchor : finding.anchor = site.methodSpan := by
        obtain ⟨-, -, -, _, _, _, -, -, -, -, rfl⟩ := judge_eq_ok_iff.mp hjudge
        rfl
      cases hline : source.disabledLines.ignores (lineAt source.body site.methodSpan.start) with
      | true => simpa [hjudge, hanchor, hline, Except.isOk, Except.toBool, Except.toOption] using ih
      | false =>
        simpa [hjudge, hanchor, hline, hx, hedit, Except.isOk, Except.toBool, Except.toOption] using ih

/-- A pass makes the exchanges whose edits it makes. -/
theorem map_edit_madeExchanges (source : Source) (strictness : Strictness) :
    (source.madeExchanges strictness).map (Exchange.edit source.code) =
      madeEdits strictness source.code source := by
  have hfound : ∀ e ∈ madeEdits strictness source.code source,
      ∃ x, (source.exchanges strictness).find? (fun x => x.edit source.code = e) = some x ∧
        x.edit source.code = e := by
    intro e he
    have hmem := Edit.mem_inOrder.mp (Edit.mem_of_mem_accept he).1
    rw [← map_edit_exchanges] at hmem
    obtain ⟨x, hx, rfl⟩ := List.mem_map.mp hmem
    cases hfind : (source.exchanges strictness).find? fun y => y.edit source.code = x.edit source.code with
    | none => simpa using List.find?_eq_none.mp hfind x hx
    | some y => exact ⟨y, rfl, by simpa using List.find?_some hfind⟩
  unfold Source.madeExchanges
  -- an exchange is looked up by its edit, and any with that edit will do
  generalize madeEdits strictness source.code source = edits at hfound ⊢
  induction edits with
  | nil => rfl
  | cons e edits ih =>
    obtain ⟨x, hx, hedit⟩ := hfound e List.mem_cons_self
    have hrest := ih fun other hother => hfound other (List.mem_cons_of_mem _ hother)
    rw [List.filterMap_cons]
    simp only [hx, List.map_cons, hedit, hrest]

/-- An exchange that is made comes from a call that is found and not switched off. -/
theorem exists_site_of_mem_madeExchanges (h : x ∈ source.madeExchanges strictness) :
    ∃ site finding, Event.call site ∈ programEvents source.program ∧
      judge strictness source.code {} site = .ok finding ∧
      source.disabledLines.ignores (lineAt source.body site.methodSpan.start) = false ∧
      exchange? strictness source.code site = some x := by
  obtain ⟨e, -, hfind⟩ := List.mem_filterMap.mp h
  obtain ⟨site, hsite, hx⟩ := List.mem_filterMap.mp (List.mem_of_find?_eq_some hfind)
  obtain ⟨hopen, hjudge⟩ := List.mem_filter.mp hsite
  rw [Bool.and_eq_true, Bool.not_eq_true'] at hjudge
  obtain ⟨hok, hline⟩ := hjudge
  have hevent : Event.call site ∈ programEvents source.program := by
    obtain ⟨event, hevent, hsome⟩ := List.mem_filterMap.mp hopen
    cases event with
    | receiverAssigned span => cases hsome
    | call other =>
      obtain rfl := Option.some.inj hsome
      exact (List.takeWhile_sublist _).subset hevent
  cases hresult : judge strictness source.code {} site with
  | error skip =>
    rw [hresult] at hok
    cases hok
  | ok finding => exact ⟨site, finding, hevent, hresult, hline, hx⟩

/-- The text that a pass makes. -/
theorem written_passBits (source : Source) (strictness : Strictness) (passes : Nat) :
    written source.code (source.passBits strictness) =
      (applyEdits source.code (repairEdits strictness passes source)).text := by
  have hplace : Edit.InPlace 0 source.code (madeEdits strictness source.code source) :=
    Edit.inPlace_accept_inOrder _ _
  refine written_layout_of_assemble? ?_
  rw [map_edit_madeExchanges]
  exact Edit.assemble?_eq_some [] hplace rfl

/-! ## One pass -/

/-- Where all that count have something behind them that counts, it counts for no more than what is behind
them. -/
theorem countP_le_countP_flatMap {α β : Type} {l : List α} {f : α → List β} {P : α → Bool} {Q : β → Bool}
    (h : ∀ a ∈ l, P a = true → ∃ b ∈ f a, Q b = true) : l.countP P ≤ (l.flatMap f).countP Q := by
  induction l with
  | nil => exact Nat.le_refl _
  | cons a l ih =>
    have hrest := ih fun b hb => h b (List.mem_cons_of_mem _ hb)
    rw [List.countP_cons, List.flatMap_cons, List.countP_append]
    split
    case isTrue ha =>
      have hpos := List.countP_pos_iff.mpr (h a List.mem_cons_self ha)
      omega
    case isFalse => omega

/-- The file that an unmarked text is read as. -/
abbrev fileOf (text : List Char) (parsed : Parsed) : Source :=
  ⟨text, false, text, parsed.program, parsed.comments⟩

theorem replaces_of_mem_madeExchanges (h : x ∈ (fileOf text parsed).madeExchanges strictness) :
    ∃ call continues, x.Replaces parsed.program call continues := by
  obtain ⟨site, finding, hsite, hjudge, -, hx⟩ := exists_site_of_mem_madeExchanges h
  exact replaces_of_judge hsite hjudge hx

theorem methodSpan_mem_ownName? {call : Expr} {site : CallSite} (h : (Node.expr call).IsCallOf site) :
    site.methodSpan ∈ ownName? call := by
  obtain ⟨memberSpan, objectSpan, args, types, hcall⟩ := h
  rw [Node.expr.inj hcall]
  rfl

section Tokens

variable {dialect : Dialect} {span : Span} {n : CalledName} {parsed' : Parsed}
  (hexprs : PlacesExpressions read) (htokens : PlacesTokens read) (hunmarked : Unmarked text)
  (hparsed : read dialect text = .ok parsed)

include hexprs hunmarked hparsed

theorem firm_of_mem_madeExchanges (h : x ∈ (fileOf text parsed).madeExchanges strictness) :
    x.Firm text (IsEnd parsed.program) := by
  obtain ⟨site, finding, hsite, hjudge, -, hx⟩ := exists_site_of_mem_madeExchanges h
  exact firm_of_judge hexprs hunmarked hparsed hsite hjudge hx

/-- The bits of a pass cover the text. -/
theorem tiles_passBits (strictness : Strictness) :
    Tiles text (byteSize text) 0 ((fileOf text parsed).passBits strictness) := by
  have hplace : Edit.InPlace 0 text
      (((fileOf text parsed).madeExchanges strictness).map (Exchange.edit text)) := by
    have hmade := map_edit_madeExchanges (fileOf text parsed) strictness
    rw [hmade]
    exact Edit.inPlace_accept_inOrder _ _
  exact tiles_layout hplace (List.nil_append text).symm rfl fun x hx =>
    firm_of_mem_madeExchanges hexprs hunmarked hparsed hx

theorem smooth_passBits (strictness : Strictness) :
    Smooth (cells text ((fileOf text parsed).passBits strictness)) :=
  smooth_layout (tiles_passBits hexprs hunmarked hparsed strictness) (List.nil_append text).symm rfl
    (fun _ hx => firm_of_mem_madeExchanges hexprs hunmarked hparsed hx) fun _ h => h.cleanCut hexprs hunmarked hparsed

include htokens

/-- A name or a comment is kept by a pass that does not leave it out. -/
theorem exists_keptAt_of_mem_tokenSpans (hspan : span ∈ tokenSpans parsed)
    (hdropped : ∀ stretch ∈ leftOut ((fileOf text parsed).passBits strictness), ¬ span.Within stretch) :
    ∃ copy, KeptAt text ((fileOf text parsed).passBits strictness) span copy := by
  have hplaced := htokens _ _ _ hunmarked hparsed
  have htoken := hplaced.tokens span hspan
  refine (tiles_passBits hexprs hunmarked hparsed strictness).exists_keptAt htoken (fun bit hbit stretch hcovered => ?_)
    hdropped
  rcases isEnd_of_mem_layout (fun _ hx => firm_of_mem_madeExchanges hexprs hunmarked hparsed hx) hbit hcovered with
    hend | ⟨part, hpart, e, he, hend⟩
  · have hroom : span.stop ≤ byteSize text := htoken.room.2
    have hend : stretch.stop = byteSize text := hend
    unfold Cuts
    omega
  · have hsolid := hplaced.solid span hspan part hpart e he
    rcases hend with hend | hend
    · rw [hend]
      exact hsolid.1
    · rw [hend]
      exact hsolid.2

/-- A pass leaves out no call that is switched off. -/
theorem not_within_of_mem_disabledNames (hspares : (fileOf text parsed).Spares strictness)
    (hn : n ∈ (fileOf text parsed).disabledNames)
    (hleft : span ∈ leftOut ((fileOf text parsed).passBits strictness)) : ¬ n.span.Within span := by
  intro hwithin
  obtain ⟨hname, hoff⟩ := List.mem_filter.mp hn
  obtain ⟨-, hoff⟩ := Bool.and_eq_true_iff.mp hoff
  have hplaced := htokens _ _ _ hunmarked hparsed
  have hroom := (hplaced.tokens n.span (List.mem_append_left _ (List.mem_map_of_mem hname))).room.1
  -- the call that the stretch is left out of
  obtain ⟨x, hx, hbit⟩ := exists_exchange_of_dropped_mem_layout (mem_leftOut_iff.mp hleft)
  obtain ⟨site, finding, hsite, hjudge, hline, hexchange⟩ := exists_site_of_mem_madeExchanges hx
  obtain ⟨sequence, callback, semicolon, rfl, part, hpart, call, first, second, hnode, hcall, hexprs', hfirst,
    hsecond⟩ := exists_call_of_exchange? hsite hexchange
  have hphrase : .dropped span ∈ phraseFor site sequence callback
      (classify strictness sequence callback).action := by
    rcases Exchange.eq_or_mem_of_mem_bits hbit with hsemicolon | hphrase
    · cases hsemicolon
    · exact hphrase
  have hexpr := Node.mem_expr?_of_eq hnode
  have hspan := span_of_isCallOf hcall
  have horder := (hexprs _ _ _ hunmarked hparsed part hpart call hexpr).inTurn hexprs'
  rw [← hfirst, ← hsecond, hspan] at horder
  obtain ⟨houter, hsequence, hcallback⟩ := within_of_dropped_mem_phraseFor hphrase horder hwithin hroom
  rcases hplaced.inside part hpart call hexpr site.methodSpan (methodSpan_mem_ownName? hcall) n hname
    (hspan ▸ houter) with hown | ⟨inner, hinner, hin⟩
  · -- the name of the call that is replaced is not switched off
    rw [hown, hline] at hoff
    cases hoff
  · rcases List.mem_append.mp hinner with hargument | htype
    · rw [hexprs'] at hargument
      rcases List.mem_cons.mp hargument with rfl | hargument
      · exact hsequence (hfirst ▸ hin)
      · obtain rfl := List.mem_singleton.mp hargument
        exact hcallback (hsecond ▸ hin)
    · exact hspares.types _ hx part hpart call hexpr hspan inner htype n hn hin

/-- A call that is switched off is written in the text that a pass makes, and switched off there. -/
theorem exists_copy_of_mem_disabledNames (hspares : (fileOf text parsed).Spares strictness)
    (hunmarked' : Unmarked (written text ((fileOf text parsed).passBits strictness)))
    (hparsed' : read dialect (written text ((fileOf text parsed).passBits strictness)) = .ok parsed')
    (hmoved : ∀ c, c ∈ parsed'.comments ↔
      c ∈ copiedComments text ((fileOf text parsed).passBits strictness) parsed.comments)
    (hn : n ∈ (fileOf text parsed).disabledNames) :
    ∃ copy ∈ copiesFrom text n.span 0 ((fileOf text parsed).passBits strictness),
      (fileOf (written text ((fileOf text parsed).passBits strictness)) parsed').disabledLines.ignores
        (lineAt (written text ((fileOf text parsed).passBits strictness)) copy.start) = true := by
  have hplaced := htokens _ _ _ hunmarked hparsed
  have hcomments : ∀ c ∈ parsed.comments, c.span ∈ tokenSpans parsed :=
    fun c hc => List.mem_append_right _ (List.mem_map_of_mem hc)
  obtain ⟨hname, hoff⟩ := List.mem_filter.mp hn
  obtain ⟨-, hoff⟩ := Bool.and_eq_true_iff.mp hoff
  have hspan : n.span ∈ tokenSpans parsed := List.mem_append_left _ (List.mem_map_of_mem hname)
  obtain ⟨copy, hcopy⟩ := exists_keptAt_of_mem_tokenSpans hexprs htokens hunmarked hparsed hspan
    fun _ hleft => not_within_of_mem_disabledNames hexprs htokens hunmarked hparsed hspares hn hleft
  have hswitched : SwitchedOff (lineAt text) parsed.comments (lineAt text n.span.start) :=
    (ignores_ofComments_iff hplaced.starts (fun _ _ _ _ h => lineAt_mono text h)
      fun _ _ => one_le_lineAt text _).mp hoff
  have hkept : ∀ c ∈ parsed.comments, Asks .disable c ∨ Asks .disableNextLine c →
      ∃ place, KeptAt text ((fileOf text parsed).passBits strictness) c.span place := by
    intro c hc hasks
    exact exists_keptAt_of_mem_tokenSpans hexprs htokens hunmarked hparsed (hcomments c hc) (hspares.kept c hc hasks)
  have hstill := switchedOff_of_keptAt (tiles_passBits hexprs hunmarked hparsed strictness)
    (smooth_passBits hexprs hunmarked hparsed strictness) hmoved
    (fun c hc => hplaced.tokens _ (hcomments c hc)) (hplaced.tokens _ hspan) hcopy hkept hspares.once
    (hspares.lines n hn) hswitched
  exact ⟨copy, hcopy.mem_copiesFrom, (ignores_ofComments_iff (htokens _ _ _ hunmarked' hparsed').starts
    (fun _ _ _ _ h => lineAt_mono _ h) fun _ _ => one_le_lineAt _ _).mpr hstill⟩

/-- What is switched off before a pass that spares it is switched off behind it. -/
theorem length_disabledNames_le_of_pass (hspares : (fileOf text parsed).Spares strictness)
    (hkeeps : KeepsTokens read dialect text ((fileOf text parsed).madeExchanges strictness))
    (hunmarked' : Unmarked (written text ((fileOf text parsed).passBits strictness)))
    (hparsed' : read dialect (written text ((fileOf text parsed).passBits strictness)) = .ok parsed') :
    (fileOf text parsed).disabledNames.length ≤
      (fileOf (written text ((fileOf text parsed).passBits strictness)) parsed').disabledNames.length := by
  obtain ⟨hnames, hmoved⟩ := hkeeps parsed parsed' hparsed hparsed' fun _ hx => replaces_of_mem_madeExchanges hx
  rw [Source.disabledNames, Source.disabledNames, ← List.countP_eq_length_filter,
    ← List.countP_eq_length_filter]
  refine Nat.le_trans (countP_le_countP_flatMap fun n hn hoff => ?_) (hnames.countP_le _)
  obtain ⟨copy, hcopy, hstill⟩ := exists_copy_of_mem_disabledNames hexprs htokens hunmarked hparsed hspares
    hunmarked' hparsed' hmoved (List.mem_filter.mpr ⟨hn, hoff⟩)
  exact ⟨_, List.mem_map_of_mem hcopy, Bool.and_eq_true_iff.mpr ⟨(Bool.and_eq_true_iff.mp hoff).1, hstill⟩⟩

end Tokens

/-! ## All passes -/

/-- So many passes over a text leave alone what keeps calls switched off, and the reader keeps the tokens of
the texts that they make. -/
def PassesSpare (read : ScriptReader) (path : Path) (strictness : Strictness) (text : List Char)
    (passes : Nat) : Prop :=
  ∀ p source, Passes (parseSourceWith read path) (repairEdits strictness) text p → p.passes < passes →
    parseSourceWith read path p.text = .ok source →
    source.Spares strictness ∧ KeepsTokens read (dialectOf path) p.text (source.madeExchanges strictness)

/-- A pass whose text is read again keeps the calls that are switched off. -/
theorem IsPass.length_disabledNames_le (hexprs : PlacesExpressions read) (htokens : PlacesTokens read)
    {p next : Progress} (h : IsPass (parseSourceWith read path) (repairEdits strictness) p next)
    (hunmarked : Unmarked p.text) (hnext : Unmarked next.text)
    (hsource : parseSourceWith read path p.text = .ok source)
    (hsource' : parseSourceWith read path next.text = .ok source') (hspares : source.Spares strictness)
    (hkeeps : KeepsTokens read (dialectOf path) p.text (source.madeExchanges strictness)) :
    source.disabledNames.length ≤ source'.disabledNames.length := by
  obtain ⟨again, hagain, -, rfl⟩ := h
  obtain rfl : source = again := Except.ok.inj (hsource.symm.trans hagain)
  obtain ⟨parsed, hparsed, rfl⟩ := hunmarked.parseSourceWith_eq read path hsource
  obtain ⟨parsed', hparsed', rfl⟩ := hnext.parseSourceWith_eq read path hsource'
  have htext := written_passBits (fileOf p.text parsed) strictness p.passes
  dsimp only at htext hnext hparsed' ⊢
  rw [← htext] at hnext hparsed' ⊢
  exact length_disabledNames_le_of_pass hexprs htokens hunmarked hparsed hspares hkeeps hnext hparsed'

/-- Any number of passes keep the calls that are switched off. -/
theorem Passes.length_disabledNames_le (hcalls : PlacesCalls read) (hexprs : PlacesExpressions read)
    (htokens : PlacesTokens read) (hunmarked : Unmarked text)
    {p : Progress} (hspare : PassesSpare read path strictness text p.passes)
    (hsource : parseSourceWith read path text = .ok source)
    (h : Passes (parseSourceWith read path) (repairEdits strictness) text p)
    (hsource' : parseSourceWith read path p.text = .ok source') :
    source.disabledNames.length ≤ source'.disabledNames.length := by
  induction h generalizing source' with
  | start =>
    obtain rfl : source = source' := Except.ok.inj (hsource.symm.trans hsource')
    exact Nat.le_refl _
  | @pass p next before step ih =>
    -- the text in front of the last pass was read, or there would have been no pass
    obtain ⟨middle, hmiddle⟩ := step.parses
    have hlast : next.passes = p.passes + 1 := step.passes_eq
    have hunmarked' := before.unmarked hcalls hunmarked
    have hfirst : source.disabledNames.length ≤ middle.disabledNames.length :=
      ih (fun q source hq hlt => hspare q source hq (by omega)) hmiddle
    obtain ⟨hspares, hkeeps⟩ := hspare p middle before (by omega) hmiddle
    exact hfirst.trans (step.length_disabledNames_le hexprs htokens hunmarked'
      (step.unmarked hcalls hunmarked') hmiddle hsource' hspares hkeeps)

/-- Every call that is switched off survives a repair. In a file that begins with one mark at most, and whose
passes leave alone what keeps calls switched off, there are at least as many calls of `_.map` behind the
repair, whatever was replaced around them, as findings were left out before it. -/
theorem repair_keeps_disabled_calls (hcalls : PlacesCalls read) (hexprs : PlacesExpressions read)
    (htokens : PlacesTokens read) (path : Path) (strictness : Strictness) {text : List Char}
    (hmarks : ¬ [byteOrderMark, byteOrderMark] <+: text)
    {r : Repaired ParseFailure} (hrepair : repairSourceWith read path strictness text = .ok r)
    (hspare : PassesSpare read path strictness (stripMark text).1 r.passes) :
    ∃ source source', parseSourceWith read path text = .ok source ∧
      parseSourceWith read path r.text = .ok source' ∧
      (source.disabledFindings strictness).length ≤ (programEvents source'.program).countP isMapCall := by
  obtain ⟨inner, hinner, rfl⟩ := repairSourceWith_eq_ok_iff.mp hrepair
  have hsettled := repair_settled (parseSourceWith read path) (repairEdits strictness) (stripMark text).1
  rw [hinner] at hsettled
  have hunmarked := unmarked_stripMark hmarks
  have hlast := hsettled.passes.unmarked hcalls hunmarked
  obtain ⟨source, hsource⟩ : ∃ source, parseSourceWith read path (stripMark text).1 = .ok source := by
    rcases hsettled.passes.eq_start_or_first with hstart | ⟨first, hfirst, -⟩
    · obtain ⟨parsed, hparsed⟩ := hsettled.parses
      rw [hstart] at hparsed
      exact ⟨parsed, hparsed⟩
    · exact hfirst.parses
  obtain ⟨source', hsource'⟩ := hsettled.parses
  have hspare : PassesSpare read path strictness (stripMark text).1 inner.passes := hspare
  have hkept := hsettled.passes.length_disabledNames_le hcalls hexprs htokens hunmarked hspare hsource hsource'
  refine ⟨{ source with marked := (stripMark text).2 }, { source' with marked := (stripMark text).2 },
    parseSourceWith_of_stripMark rfl hunmarked hsource,
    parseSourceWith_of_stripMark (stripMark_restoreMark hcalls hsettled.passes) hlast hsource', ?_⟩
  -- the mark makes no difference to what is found and what is called
  calc (source.disabledFindings strictness).length
      ≤ source.disabledNames.length := length_disabledFindings_le source strictness
    _ ≤ source'.disabledNames.length := hkept
    _ ≤ (programEvents source'.program).countP isMapCall := length_disabledNames_le source'

end Pass

/-! ## A call in the callback of a call that is replaced -/

instance (source : Source) (strictness : Strictness) : Decidable (source.Spares strictness) :=
  decidable_of_iff
    ((∀ c ∈ source.comments, Asks .disable c ∨ Asks .disableNextLine c →
        ∀ span ∈ leftOut (source.passBits strictness), ¬ c.span.Within span) ∧
      (∀ c ∈ source.comments, Asks .enable c →
        ∀ span ∈ writtenAgain (source.passBits strictness), ¬ c.span.Within span) ∧
      (∀ x ∈ source.madeExchanges strictness, ∀ part ∈ source.program.tree, ∀ e ∈ part.node.expr?,
        e.span = x.span → ∀ t ∈ typeArguments e, ∀ n ∈ source.disabledNames, ¬ n.span.Within t.span) ∧
      ∀ n ∈ source.disabledNames,
        LinesKept source.code (source.passBits strictness) source.comments n.span)
    ⟨fun h => ⟨h.1, h.2.1, h.2.2.1, h.2.2.2⟩, fun h => ⟨h.kept, h.once, h.types, h.lines⟩⟩

instance (body : List Char) (parsed : Parsed) : Decidable (TokensPlaced body parsed) :=
  decidable_of_iff
    ((∀ span ∈ tokenSpans parsed, IsToken body span) ∧
      (∀ span ∈ tokenSpans parsed, ∀ part ∈ parsed.program.tree, ∀ e ∈ part.node.expr?,
        ¬ Cuts e.span.start span ∧ ¬ Cuts e.span.stop span) ∧
      (∀ part ∈ parsed.program.tree, ∀ e ∈ part.node.expr?, ∀ own ∈ ownName? e,
        ∀ n ∈ calledNames parsed.program, n.span.Within e.span →
          n.span = own ∨ ∃ inner ∈ callArguments e ++ typeArguments e, n.span.Within inner.span) ∧
      ∀ c ∈ parsed.comments, ∀ c' ∈ parsed.comments, c.span.start = c'.span.start → c = c')
    ⟨fun h => ⟨h.1, h.2.1, h.2.2.1, h.2.2.2⟩, fun h => ⟨h.tokens, h.solid, h.inside, h.starts⟩⟩

theorem placesTokens_onlyReading {texts : List (List Char)}
    (h : ∀ text ∈ texts, ∀ parsed ∈ (parseChars .plain text).toOption, TokensPlaced text parsed) :
    PlacesTokens (onlyReading texts) := by
  intro dialect body parsed _ hread
  obtain ⟨-, hbody, hparsed⟩ := onlyReading_eq_ok_iff.mp hread
  exact h body hbody parsed (by rw [hparsed]; rfl)

/-- A call that is switched off in the callback of another one, with a third one behind it, and what two passes
make of them. -/
def disabledInCallback : List (List Char) :=
  ["_.map([1], x => \x7b\n  // native-map-disable-next-line\n  _.map([x], g);\n  _.map([2], h);\n\x7d);\n".toList,
    "[1].map(x => \x7b\n  // native-map-disable-next-line\n  _.map([x], g);\n  _.map([2], h);\n\x7d);\n".toList,
    "[1].map(x => \x7b\n  // native-map-disable-next-line\n  _.map([x], g);\n  [2].map(h);\n\x7d);\n".toList]

/-- The pass over a text spares what it has to, and what it makes of the tokens is what the parser reads. -/
def PassKeeps (strictness : Strictness) (text : List Char) (old : Parsed) : Prop :=
  (fileOf text old).Spares strictness ∧
    ∀ new ∈ (parseChars .plain (written text ((fileOf text old).passBits strictness))).toOption,
      (copiedNames text ((fileOf text old).passBits strictness) old.program).Subperm (calledNames new.program) ∧
        (∀ c ∈ new.comments, c ∈ copiedComments text ((fileOf text old).passBits strictness) old.comments) ∧
        ∀ c ∈ copiedComments text ((fileOf text old).passBits strictness) old.comments, c ∈ new.comments

instance (strictness : Strictness) (text : List Char) (old : Parsed) :
    Decidable (PassKeeps strictness text old) :=
  inferInstanceAs (Decidable (_ ∧ ∀ new ∈ (parseChars .plain
    (written text ((fileOf text old).passBits strictness))).toOption, _ ∧
      (∀ c ∈ new.comments, c ∈ copiedComments text ((fileOf text old).passBits strictness) old.comments) ∧
        ∀ c ∈ copiedComments text ((fileOf text old).passBits strictness) old.comments, c ∈ new.comments))

/-- It is enough to look at the texts that are read. -/
theorem passesSpare_onlyReading {texts : List (List Char)} {strictness : Strictness} {text : List Char}
    (hcalls : PlacesCalls (onlyReading texts)) (path : Path) (passes : Nat) (htext : Unmarked text)
    (h : ∀ text ∈ texts, ∀ old ∈ (parseChars .plain text).toOption, PassKeeps strictness text old) :
    PassesSpare (onlyReading texts) path strictness text passes := by
  intro p source hp _ hsource
  obtain ⟨parsed, hparsed, rfl⟩ := (hp.unmarked hcalls htext).parseSourceWith_eq _ path hsource
  obtain ⟨-, hbody, hparse⟩ := onlyReading_eq_ok_iff.mp hparsed
  obtain ⟨hspares, hkeeps⟩ := h p.text hbody parsed (by rw [hparse]; rfl)
  refine ⟨hspares, fun old new hold hnew _ => ?_⟩
  obtain rfl : parsed = old := Except.ok.inj (hparsed.symm.trans hold)
  have hparse' : parseChars .plain (written p.text ((fileOf p.text parsed).passBits strictness)) = .ok new :=
    (onlyReading_eq_ok_iff.mp hnew).2.2
  obtain ⟨hnames, hcomments, hcopies⟩ := hkeeps new (by rw [hparse']; rfl)
  exact ⟨hnames, fun c => ⟨hcomments c, hcopies c⟩⟩

set_option maxRecDepth 100000 in
/-- The call that is switched off is there behind both passes. -/
theorem repair_keeps_disabledInCallback :
    let read := onlyReading disabledInCallback
    PlacesCalls read ∧ PlacesExpressions read ∧ PlacesTokens read ∧
    ∃ text ∈ disabledInCallback, ∃ r, repairSourceWith read "a.js" .strict text = .ok r ∧ r.passes = 2 ∧
      PassesSpare read "a.js" .strict (stripMark text).1 r.passes ∧
      ∃ source source', parseSourceWith read "a.js" text = .ok source ∧
        parseSourceWith read "a.js" r.text = .ok source' ∧
        (source.disabledFindings .strict).length = 1 ∧
        (source.disabledFindings .strict).length ≤ (programEvents source'.program).countP isMapCall := by
  intro read
  -- each text is parsed once for all that is asked of it
  have hchecks : ∀ text ∈ disabledInCallback, ∀ parsed ∈ (parseChars .plain text).toOption,
      (∀ event ∈ programEvents parsed.program, event.Placed text) ∧
      (∀ part ∈ parsed.program.tree, ∀ e ∈ part.node.expr?, WrittenAt text e) ∧
      TokensPlaced text parsed ∧ PassKeeps .strict text parsed := by decide +kernel
  have hcalls : PlacesCalls read :=
    placesCalls_onlyReading fun text htext parsed hparsed => (hchecks text htext parsed hparsed).1
  have hexprs : PlacesExpressions read :=
    placesExpressions_onlyReading fun text htext parsed hparsed => (hchecks text htext parsed hparsed).2.1
  have htokens : PlacesTokens read :=
    placesTokens_onlyReading fun text htext parsed hparsed => (hchecks text htext parsed hparsed).2.2.1
  have hspare : ∀ passes, PassesSpare read "a.js" .strict (stripMark disabledInCallback[0]).1 passes :=
    fun passes => passesSpare_onlyReading hcalls "a.js" passes (by decide)
      fun text htext parsed hparsed => (hchecks text htext parsed hparsed).2.2.2
  refine ⟨hcalls, hexprs, htokens, disabledInCallback[0], by simp [disabledInCallback], ?_⟩
  have hmarks : ¬ [byteOrderMark, byteOrderMark] <+: disabledInCallback[0] := by decide
  have hpasses : (repairSourceWith read "a.js" .strict disabledInCallback[0]).toOption.map
      (fun r => r.passes) = some 2 := by decide +kernel
  have hfindings : (parseSourceWith read "a.js" disabledInCallback[0]).toOption.map
      (fun source => (source.disabledFindings .strict).length) = some 1 := by decide +kernel
  cases hrepair : repairSourceWith read "a.js" .strict disabledInCallback[0] with
  | error failure =>
    rw [hrepair] at hpasses
    cases hpasses
  | ok r =>
    rw [hrepair] at hpasses
    obtain ⟨source, source', hsource, hsource', hkept⟩ :=
      repair_keeps_disabled_calls hcalls hexprs htokens "a.js" .strict hmarks hrepair (hspare r.passes)
    rw [hsource] at hfindings
    exact ⟨r, rfl, Option.some.inj hpasses, hspare r.passes, source, source', hsource, hsource',
      Option.some.inj hfindings, hkept⟩

/-- A call in the callback of another one, switched off by a comment between the arguments. -/
def disabledInArgument : List Char :=
  "_.map([1], // native-map-disable-next-line\n  x => _.map([x], y => y));\n".toList

set_option maxRecDepth 100000 in
/-- One finding of that text is left out. The first pass replaces the call around it and drops the
comment, and the second pass replaces the call that the comment protected. -/
theorem disabled_call_replaced_in_second_pass :
    ((parseSource "a.js" disabledInArgument).toOption.map
        fun source => (source.disabledFindings .strict).length) = some 1 ∧
    ((repairSource "a.js" .strict disabledInArgument).toOption.map fun r => (r.text, r.passes)) =
      some ("[1].map(x => [x].map(y => y));\n".toList, 2) ∧
    ((parseSource "a.js" "[1].map(x => [x].map(y => y));\n".toList).toOption.map
        fun source => (programEvents source.program).countP isMapCall) = some 0 := by
  decide +kernel

end MapLint.Lint
