import MapLint.Proofs.NameChains
import MapLint.Lint.Analysis

/-!
# Variables that stand for other variables

`const ys = xs` makes `ys` another name for `xs`, and a call on `ys` should be judged as one on `xs`.
The grade of a variable rests on the origin of its own declaration and on the initial value at the end
of its chain. An alias has the second in common with what it stands for, but not the first: where `xs`
was taken out of an object, this is known of `xs` and forgotten of `ys`.

## Architecture

- `Declaration.settle_eq_settle`: of a chain that stops, the walk finds the same with any limit that
  reaches that far;
- `Scopes.Sees.resolve_alias`: the two names resolve to the same initial value;
- `alias_graded_alike` says when they are graded alike, and `alias_of_field_graded_otherwise` is a
  script in which they are not.
-/

namespace MapLint.Lint

variable {s : Scopes} {x y : String} {d dx dy last : Declaration} {hops : Nat}

/-- A walk that may follow more links than a chain has does not depend on how many. -/
theorem Declaration.settle_eq_settle (hd : d.home.Distinct) (hleads : Declaration.Leads hops d last)
    (hstops : last.Stops) {limit limit' : Nat} (hle : hops ≤ limit) (hle' : hops ≤ limit') :
    settle limit d.binding.init d.home.chain = settle limit' d.binding.init d.home.chain := by
  refine Option.ext fun shape => ?_
  rw [settle_eq_some_iff hd, settle_eq_some_iff hd]
  -- an end is no further away than where the chain stops
  have hwithin : ∀ links, d.EndsIn links shape → links ≤ hops := by
    rintro links ⟨end_, hend, -⟩
    exact hleads.le_of_stops hstops hend hd
  constructor
  · rintro ⟨links, -, hend⟩
    exact ⟨links, Nat.le_trans (hwithin links hend) hle', hend⟩
  · rintro ⟨links, -, hend⟩
    exact ⟨links, Nat.le_trans (hwithin links hend) hle, hend⟩

/-- An alias has the initial value of what it stands for, if the chain of that is short enough for one
link more. -/
theorem Scopes.Sees.resolve_alias (hs : s.Distinct) (hy : s.Sees y dy)
    (hinit : dy.binding.init = some (.reference x)) (hx : dy.home.Sees x dx)
    (hleads : Declaration.Leads hops dx last) (hstops : last.Stops) (hle : hops ≤ 7) :
    ∃ init, s.resolve y = some ⟨y, init, dy.binding.origin⟩ ∧
      dy.home.resolve x = some ⟨x, init, dx.binding.origin⟩ := by
  have hdy : dy.home.Distinct := hy.distinct hs
  have hdx : dx.home.Distinct := hx.distinct hdy
  have hlink : settle maxHops dy.binding.init dy.home.chain =
      settle 7 dx.binding.init dx.home.chain := by
    rw [hinit, maxHops, settle, hx.lookup_eq hdy]
  have hlimit : settle 7 dx.binding.init dx.home.chain =
      settle maxHops dx.binding.init dx.home.chain :=
    Declaration.settle_eq_settle hdx hleads hstops hle (Nat.le_succ_of_le hle)
  refine ⟨_, hy.resolve_eq hs, ?_⟩
  rw [hx.resolve_eq hdy, hlink, hlimit]

/-! ## Grades -/

/-- The grade of a bound variable that was not taken out of an object rests on its initial value. -/
theorem sequenceEvidence_eq_of_init {strictness : Strictness} {arg arg' : Argument} {r r' : Resolved}
    (h : arg.operand = .bound r) (h' : arg'.operand = .bound r') (hinit : r.init = r'.init)
    (horigin : r.origin ≠ .objectPattern) (horigin' : r'.origin ≠ .objectPattern) :
    sequenceEvidence strictness arg = sequenceEvidence strictness arg' := by
  simp only [sequenceEvidence, h, h', if_neg horigin, if_neg horigin', hinit]

theorem sequenceEvidence_of_objectPattern {strictness : Strictness} {arg : Argument} {r : Resolved}
    (h : arg.operand = .bound r) (horigin : r.origin = .objectPattern) :
    sequenceEvidence strictness arg = .objectLike := by
  simp only [sequenceEvidence, h, if_pos horigin]

/-- Otherwise only an object for an initial value makes it one. -/
theorem sequenceEvidence_eq_objectLike_iff {strictness : Strictness} {arg : Argument} {r : Resolved}
    (h : arg.operand = .bound r) (horigin : r.origin ≠ .objectPattern) :
    sequenceEvidence strictness arg = .objectLike ↔ r.init = some .object := by
  simp only [sequenceEvidence, h, if_neg horigin]
  cases r.init with
  | none => simp
  | some shape => cases shape <;> simp

theorem invocableEvidence_eq_of_init {arg arg' : Argument} {r r' : Resolved}
    (h : arg.operand = .bound r) (h' : arg'.operand = .bound r') (hinit : r.init = r'.init) :
    invocableEvidence arg = invocableEvidence arg' := by
  simp only [invocableEvidence, Operand.shape?, h, h', hinit]

/-- An alias `y` of `x` is graded as `x` is where `y` is declared, under either strictness and whatever
stands at the end of the chain of `x`. As a callback that is so without exception. As a sequence it is
so unless `x` was taken out of an object: that alone makes `x` an object, but it makes `y` one only if
an object stands at the end of the chain. -/
theorem alias_graded_alike (steps : List ScopeStep) (strictness : Strictness)
    (hy : (Scopes.after steps).Sees y dy) (horigin : dy.binding.origin = .variable)
    (hinit : dy.binding.init = some (.reference x)) (hx : dy.home.Sees x dx)
    (hends : ∃ hops ≤ 7, ∃ last, Declaration.Leads hops dx last ∧ last.Stops) :
    ∃ ry rx, (Scopes.after steps).resolve y = some ry ∧ dy.home.resolve x = some rx ∧
      ∀ argY argX : Argument, argY.operand = .bound ry → argX.operand = .bound rx →
        (sequenceEvidence strictness argY = sequenceEvidence strictness argX ↔
          (dx.binding.origin = .objectPattern → rx.init = some .object)) ∧
        invocableEvidence argY = invocableEvidence argX := by
  obtain ⟨hops, hle, last, hleads, hstops⟩ := hends
  obtain ⟨init, hry, hrx⟩ :=
    hy.resolve_alias (Scopes.distinct_after steps) hinit hx hleads hstops hle
  have hplain : dy.binding.origin ≠ .objectPattern := by
    rw [horigin]
    decide
  refine ⟨_, _, hry, hrx, fun argY argX hargY hargX =>
    ⟨?_, invocableEvidence_eq_of_init hargY hargX rfl⟩⟩
  by_cases hfield : dx.binding.origin = .objectPattern
  · rw [sequenceEvidence_of_objectPattern hargX hfield,
      sequenceEvidence_eq_objectLike_iff hargY hplain]
    exact ⟨fun h _ => h, fun h => h hfield⟩
  · exact ⟨fun _ h => absurd h hfield,
      fun _ => sequenceEvidence_eq_of_init hargY hargX rfl hplain hfield⟩

/-! ## An alias of an alias -/

/-- `const zs = [1]` at the outside, `const xs = zs` in a block, `const ys = xs` in a block inside it,
and another `xs` further in. -/
def aliasSteps : List ScopeStep :=
  [.declare "zs" ⟨some .sequence, .variable⟩, .enter,
    .declare "xs" ⟨some (.reference "zs"), .variable⟩, .enter,
    .declare "ys" ⟨some (.reference "xs"), .variable⟩, .enter,
    .declare "xs" ⟨some .object, .variable⟩]

/-- An argument of one byte that is a variable. -/
def boundArgument (r : Resolved) : Argument := ⟨⟨0, 1⟩, .bound r, false, true⟩

/-- The alias is graded as an array, although the `xs` next to it is an object. -/
theorem alias_graded_alike_shadowed :
    (Scopes.after aliasSteps).resolve "ys" = some ⟨"ys", some .sequence, .variable⟩ ∧
    (Scopes.after (aliasSteps.take 5)).resolve "xs" = some ⟨"xs", some .sequence, .variable⟩ ∧
    sequenceEvidence .strict (boundArgument ⟨"ys", some .sequence, .variable⟩) =
      sequenceEvidence .strict (boundArgument ⟨"xs", some .sequence, .variable⟩) := by
  let ys : Declaration :=
    ⟨"ys", ⟨some (.reference "xs"), .variable⟩, Scopes.after (aliasSteps.take 5)⟩
  let xs : Declaration :=
    ⟨"xs", ⟨some (.reference "zs"), .variable⟩, Scopes.after (aliasSteps.take 3)⟩
  let zs : Declaration := ⟨"zs", ⟨some .sequence, .variable⟩, Scopes.after (aliasSteps.take 1)⟩
  have hys : (Scopes.after aliasSteps).Sees "ys" ys :=
    ⟨rfl, by decide, [[("xs", ⟨some .object, .variable⟩)]], by decide, by decide⟩
  have hxs : ys.home.Sees "xs" xs :=
    ⟨rfl, by decide, [[("ys", ⟨some (.reference "xs"), .variable⟩)]], by decide, by decide⟩
  have hzs : xs.home.Sees "zs" zs :=
    ⟨rfl, by decide, [[("xs", ⟨some (.reference "zs"), .variable⟩)]], by decide, by decide⟩
  have hends : ∃ hops ≤ 7, ∃ last, Declaration.Leads hops xs last ∧ last.Stops :=
    ⟨1, by decide, zs, .hop ⟨"zs", rfl, hzs⟩ (.stay zs),
      Declaration.stops_of_init fun name h => by cases h⟩
  obtain ⟨ry, rx, hry, hrx, hgrades⟩ := alias_graded_alike aliasSteps .strict hys rfl rfl hxs hends
  have hy : (Scopes.after aliasSteps).resolve "ys" = some ⟨"ys", some .sequence, .variable⟩ := by
    decide
  have hx : (Scopes.after (aliasSteps.take 5)).resolve "xs" =
      some ⟨"xs", some .sequence, .variable⟩ := by decide
  obtain rfl := Option.some.inj (hry.symm.trans hy)
  obtain rfl := Option.some.inj (hrx.symm.trans hx)
  have hequal := (hgrades (boundArgument _) (boundArgument _) rfl rfl).1
  exact ⟨hy, hx, hequal.mpr fun h => by cases h⟩

/-! ## An alias of a field -/

/-- `const { xs } = o` and `const ys = xs`. -/
def fieldSteps : List ScopeStep :=
  [.declare "xs" ⟨none, .objectPattern⟩, .declare "ys" ⟨some (.reference "xs"), .variable⟩]

/-- The two declarations as a script, with a call on one of the names. -/
def fieldScript (argument : String) : List Char :=
  ("const { xs } = o;\nconst ys = xs;\n_.map(" ++ argument ++ ", (v) => v);\n").toList

set_option maxRecDepth 100000 in
/-- What was taken out of an object is no array, and a call on it is left alone. An alias of it, with no
link of a chain in between, might be one, and a call on the alias is replaced. -/
theorem alias_of_field_graded_otherwise :
    (∃ dy dx, (Scopes.after fieldSteps).Sees "ys" dy ∧ dy.binding.origin = .variable ∧
      dy.binding.init = some (.reference "xs") ∧ dy.home = Scopes.after fieldSteps ∧
      dy.home.Sees "xs" dx ∧ Declaration.Leads 0 dx dx ∧ dx.Stops) ∧
    (Scopes.after fieldSteps).resolve "ys" = some ⟨"ys", none, .variable⟩ ∧
    (Scopes.after fieldSteps).resolve "xs" = some ⟨"xs", none, .objectPattern⟩ ∧
    (∀ strictness,
      sequenceEvidence strictness (boundArgument ⟨"ys", none, .variable⟩) = .unknown ∧
        sequenceEvidence strictness (boundArgument ⟨"xs", none, .objectPattern⟩) = .objectLike) ∧
    ((parseSource "a.js" (fieldScript "ys")).toOption.map fun source =>
      (source.findings .strict).map (·.classification.action)) = some [.guarded] ∧
    ((parseSource "a.js" (fieldScript "xs")).toOption.map fun source =>
      (source.findings .strict).map (·.classification.action)) = some [] := by
  let ys : Declaration :=
    ⟨"ys", ⟨some (.reference "xs"), .variable⟩, Scopes.after fieldSteps⟩
  let xs : Declaration := ⟨"xs", ⟨none, .objectPattern⟩, Scopes.after fieldSteps⟩
  have hys : (Scopes.after fieldSteps).Sees "ys" ys := ⟨rfl, by decide, [], rfl, by simp⟩
  have hxs : ys.home.Sees "xs" xs := ⟨rfl, by decide, [], rfl, by simp⟩
  have hstops : xs.Stops := Declaration.stops_of_init fun name h => by cases h
  refine ⟨⟨ys, xs, hys, rfl, rfl, rfl, hxs, .stay xs, hstops⟩, by decide, by decide, ?_, ?_⟩
  · intro strictness
    cases strictness <;> decide
  · decide +kernel

end MapLint.Lint
