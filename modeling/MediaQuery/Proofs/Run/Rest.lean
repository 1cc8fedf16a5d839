import MediaQuery.Proofs.Rule.Provenance
import MediaQuery.Proofs.Rule.Replacement
import MediaQuery.Proofs.Rule.Independence

/-!
# Passes that change nothing

After a pass without a failure an engine is at rest (`RestsAt`): the head holds the style elements
for what is active at the width of the pass, and every query tells what holds there. A width that
compares alike with every bound in the store makes the same things active, so that a pass there puts
the same style elements in the place of the old ones and finds no query that changes; no listener is
called, and the engine is at rest again.

* `alike_widths_change_nothing` — the law for every operation that stores no rule
-/

namespace MediaQuery

open Dom (Document Node)

variable {σ : Type}

/-! ## Widths that compare alike -/

namespace RuleStore

/-- The values of the width bounds in a store. -/
def bounds (s : RuleStore) : List Float :=
  s.descriptors.flatMap fun d =>
    (d.condition.minWidth.toList ++ d.condition.maxWidth.toList).map WidthBound.value

/-- Two widths lie on the same side of every bound in a store. -/
def ComparesAlike (s : RuleStore) (w w' : Float) : Prop :=
  ∀ b ∈ s.bounds, (w ≥ b ↔ w' ≥ b) ∧ (w ≤ b ↔ w' ≤ b)

variable {s : RuleStore} {w w' : Float}

theorem ComparesAlike.refl (s : RuleStore) (w : Float) : s.ComparesAlike w w :=
  fun _ _ => ⟨Iff.rfl, Iff.rfl⟩

namespace ComparesAlike

variable (h : s.ComparesAlike w w')

include h

/-- The same conditions hold at both widths. -/
theorem isActive_eq {d : Descriptor} (hd : d ∈ s.descriptors) :
    d.condition.isActive w' = d.condition.isActive w := by
  have hbound : ∀ bound : WidthBound,
      d.condition.minWidth = some bound ∨ d.condition.maxWidth = some bound →
        (w ≥ bound.value ↔ w' ≥ bound.value) ∧ (w ≤ bound.value ↔ w' ≤ bound.value) := by
    intro bound hbound
    refine h bound.value (List.mem_flatMap.mpr ⟨d, hd, List.mem_map.mpr ⟨bound, ?_, rfl⟩⟩)
    simpa [Option.mem_toList] using hbound
  have hmin : d.condition.aboveMin w' = d.condition.aboveMin w := by
    unfold Condition.aboveMin
    cases hm : d.condition.minWidth with
    | none => rfl
    | some bound => exact decide_eq_decide.mpr (hbound bound (Or.inl hm)).1.symm
  have hmax : d.condition.belowMax w' = d.condition.belowMax w := by
    unfold Condition.belowMax
    cases hm : d.condition.maxWidth with
    | none => rfl
    | some bound => exact decide_eq_decide.mpr (hbound bound (Or.inr hm)).2.symm
  rw [Condition.isActive, Condition.isActive, hmin, hmax]

theorem activeAt_eq : s.activeAt w' = s.activeAt w := by
  have htexts : s.activeTexts w' = s.activeTexts w :=
    List.filterMap_congr fun d hd => by rw [activeText?, activeText?, h.isActive_eq hd]
  rw [activeAt, activeAt, htexts]

theorem matchesAt_eq (number : Nat) : s.matchesAt w' number = s.matchesAt w number := by
  rw [Bool.eq_iff_iff, matchesAt, matchesAt, List.any_eq_true, List.any_eq_true]
  exact exists_congr fun d => and_congr_right fun hd => by rw [h.isActive_eq hd]

end ComparesAlike

/-- Every rule takes a place of its own. -/
theorem size_pushAll (s : RuleStore) (rules : List Rule) :
    (s.pushAll rules).size = s.size + rules.length := by
  induction rules generalizing s with
  | nil => rfl
  | cons r rules ih =>
    have hrest : (s.pushAll (r :: rules)).size = (s.push r).size + rules.length := ih (s.push r)
    rw [hrest, size_push, List.length_cons]
    omega

end RuleStore

/-! ## What passes find -/

namespace Shared

/-- What there is apart from what passes have found. -/
def unflagged (s : Shared σ) : Shared σ := s.record fun _ => false

@[simp] theorem unflagged_record (s : Shared σ) (found : Nat → Bool) :
    (s.record found).unflagged = s.unflagged := record_record ..

@[simp] theorem viewport_unflagged (s : Shared σ) : s.unflagged.viewport = s.viewport := rfl

/-- What can be seen of queries is not what a pass has found. -/
theorem map_view_unflagged (s : Shared σ) :
    s.unflagged.queries.map LiveQuery.view = s.queries.map LiveQuery.view := by
  apply List.ext_getElem?
  intro i
  simp only [unflagged, record, List.getElem?_map, List.getElem?_mapIdx, Option.map_map]
  rfl

/-- A query that has told before what a pass finds does not change. -/
theorem isChanged_record {s : Shared σ} {found : Nat → Bool}
    (h : ∀ i q, s.bare[i]? = some q → q.previous = found i) :
    ∀ q ∈ (s.record found).queries, q.isChanged = false := by
  intro q hq
  obtain ⟨i, hi⟩ := List.getElem?_of_mem hq
  rw [record, List.getElem?_mapIdx] at hi
  obtain ⟨q', hq', rfl⟩ := Option.map_eq_some_iff.mp hi
  have hbare : s.bare[i]? = some q'.bare := by rw [getElem?_bare, hq', Option.map_some]
  have hprevious : q'.bare.previous = found i := h i q'.bare hbare
  rw [LiveQuery.previous_bare] at hprevious
  simp [LiveQuery.isChanged, LiveQuery.record, hprevious]

/-- Where no query changes, a round calls nobody. -/
theorem settleAll_of_unchanged {s : Shared σ} (h : ∀ q ∈ s.queries, q.isChanged = false)
    (numbers : List Nat) : s.settleAll numbers = .idle s := by
  induction numbers with
  | nil => rfl
  | cons number rest ih =>
    have hfirst : s.settle number = .idle s := by
      rw [settle]
      cases hq : s.queries[number]? with
      | none => rfl
      | some q => simp only [h q (List.mem_of_getElem? hq), Bool.false_eq_true, if_false]
    rw [settleAll, hfirst, Round.idle_andThen, ih]

end Shared

/-! ## Steps that store no rule -/

/-- Steps keep all places in the store. -/
theorem size_le_runSteps (steps : List (Step σ)) (e : Engine σ) :
    e.store.size ≤ (runSteps steps e).store.size := by
  refine runSteps_invariant (P := fun e' => e.store.size ≤ e'.store.size) (fun step _ e' h => ?_)
    (Nat.le_refl _)
  rw [step.store_eq, RuleStore.size_pushAll]
  exact Nat.le_trans h (Nat.le_add_right ..)

namespace Step

variable {step : Step σ} {e : Engine σ}

/-- A step that takes no place in the store stores no rule. -/
theorem store_run_of_size_le (h : (step.run e).store.size ≤ e.store.size) :
    (step.run e).store = e.store := by
  have hstore := step.store_eq e
  rw [hstore, RuleStore.size_pushAll] at h
  have hnone : step.rules e.shared.queries.length = [] :=
    List.eq_nil_of_length_eq_zero (by omega)
  rw [hstore, hnone]
  rfl

theorem ne_register_of_store_run (h : (step.run e).store = e.store) (media : String) :
    step ≠ .register media := by
  rintro rfl
  have hsize := congrArg RuleStore.size (store_eq (.register media) e)
  rw [h, RuleStore.size_pushAll] at hsize
  exact Nat.ne_of_lt (Nat.lt_succ_self _) hsize

/-- What is done without new rules, passes and the host touches nothing that listeners can reach. -/
theorem shared_run (hpass : step ≠ .pass) (hhost : ∀ action, step ≠ .host action)
    (hstore : (step.run e).store = e.store) : (step.run e).shared = e.shared := by
  cases step with
  | pass => exact absurd rfl hpass
  | host action => exact absurd rfl (hhost action)
  | register media => exact absurd rfl (ne_register_of_store_run hstore media)
  | _ => rfl

/-- What the host does leaves the queries as they are, but for their listeners. -/
theorem bare_run (hpass : step ≠ .pass) (hstore : (step.run e).store = e.store) :
    (step.run e).shared.bare = e.shared.bare := by
  by_cases hhost : ∃ action, step = .host action
  · obtain ⟨action, rfl⟩ := hhost
    cases action with
    | act program => exact MediaQuery.bare_run program e.shared
    | _ => rfl
  · rw [shared_run hpass (fun action he => hhost ⟨action, he⟩) hstore]

end Step

/-! ## Engines at rest -/

namespace Engine

variable {e : Engine σ} {d : Document} {w : Float}

/-- What is active at a width stands in the head of the document, and all queries tell what holds
there. -/
structure RestsAt (e : Engine σ) (d : Document) (w : Float) : Prop where
  fresh : d.IsFresh
  styled : IsStyled d (e.store.activeAt w).buckets e.document e.injected
  settled : e.shared.IsSettled
  matching : ∀ i q, e.shared.bare[i]? = some q → q.isMatching = e.store.matchesAt w i

/-- A pass without a failure brings an engine to rest. -/
theorem exists_restsAt_apply (hfresh : e.document.IsFresh) (hsettled : e.shared.IsSettled)
    (hok : e.apply.result = .ok ()) : ∃ d, e.apply.engine.RestsAt d e.width := by
  obtain ⟨d, hbare, hstyled⟩ :=
    Injection.exists_isStyled hfresh e.injected (e.store.activeAt e.width)
  refine ⟨d, hbare, hstyled, isSettled_apply hsettled, fun i q hq => ?_⟩
  rcases e.pass_cases hsettled with ⟨-, hs⟩ | ⟨k, -, cause, q', call, -, hfailed, -⟩
  · rw [Shared.getElem?_bare] at hq
    obtain ⟨q, hq', rfl⟩ := Option.map_eq_some_iff.mp hq
    rw [LiveQuery.isMatching_bare]
    have hlt : i < e.shared.queries.length := by
      rw [← Shared.length_medias, ← medias_apply hsettled, Shared.length_medias]
      exact (List.getElem?_eq_some_iff.mp hq').1
    exact Shared.isMatching_of_settles hs hq' (List.mem_range.mpr hlt)
  · rw [hfailed] at hok
    exact absurd hok (by simp)

namespace RestsAt

/-- An engine stays at rest in whatever step is not a pass, stores no rule and leaves the document
alone. -/
theorem step (h : e.RestsAt d w) {step : Step σ} (hpass : step ≠ .pass)
    (hdocument : step.keepsDocument = true) (hstore : (step.run e).store = e.store) :
    (step.run e).RestsAt d w := by
  obtain ⟨hd, hi⟩ := Step.document_run hpass hdocument e
  have hbare := Step.bare_run hpass hstore
  refine ⟨h.fresh, ?_, ?_, ?_⟩
  · rw [hd, hi, hstore]
    exact h.styled
  · rw [Shared.IsSettled, hbare]
    exact h.settled
  · rw [hbare, hstore]
    exact h.matching

/-- A pass at a width that compares alike calls nobody, and leaves the engine at rest. -/
theorem apply (h : e.RestsAt d w) (halike : e.store.ComparesAlike w e.width) :
    e.apply.failure? = none ∧ e.apply.report.calls = [] ∧
      e.apply.engine.shared.unflagged = e.shared.unflagged ∧ e.apply.engine.RestsAt d w := by
  have hprevious : ∀ i q, e.shared.bare[i]? = some q →
      q.previous = e.store.matchesAt e.width i := by
    intro i q hq
    rw [halike.matchesAt_eq, ← h.matching i q hq]
    exact (h.settled q (List.mem_of_getElem? hq)).symm
  have hround : (e.shared.record (e.store.matchesAt e.width)).dispatch = .idle _ :=
    Shared.settleAll_of_unchanged (Shared.isChanged_record hprevious) _
  have hshared : e.apply.engine.shared = e.shared.record (e.store.matchesAt e.width) := by
    rw [shared_apply, hround]
    rfl
  refine ⟨?_, ?_, ?_, h.fresh, ?_, isSettled_apply h.settled, fun i q hq => ?_⟩
  · rw [Outcome.failure?_eq_none_iff]
    exact ⟨(), (result_apply_eq_ok_iff e).mpr (congrArg Round.failure hround)⟩
  · rw [calls_apply, hround]
    rfl
  · rw [hshared, Shared.unflagged_record]
  · rw [store_apply, ← halike.activeAt_eq]
    exact h.styled.inject h.fresh _
  · rw [hshared, Shared.getElem?_bare_record] at hq
    obtain ⟨q', hq', rfl⟩ := Option.map_eq_some_iff.mp hq
    exact h.matching i q' hq'

/-- Documents of engines at rest over the same rules are written alike. -/
theorem looksAlike {e' : Engine σ} (h : e.RestsAt d w) (h' : e'.RestsAt d w)
    (hstore : e'.store = e.store) :
    e'.document.toHtml = e.document.toHtml ∧
      e'.injected.map Node.shown = e.injected.map Node.shown := by
  have hstyled := h'.styled
  rw [hstore] at hstyled
  exact ⟨hstyled.toHtml_eq h.styled, hstyled.map_shown.trans h.styled.map_shown.symm⟩

end RestsAt

end Engine

/-! ## Operations at rest -/

namespace Performs

variable {steps : List (Step σ)} {e : Engine σ} {effect : Effect σ} {d : Document} {w : Float}

/-- Steps of an engine at rest that store no rule change nothing, at a width that compares alike. -/
theorem rests (h : Performs steps e effect) (hhost : ∀ action, .host action ∉ steps)
    (hstore : effect.engine.store = e.store) (hrests : e.RestsAt d w)
    (halike : e.store.ComparesAlike w e.width) :
    effect.failure = none ∧ effect.calls = [] ∧
      effect.engine.shared.unflagged = e.shared.unflagged ∧ effect.engine.RestsAt d w := by
  induction h with
  | done => exact ⟨rfl, rfl, rfl, hrests⟩
  | @step step rest e effect hpass hrest ih =>
    have hfirst : ∀ action, step ≠ .host action := fun action he =>
      hhost action (he ▸ List.mem_cons_self ..)
    have hlater : ∀ action, .host action ∉ rest := fun action hmem =>
      hhost action (List.mem_cons_of_mem _ hmem)
    -- what a step adds to the store stays there, so this one adds nothing
    have hkept : (step.run e).store = e.store := by
      refine Step.store_run_of_size_le ?_
      rw [← hstore, hrest.engine_eq]
      exact size_le_runSteps rest (step.run e)
    have hdocument : step.keepsDocument = true := by
      cases step with
      | host action => exact absurd rfl (hfirst action)
      | _ => rfl
    have hshared := Step.shared_run hpass hfirst hkept
    have hwidth : (step.run e).width = e.width :=
      Engine.width_congr (congrArg Shared.viewport hshared) (step.mode_document_run e)
    rw [← hshared]
    exact ih hlater (hstore.trans hkept.symm) (hrests.step hpass hdocument hkept)
      (by rwa [hkept, hwidth])
  | @pass e =>
    obtain ⟨hok, hcalls, hshared, hafter⟩ := hrests.apply halike
    exact ⟨hok, hcalls, hshared, hafter⟩
  | @passed rest e effect _ hrest ih =>
    have hlater : ∀ action, .host action ∉ rest := fun action hmem =>
      hhost action (List.mem_cons_of_mem _ hmem)
    obtain ⟨-, hcalls, hshared, hafter⟩ := hrests.apply halike
    have hviewport := congrArg Shared.viewport hshared
    rw [Shared.viewport_unflagged, Shared.viewport_unflagged] at hviewport
    have hwidth : e.apply.engine.width = e.width :=
      Engine.width_congr hviewport (Step.pass.mode_document_run e)
    obtain ⟨hok, hnone, hrest', hlast⟩ := ih hlater hstore hafter (by rwa [hwidth])
    exact ⟨hok, congrArg₂ List.append hcalls hnone, hrest'.trans hshared, hlast⟩

end Performs

/-- An operation has succeeded, and nothing that can be seen of an engine from outside has changed
by it: it has called no listener, and the queries, the markup of the document and the style elements
show what they showed. -/
structure Outcome.ChangesNothing (o : Outcome σ Unit) (e : Engine σ) : Prop where
  ok : o.result = .ok ()
  calls : o.report.calls = []
  queries : o.engine.shared.queries.map LiveQuery.view = e.shared.queries.map LiveQuery.view
  markup : o.engine.document.toHtml = e.document.toHtml
  styles : o.engine.injected.map Node.shown = e.injected.map Node.shown

/-- The last pass of a run was at a width and has succeeded, and since then the host has left the
head of the document alone. -/
def LastPassSucceededAt (width : Float) (ops : List (Operation σ)) (e : Engine σ) : Prop :=
  ∃ before after, history ops e = before ++ .pass :: after ∧ .pass ∉ after ∧
    (∀ step ∈ after, step.keepsDocument = true) ∧ (runSteps before e).width = width ∧
    (runSteps before e).apply.result = .ok ()

namespace Engine

/-- A run whose last pass has succeeded leaves an engine at rest. -/
theorem exists_restsAt_runAll {document : Document} (hfresh : document.IsFresh)
    {viewport : Viewport} {now : Nat} {host : σ} {ops : List (Operation σ)} {width : Float}
    (hlast : LastPassSucceededAt width ops (ofDocument document viewport now host)) :
    ∃ d, (runAll ops (ofDocument document viewport now host)).RestsAt d width := by
  obtain ⟨before, after, hsplit, hpass, hkeeps, rfl, hok⟩ := hlast
  have hgiven := Injection.IsGivenOut.runSteps hfresh viewport now host before
  have hqueries := hasTrueQueries_runSteps document viewport now host before
  obtain ⟨d, hrests⟩ := exists_restsAt_apply hgiven.fresh hqueries.settled hok
  have hfollows := passFollows_history ops (ofDocument document viewport now host)
  rw [hsplit, ← List.singleton_append, ← List.append_assoc] at hfollows
  have hrules := hfollows.keepsRules hpass
  rw [← runSteps_history, hsplit, runSteps_append, runSteps_cons]
  refine ⟨d, runSteps_invariant (P := fun e' => e'.RestsAt d _) (fun step hstep e' h => ?_) hrests⟩
  exact h.step (fun he => hpass (he ▸ hstep)) (hkeeps step hstep)
    (Step.store_run (hrules step hstep) e')

/-- An operation that stores no rule changes nothing about an engine at rest. -/
theorem RestsAt.changesNothing {e : Engine σ} {d : Document} {w : Float} (h : e.RestsAt d w)
    (halike : e.store.ComparesAlike w e.width) {op : Operation σ}
    (hhost : ∀ action, op ≠ .host action) (hstore : (op.run e).engine.store = e.store) :
    (op.run e).ChangesNothing e := by
  obtain ⟨hok, hcalls, hshared, hrests⟩ := (performs_run op e).rests
    (fun action hmem => hhost action (Operation.eq_host_of_mem_steps hmem)) hstore h halike
  obtain ⟨hmarkup, hstyles⟩ := h.looksAlike hrests hstore
  refine ⟨?_, hcalls, ?_, hmarkup, hstyles⟩
  · obtain ⟨_, hok⟩ := Outcome.failure?_eq_none_iff.mp hok
    exact hok
  · have hviews := congrArg (fun s => s.queries.map LiveQuery.view) hshared
    simp only [Shared.map_view_unflagged] at hviews
    exact hviews

/-- Take any run from a document with fresh identities, as every document has that was constructed,
and let its last pass have succeeded at a width, with no work of the host on the head since. If the
width is now one that lies on the same side of every bound in the store, then an operation that
stores no rule, however many passes it runs, succeeds, calls no listener, and changes nothing about
what queries tell, how the document is written and what the style elements show. In particular a
pass that has succeeded, and has left the width as it was, can be run again and changes nothing. -/
theorem alike_widths_change_nothing (document : Document) (hfresh : document.IsFresh)
    (viewport : Viewport) (now : Nat) (host : σ) (ops : List (Operation σ)) :
    let start := ofDocument document viewport now host
    let e := runAll ops start
    (∀ (w : Float) (op : Operation σ), LastPassSucceededAt w ops start →
      e.store.ComparesAlike w e.width → (∀ action, op ≠ .host action) →
        (op.run e).engine.store = e.store → (op.run e).ChangesNothing e) ∧
      (e.apply.result = .ok () → e.apply.engine.width = e.width →
        e.apply.engine.apply.ChangesNothing e.apply.engine) := by
  intro start e
  refine ⟨fun w op hlast halike hhost hstore => ?_, fun hok hwidth => ?_⟩
  · obtain ⟨d, hrests⟩ := exists_restsAt_runAll hfresh hlast
    exact hrests.changesNothing halike hhost hstore
  · have hlast : LastPassSucceededAt e.width (ops ++ [.apply]) start := by
      refine ⟨history ops start, [], history_append .., List.not_mem_nil, by simp, ?_, ?_⟩
      · rw [runSteps_history]
      · rwa [runSteps_history]
    obtain ⟨d, hrests⟩ := exists_restsAt_runAll hfresh hlast
    rw [runAll_append] at hrests
    have halike : e.apply.engine.store.ComparesAlike e.width e.apply.engine.width := by
      rw [hwidth]
      exact RuleStore.ComparesAlike.refl _ _
    have hagain : ((.apply : Operation σ).run e.apply.engine).ChangesNothing e.apply.engine :=
      RestsAt.changesNothing hrests halike (fun action he => nomatch he) rfl
    exact hagain

/-- A rule for wide pages and a live query for wider ones, with a listener that would fail; then the
page becomes narrower. -/
def narrowingRun : List (Operation Unit) :=
  [.parse "@media (min-width: 600px)\x7ba\x7d" "" none, .matchMedia "(min-width: 700px)",
    .host (.act (.addListener 0 (.fail "refused") fun _ => .setWidth 720 .done))]

/-- The engine behind a page that has become narrower, but crossed no bound. -/
def narrowed : Engine Unit := runAll narrowingRun (ofDocument headDocument (.ofWidth 800) 0 ())

theorem narrowed_page_stays_as_it_is :
    headDocument.IsFresh ∧
      LastPassSucceededAt 800 narrowingRun (ofDocument headDocument (.ofWidth 800) 0 ()) ∧
      narrowed.width = 720 ∧ narrowed.store.ComparesAlike 800 narrowed.width ∧
      ((Operation.parse "b" "" none).run narrowed).ChangesNothing narrowed ∧
      narrowed.apply.engine.apply.ChangesNothing narrowed.apply.engine ∧
      narrowed.document.toHtml =
        "<html><head><style type=\"text/css\" media=\"all\">a</style></head></html>" := by
  have hfresh : headDocument.IsFresh := Dom.Construction.isFresh_finish _
  have hlast : LastPassSucceededAt 800 narrowingRun
      (ofDocument headDocument (.ofWidth 800) 0 ()) :=
    ⟨[.store _ _ _, .pass, .register _], [.host _], rfl, by simp,
      fun step hstep => by rw [List.mem_singleton.mp hstep]; rfl, by decide +kernel,
      (result_apply_eq_ok_iff _).mpr (by decide +kernel)⟩
  have halike : narrowed.store.ComparesAlike 800 narrowed.width := by
    unfold RuleStore.ComparesAlike
    decide +kernel
  -- the text holds no rule
  have hstore : ((Operation.parse "b" "" none).run narrowed).engine.store = narrowed.store := by
    have hnone : Rule.parts "b" none = [] := by decide +kernel
    change (storeBlocks narrowed.store (MediaBlock.ofSheet "b" "" none)).2 = narrowed.store
    rw [storeBlocks_ofSheet, Rule.ofSheet, hnone]
    rfl
  have hok : narrowed.apply.result = .ok () :=
    (result_apply_eq_ok_iff _).mpr (by decide +kernel)
  have h := alike_widths_change_nothing headDocument hfresh (.ofWidth 800) 0 () narrowingRun
  exact ⟨hfresh, hlast, by decide +kernel, halike,
    h.1 800 _ hlast halike (fun _ he => nomatch he) hstore, h.2 hok (by decide +kernel),
    by decide +kernel⟩

end Engine

end MediaQuery
