import MediaQuery.Proofs.Rule.Replacement
import MediaQuery.Proofs.Run.Asking

/-!
# Loading stylesheets as a rerun

A host that has loaded stylesheets wants the page to show what is active at the width it has then,
and the live queries to tell the truth about it (`IsUpToDate`). A pass brings an engine there, and
what comes behind the last pass of a loading only notes references. But a loading runs passes for
the sheets that it takes in, and for nothing else: where there is none, the engine is as up to date
afterwards as it was before.

* `loading_is_a_rerun_where_a_sheet_is_taken_in` — what a loading does to an engine, after any run
* `widened_page_is_not_run_again` — a page that has changed its width since the last pass
-/

namespace MediaQuery

variable {σ : Type}

open Injection (inject)

namespace Engine

/-- The head of the document shows the style elements for what is active at the width that counts,
and all live queries tell the truth about it. Without a head there are no style elements. -/
structure IsUpToDate (e : Engine σ) : Prop where
  shown : e.injected.map Dom.Node.shown =
    if e.document.head?.isSome then
      (e.store.activeAt e.width).buckets.map fun b => (some b.mediaType, b.css)
    else []
  inHead : ∀ children, e.document.headChildren? = some children → e.injected <:+: children
  accurate : ∀ q ∈ e.shared.queries, q.IsAccurateAt e.width

end Engine

/-! ## A pass -/

/-- Style elements for what is active stand in the head, if there is one. -/
theorem Injection.shown_inject (d : Dom.Document) (previous : List Dom.Node) (active : ActiveSet) :
    ((inject d previous active).injected.map Dom.Node.shown =
      if (inject d previous active).document.head?.isSome then
        active.buckets.map fun b => (some b.mediaType, b.css)
      else []) ∧
    ∀ children, (inject d previous active).document.headChildren? = some children →
      (inject d previous active).injected <:+: children := by
  cases hhead : d.headChildren? with
  | none =>
    have hinject : inject d previous active = ⟨d, [], .noHead⟩ := by rw [inject, hhead]
    rw [hinject]
    refine ⟨?_, fun children _ => List.nil_infix⟩
    rw [if_neg (by simpa [Dom.Document.headChildren?] using hhead), List.map_nil]
  | some children =>
    obtain ⟨path, hat⟩ := Dom.Document.exists_headAt hhead
    have hafter := Dom.Document.headChildren?_of_headAt (headAt_inject hat previous active)
    refine ⟨?_, fun children' hchildren' => ?_⟩
    · obtain ⟨head, hsome, -⟩ := Option.map_eq_some_iff.mp hafter
      rw [if_pos (by rw [hsome]; rfl), inject_eq hhead, map_shown_elements]
    · rw [hafter] at hchildren'
      exact ⟨_, _, Option.some.inj hchildren'⟩

namespace Engine

variable {e : Engine σ}

/-- A pass without a failure brings an engine up to date, unless a listener changes the width. -/
theorem isUpToDate_apply (h : e.HasTrueQueries) (hok : e.apply.result = .ok ())
    (hwidth : e.apply.engine.width = e.width) : e.apply.engine.IsUpToDate := by
  obtain ⟨hshown, hhead⟩ :=
    Injection.shown_inject e.document e.injected (e.store.activeAt e.width)
  refine ⟨?_, hhead, ?_⟩
  · rw [store_apply, hwidth]
    exact hshown
  · rw [hwidth]
    exact h.leavesQueriesTrue.ok hok

/-- What is noted as asked for makes no difference. -/
theorem isUpToDate_noted (hrefs : List String) :
    IsUpToDate { e with parsedSheets := hrefs } ↔ e.IsUpToDate :=
  ⟨fun h => ⟨h.shown, h.inHead, h.accurate⟩, fun h => ⟨h.shown, h.inHead, h.accurate⟩⟩

end Engine

/-! ## Steps that only note references -/

/-- Steps that only note references do nothing else. -/
theorem runSteps_of_asks {steps : List (Step σ)} (h : ∀ step ∈ steps, ∃ href, step = .ask href) :
    ∀ e : Engine σ,
      runSteps steps e = { e with parsedSheets := e.parsedSheets ++ askedFor steps } := by
  induction steps with
  | nil => intro e; simp [askedFor]
  | cons step steps ih =>
    intro e
    obtain ⟨href, rfl⟩ := h _ (List.mem_cons_self ..)
    rw [runSteps_cons, ih fun step hstep => h step (List.mem_cons_of_mem _ hstep), askedFor_cons]
    exact congrArg (fun hrefs => { e with parsedSheets := hrefs }) (List.append_assoc ..)

/-- What a loading is made of: references are noted, sheets are stored, and passes are run. -/
def Step.IsOfLoading : Step σ → Prop
  | ask _ | store .. | pass => True
  | _ => False

theorem Operation.isOfLoading_of_mem_steps {source : Source} {e : Engine σ} {step : Step σ}
    (h : step ∈ (update source).steps e) : step.IsOfLoading := by
  rw [steps] at h
  split at h
  · rw [List.mem_singleton.mp h]
    trivial
  · rcases Engine.cases_of_mem_loadSteps h with ⟨_, rfl⟩ | ⟨_, _, _, rfl⟩ | rfl <;> trivial

/-- Of the steps of a loading, those that neither store a sheet nor run a pass note a reference. -/
theorem Step.exists_ask {step : Step σ} (h : step.IsOfLoading) (hpass : step ≠ .pass)
    (hrules : step.keepsRules = true) : ∃ href, step = .ask href := by
  cases step with
  | ask href => exact ⟨href, rfl⟩
  | store => exact absurd hrules Bool.false_ne_true
  | pass => exact absurd rfl hpass
  | _ => exact absurd h not_false

/-- Steps of a loading that run passes at one width, and none that fails, bring an engine up to
date: behind the last pass only references are noted. -/
theorem Performs.isUpToDate {steps : List (Step σ)} {e : Engine σ} {effect : Effect σ}
    {w : Float} (h : Performs steps e effect) (hok : effect.failure = none)
    (hloading : ∀ step ∈ steps, step.IsOfLoading) (hfollows : PassFollows steps)
    (hpass : .pass ∈ steps) (htrue : e.HasTrueQueries)
    (hwidth : ∀ before after, steps = before ++ after → (runSteps before e).width = w) :
    effect.engine.IsUpToDate := by
  induction h with
  | done => exact absurd hpass List.not_mem_nil
  | @step step rest e effect hstep hrest ih =>
    refine ih hok (fun s hs => hloading s (List.mem_cons_of_mem _ hs)) hfollows.2
      (List.mem_of_ne_of_mem hstep.symm hpass) (htrue.step step) fun before after hsplit => ?_
    exact hwidth (step :: before) after (by rw [hsplit, List.cons_append])
  | @pass e =>
    obtain ⟨_, hresult⟩ := Outcome.failure?_eq_none_iff.mp hok
    refine Engine.isUpToDate_apply htrue hresult ?_
    exact (hwidth [.pass] [] rfl).trans (hwidth [] [.pass] rfl).symm
  | @passed rest e effect hpassed hrest ih =>
    have hloading' : ∀ step ∈ rest, step.IsOfLoading :=
      fun s hs => hloading s (List.mem_cons_of_mem _ hs)
    by_cases hmore : .pass ∈ rest
    · refine ih hok hloading' hfollows.2 hmore htrue.apply fun before after hsplit => ?_
      exact hwidth (.pass :: before) after (by rw [hsplit, List.cons_append])
    · -- this is the last pass
      have hlater : PassFollows ([.pass] ++ rest) := hfollows
      have hrules := hlater.keepsRules hmore
      have hasks : ∀ step ∈ rest, ∃ href, step = .ask href := fun s hs =>
        Step.exists_ask (hloading' s hs) (fun heq => hmore (heq ▸ hs)) (hrules s hs)
      have hlast : e.apply.engine.IsUpToDate := by
        obtain ⟨_, hresult⟩ := Outcome.failure?_eq_none_iff.mp hpassed
        refine Engine.isUpToDate_apply htrue hresult ?_
        exact (hwidth [.pass] rest rfl).trans (hwidth [] (.pass :: rest) rfl).symm
      change effect.engine.IsUpToDate
      rw [hrest.engine_eq, runSteps_of_asks hasks, Engine.isUpToDate_noted]
      exact hlast

/-! ## Loadings -/

namespace Operation

/-- In every state that an operation goes through the same width counts. -/
def KeepsWidth (op : Operation σ) (e : Engine σ) : Prop :=
  ∀ n ≤ (op.steps e).length, (runSteps ((op.steps e).take n) e).width = e.width

instance (op : Operation σ) (e : Engine σ) : Decidable (op.KeepsWidth e) :=
  inferInstanceAs (Decidable (∀ n ≤ _, _))

theorem KeepsWidth.width_eq {op : Operation σ} {e : Engine σ} (h : op.KeepsWidth e)
    {before after : List (Step σ)} (hsplit : op.steps e = before ++ after) :
    (runSteps before e).width = e.width := by
  have hbefore := h before.length (by rw [hsplit, List.length_append]; omega)
  rwa [hsplit, List.take_left] at hbefore

end Operation

/-- A loading runs a pass for each sheet that it takes in, and for nothing else. -/
theorem Engine.pass_mem_loadSteps_iff (source : Source) (base : Option String)
    (links : List Dom.StylesheetLink) (asked : List String) (e : Engine σ) :
    .pass ∈ loadSteps source base links asked e ↔
      ∃ text href media, .store text href media ∈ loadSteps source base links asked e := by
  refine loadSteps_induction (P := fun steps => .pass ∈ steps ↔ ∃ text href media,
    .store text href media ∈ steps) (by simp) (fun href steps ih => by simpa using ih) ?_
    source base links asked e
  intro href text media steps _
  exact iff_of_true (by simp) ⟨text, href, media, by simp⟩

theorem Operation.taken_eq_nil_iff {source : Source} {e : Engine σ} :
    (update source).taken e = [] ↔
      ∀ text href media, .store text href media ∉ (update source).steps e := by
  rw [taken, List.filterMap_eq_nil_iff]
  constructor
  · intro h text href media hmem
    exact absurd (h _ hmem) (by simp)
  · intro h step hstep
    cases step with
    | store text href media => exact absurd hstep (h text href media)
    | _ => rfl

namespace Engine

/-- Take any run and a loading of stylesheets after it that succeeds. If the page is shown by
something that knows media queries itself, or a sheet is taken in, and the same width counts all the
time, the engine is up to date afterwards. Else nothing has become different, but for the references
that are noted, so that the engine is up to date exactly if it was before. -/
theorem loading_is_a_rerun_where_a_sheet_is_taken_in (document : Dom.Document)
    (viewport : Viewport) (now : Nat) (host : σ) (ops : List (Operation σ)) (source : Source)
    (hok : ((runAll ops (ofDocument document viewport now host)).update source).result = .ok ()) :
    let e := runAll ops (ofDocument document viewport now host)
    let op := Operation.update source
    let o := e.update source
    (e.config.native = true ∨ op.taken e ≠ [] → op.KeepsWidth e → o.engine.IsUpToDate) ∧
    (e.config.native = false → op.taken e = [] →
      o.engine = { e with parsedSheets := e.parsedSheets ++ o.report.fetched } ∧
        (o.engine.IsUpToDate ↔ e.IsUpToDate)) := by
  intro e op o
  have hperforms : Performs (op.steps e) e o.effect := performs_run op e
  have hpasses : e.config.native = false →
      (.pass ∈ op.steps e ↔ op.taken e ≠ []) := by
    intro hnative
    have hsteps : op.steps e = e.loadSteps source e.document.baseHref? e.document.stylesheetLinks
        [] := if_neg (by simp [hnative])
    rw [Ne, Operation.taken_eq_nil_iff, hsteps, pass_mem_loadSteps_iff]
    simp
  constructor
  · intro hloads hwidth
    have hpass : .pass ∈ op.steps e := by
      cases hnative : e.config.native with
      | true => simp [op, Operation.steps, hnative]
      | false => exact (hpasses hnative).mpr (hloads.resolve_left (by simp [hnative]))
    have htrue : e.HasTrueQueries := by
      rw [show e = runSteps (history ops (ofDocument document viewport now host)) _ from
        (runSteps_history ops _).symm]
      exact hasTrueQueries_runSteps document viewport now host _
    exact hperforms.isUpToDate (Outcome.failure?_eq_none_iff.mpr ⟨_, hok⟩)
      (fun _ => Operation.isOfLoading_of_mem_steps) (op.passFollows_steps e) hpass htrue
      fun _ _ => hwidth.width_eq
  · intro hnative htaken
    -- without a sheet there is no pass either, and only references are noted
    have hasks : ∀ step ∈ op.steps e, ∃ href, step = .ask href := by
      intro step hstep
      refine Step.exists_ask (Operation.isOfLoading_of_mem_steps hstep) ?_ ?_
      · rintro rfl
        exact (hpasses hnative).mp hstep htaken
      · cases step with
        | store text href media => exact absurd hstep (Operation.taken_eq_nil_iff.mp htaken _ _ _)
        | register media => exact absurd (Operation.isOfLoading_of_mem_steps hstep) not_false
        | _ => rfl
    have hengine : o.engine = { e with parsedSheets := e.parsedSheets ++ o.report.fetched } := by
      rw [show o.engine = runSteps (op.steps e) e from engine_run op e, runSteps_of_asks hasks,
        show o.report.fetched = askedFor (op.steps e) from fetched_run op e]
    exact ⟨hengine, by rw [hengine, isUpToDate_noted]⟩

/-- A rule and a live query for wide pages, and then the page becomes wide. -/
def wideningRun : List (Operation Unit) :=
  [.parse "@media (min-width: 600px)\x7ba\x7d" "" none, .matchMedia "(min-width: 600px)",
    .host (.act (.setWidth 700 .done))]

/-- The engine behind a page that has become wide. -/
def widened : Engine Unit := runAll wideningRun (ofDocument linkedDocument (.ofWidth 500) 0 ())

/-- A sheet that is taken in brings it up to date. -/
theorem new_sheet_brings_up_to_date :
    let op : Operation Unit := .update (.ofFunction oneSheet)
    let o := widened.update (.ofFunction oneSheet)
    o.result = .ok () ∧ op.taken widened = ["a.css"] ∧ op.KeepsWidth widened ∧
      o.engine.injected.map Dom.Node.shown = [(some "all", "a"), (some "print", "a")] ∧
      o.engine.IsUpToDate := by
  have hnone : (widened.update (.ofFunction oneSheet)).failure? = none := by decide +kernel
  obtain ⟨_, hok⟩ := Outcome.failure?_eq_none_iff.mp hnone
  have htaken : (Operation.update (.ofFunction oneSheet)).taken widened = ["a.css"] := by
    decide +kernel
  have hwidth : (Operation.update (.ofFunction oneSheet)).KeepsWidth widened := by
    decide +kernel
  have hsome : (Operation.update (.ofFunction oneSheet)).taken widened ≠ [] := by
    rw [htaken]
    exact List.cons_ne_nil _ _
  have hlaw := loading_is_a_rerun_where_a_sheet_is_taken_in linkedDocument (.ofWidth 500) 0 ()
    wideningRun (.ofFunction oneSheet) hok
  exact ⟨hok, htaken, hwidth, by decide +kernel, hlaw.1 (.inr hsome) hwidth⟩

/-- Where there is no sheet to take in, the page goes without the rule, and the live query goes on
telling what was true of the narrow page. -/
theorem widened_page_is_not_run_again :
    let o := widened.update (.ofFunction noSheet)
    widened.config.native = false ∧ o.result = .ok () ∧
      (Operation.update (.ofFunction noSheet)).KeepsWidth widened ∧
      o.engine.injected.map Dom.Node.shown = [] ∧
      (o.engine.store.activeAt o.engine.width).buckets.map Bucket.css = ["a"] ∧
      (¬ ∀ q ∈ o.engine.shared.queries, q.IsAccurateAt o.engine.width) ∧
      ¬ o.engine.IsUpToDate := by
  intro o
  have hnone : o.failure? = none := by decide +kernel
  obtain ⟨_, hok⟩ := Outcome.failure?_eq_none_iff.mp hnone
  have hquery : ¬ ∀ q ∈ o.engine.shared.queries, q.IsAccurateAt o.engine.width := by
    unfold LiveQuery.IsAccurateAt
    decide +kernel
  exact ⟨rfl, hok, by decide +kernel, by decide +kernel, by decide +kernel, hquery,
    fun h => hquery h.accurate⟩

end Engine

end MediaQuery
