import MediaQuery.Engine.Update

/-!
# Runs of an engine, step by step

A host drives an engine by operations, in any order, and between them works on the queries, the
viewport, the clock and the head of the document. An operation is made of steps: it stores rules,
registers a query, takes in a resize, notes a reference as asked for, and runs passes. Loading
stylesheets is the one operation that may run several passes, so what is true after every pass is
said of steps, and what is true between operations of operations.

`Performs` says what some steps do, and `performs_run` that an operation does what its steps do.
`history` lists the steps of a run, and `runSteps_history` says that they lead where the operations
lead.
-/

namespace MediaQuery

variable {σ : Type}

/-! ## Operations -/

/-- What a host does by itself, between the operations of an engine. -/
inductive HostAction (σ : Type) where
  /-- Works on queries, viewport and clock, in the way in which listeners do. -/
  | act (program : Program σ)
  | configure (config : Config)
  | replaceClock (now : Nat)
  | insertInHead (position : Nat) (node : Dom.NodeId → Dom.Node)
  | removeFromHead (position : Nat)

/-- What can be done with an engine. -/
inductive Operation (σ : Type) where
  | parse (text href : String) (media : Option String)
  | matchMedia (media : String)
  | apply
  | onViewportChange
  | runPending
  | update (source : Source)
  | host (action : HostAction σ)

/-- What operations are made of. -/
inductive Step (σ : Type) where
  /-- The rules of a stylesheet go to the store. -/
  | store (text href : String) (media : Option String)
  /-- A live query is registered. -/
  | register (media : String)
  /-- A reference is noted as asked for. -/
  | ask (href : String)
  /-- A resize is taken in. -/
  | signal
  | pass
  | host (action : HostAction σ)

/-- The engine after an action of the host. -/
def HostAction.run : HostAction σ → Engine σ → Engine σ
  | act program, e => { e with shared := (program.run e.shared).2 }
  | configure config, e => e.withConfig config
  | replaceClock now, e => e.withClock now
  | insertInHead position node, e =>
    { e with document := e.document.insertInHead position node }
  | removeFromHead position, e => { e with document := e.document.removeFromHead position }

namespace Engine

/-- The engine with the rules of a stylesheet in its store. -/
def storeSheet (e : Engine σ) (text href : String) (media : Option String) : Engine σ :=
  { e with store := (storeBlocks e.store (MediaBlock.ofSheet text href media)).2 }

/-- The engine with one more live query. -/
def register (e : Engine σ) (media : String) : Engine σ :=
  { e with
    store := (e.store.pushRule (.query e.shared.queries.length)
      (Condition.readList media.toList)).2
    shared := { e.shared with queries := e.shared.queries ++ [LiveQuery.ofMedia media] } }

/-- The engine with a reference noted as asked for. -/
def ask (e : Engine σ) (href : String) : Engine σ :=
  { e with parsedSheets := e.parsedSheets ++ [href] }

/-- The engine with a resize taken in. -/
def takeSignal (e : Engine σ) : Engine σ :=
  { e with throttle := (e.throttle.signal e.shared.now).2 }

end Engine

/-- The engine after a step. -/
def Step.run : Step σ → Engine σ → Engine σ
  | store text href media, e => e.storeSheet text href media
  | register media, e => e.register media
  | ask href, e => e.ask href
  | signal, e => e.takeSignal
  | pass, e => e.apply.engine
  | host action, e => action.run e

namespace Operation

/-- What an operation leads to, apart from its result. -/
def run : Operation σ → Engine σ → Outcome σ Unit
  | parse text href media, e => (e.parse text href media).map fun _ => ()
  | matchMedia media, e => (e.matchMedia media).map fun _ => ()
  | apply, e => e.apply
  | onViewportChange, e => e.onViewportChange
  | runPending, e => e.runPending.map fun _ => ()
  | update source, e => e.update source
  | host action, e => .pure (action.run e) ()

/-- Whether an operation leaves the document to the engine. -/
def keepsDocument : Operation σ → Bool
  | host (.insertInHead ..) | host (.removeFromHead _) => false
  | _ => true

/-- Whether an operation leaves the settings and the clock as they are, apart from time going on. -/
def keepsClock : Operation σ → Bool
  | host (.configure _) | host (.replaceClock _) => false
  | _ => true

end Operation

/-- The engine after some operations. Those after a failed one are carried out all the same. -/
def runAll (ops : List (Operation σ)) (e : Engine σ) : Engine σ :=
  ops.foldl (fun e op => (op.run e).engine) e

/-- The engine after some steps. -/
def runSteps (steps : List (Step σ)) (e : Engine σ) : Engine σ :=
  steps.foldl (fun e step => step.run e) e

@[simp] theorem runAll_nil (e : Engine σ) : runAll [] e = e := rfl

@[simp] theorem runAll_cons (op : Operation σ) (ops : List (Operation σ)) (e : Engine σ) :
    runAll (op :: ops) e = runAll ops (op.run e).engine := rfl

theorem runAll_append (before after : List (Operation σ)) (e : Engine σ) :
    runAll (before ++ after) e = runAll after (runAll before e) := List.foldl_append

@[simp] theorem runSteps_nil (e : Engine σ) : runSteps [] e = e := rfl

@[simp] theorem runSteps_cons (step : Step σ) (steps : List (Step σ)) (e : Engine σ) :
    runSteps (step :: steps) e = runSteps steps (step.run e) := rfl

@[simp] theorem runSteps_append (before after : List (Step σ)) (e : Engine σ) :
    runSteps (before ++ after) e = runSteps after (runSteps before e) := by
  simp [runSteps, List.foldl_append]

/-! ## The steps of an operation -/

/-- The steps in which the stylesheets of some links are loaded. -/
def Engine.loadSteps (source : Source) (base : Option String) :
    (links : List Dom.StylesheetLink) → (asked : List String) → Engine σ → List (Step σ)
  | [], _, _ => []
  | link :: rest, asked, e =>
    if e.parsedSheets.contains link.href then loadSteps source base rest asked e
    else if !Url.isSameOrigin link.href base e.config.pageHost then
      loadSteps source base rest asked e
    else
      let e := e.ask link.href
      let later := loadSteps source base rest (asked ++ [link.href])
      .ask link.href ::
        match source.fetch asked link.href with
        | .ok (some text) =>
          let pass := (e.storeSheet text link.href link.media).apply
          .store text link.href link.media :: .pass ::
            match pass.result with
            | .ok _ => later pass.engine
            | .error _ => []
        | _ => later e

/-- The steps of an operation. -/
def Operation.steps : Operation σ → Engine σ → List (Step σ)
  | parse text href media, _ => [.store text href media, .pass]
  | matchMedia media, _ => [.register media, .pass]
  | apply, _ => [.pass]
  | onViewportChange, e =>
    match (e.throttle.signal e.shared.now).1 with
    | .runNow => [.signal, .pass]
    | .deferred _ => [.signal]
  | runPending, e => if e.throttle.isDue e.shared.now then [.pass] else []
  | update source, e =>
    if e.config.native then [.pass]
    else e.loadSteps source e.document.baseHref? e.document.stylesheetLinks []
  | host action, _ => [.host action]

/-- The steps of a run. -/
def history : List (Operation σ) → Engine σ → List (Step σ)
  | [], _ => []
  | op :: ops, e => op.steps e ++ history ops (op.run e).engine

namespace Engine

theorem engine_parse (e : Engine σ) (text href : String) (media : Option String) :
    (e.parse text href media).engine = (e.storeSheet text href media).apply.engine := rfl

theorem engine_matchMedia (e : Engine σ) (media : String) :
    (e.matchMedia media).engine = (e.register media).apply.engine := rfl

/-- A resize is taken in, and then a pass is run or there is nothing to do but to tell so. -/
theorem onViewportChange_eq (e : Engine σ) :
    e.onViewportChange =
      match (e.throttle.signal e.shared.now).1 with
      | .runNow => e.takeSignal.apply
      | .deferred due => (Outcome.pure e.takeSignal ()).logFirst [.deferred due] := by
  unfold onViewportChange takeSignal
  generalize e.throttle.signal e.shared.now = answer
  obtain ⟨action, throttle⟩ := answer
  cases action <;> rfl

/-- A stylesheet is taken in successfully exactly when the pass at the end is. -/
theorem result_parse (e : Engine σ) (text href : String) (media : Option String) :
    (e.parse text href media).result =
      (e.storeSheet text href media).apply.result.map fun _ =>
        (storeBlocks e.store (MediaBlock.ofSheet text href media)).1 := rfl

end Engine

/-! ## What an operation does -/

/-- What an operation leads to, apart from its result and from what there is to tell about it. -/
structure Effect (σ : Type) where
  engine : Engine σ
  /-- The failure that ended it, if it has failed. -/
  failure : Option Failure
  calls : List Call
  /-- The references that a source was asked for. -/
  fetched : List String

/-- The references that some steps ask for, in order. -/
def askedFor (steps : List (Step σ)) : List String :=
  steps.filterMap fun step =>
    match step with
    | .ask href => some href
    | _ => none

theorem askedFor_cons (step : Step σ) (steps : List (Step σ)) :
    askedFor (step :: steps) = askedFor [step] ++ askedFor steps := by
  rw [← List.singleton_append, askedFor, List.filterMap_append]
  rfl

theorem askedFor_append (steps later : List (Step σ)) :
    askedFor (steps ++ later) = askedFor steps ++ askedFor later := List.filterMap_append

namespace Outcome

variable {α β : Type} {o : Outcome σ α}

/-- The failure that ended an operation, if it has failed. -/
def failure? (o : Outcome σ α) : Option Failure :=
  match o.result with
  | .error failure => some failure
  | .ok _ => none

/-- What an operation has led to, as far as its steps decide about it. -/
def effect (o : Outcome σ α) : Effect σ := ⟨o.engine, o.failure?, o.report.calls, o.report.fetched⟩

theorem failure?_eq_some_iff {failure : Failure} :
    o.failure? = some failure ↔ o.result = .error failure := by
  unfold failure?
  cases o.result <;> simp

theorem failure?_eq_none_iff : o.failure? = none ↔ ∃ result, o.result = .ok result := by
  unfold failure?
  cases o.result <;> simp

theorem effect_map (f : α → β) (o : Outcome σ α) : (o.map f).effect = o.effect := by
  unfold effect failure? map
  cases o.result <;> rfl

theorem report_andThen_of_ok {result : α} (h : o.result = .ok result)
    (next : Engine σ → α → Outcome σ β) :
    (o.andThen next).report = o.report ++ (next o.engine result).report := by
  simp [andThen, h]

/-- Of two operations the second is run only if the first one has not failed. -/
theorem effect_andThen_of_ok {result : α} (h : o.result = .ok result)
    (next : Engine σ → α → Outcome σ β) :
    (o.andThen next).effect =
      { (next o.engine result).effect with
        calls := o.report.calls ++ (next o.engine result).report.calls
        fetched := o.report.fetched ++ (next o.engine result).report.fetched } := by
  obtain ⟨hengine, hresult⟩ := andThen_of_ok h next
  unfold effect failure?
  rw [hengine, hresult, report_andThen_of_ok h]
  rfl

theorem effect_andThen_of_error {failure : Failure} (h : o.result = .error failure)
    (next : Engine σ → α → Outcome σ β) : (o.andThen next).effect = o.effect := by
  unfold effect failure?
  rw [andThen_of_error h, h]

end Outcome

/-- What some steps do that come to their end, or to a pass that fails. -/
inductive Performs : List (Step σ) → Engine σ → Effect σ → Prop where
  | done {e : Engine σ} : Performs [] e ⟨e, none, [], []⟩
  | step {step : Step σ} {rest : List (Step σ)} {e : Engine σ} {effect : Effect σ}
    (hstep : step ≠ .pass) (hrest : Performs rest (step.run e) effect) :
    Performs (step :: rest) e { effect with fetched := askedFor [step] ++ effect.fetched }
  /-- The last pass may fail, -/
  | pass {e : Engine σ} : Performs [.pass] e e.apply.effect
  /-- and a pass that does not fail may be followed by others. -/
  | passed {rest : List (Step σ)} {e : Engine σ} {effect : Effect σ}
    (hpass : e.apply.failure? = none) (hrest : Performs rest e.apply.engine effect) :
    Performs (.pass :: rest) e { effect with calls := e.apply.report.calls ++ effect.calls }

namespace Performs

variable {steps : List (Step σ)} {e : Engine σ} {effect : Effect σ}

theorem engine_eq (h : Performs steps e effect) : effect.engine = runSteps steps e := by
  induction h with
  | done => rfl
  | step _ _ ih => exact ih
  | pass => rfl
  | passed _ _ ih => exact ih

theorem fetched_eq (h : Performs steps e effect) : effect.fetched = askedFor steps := by
  induction h with
  | done => rfl
  | step _ _ ih => exact (congrArg (askedFor [_] ++ ·) ih).trans (askedFor_cons ..).symm
  | pass => rfl
  | passed _ _ ih => exact ih

/-- To note a reference as asked for adds it to those that are reported. -/
theorem ask {href : String} (h : Performs steps (e.ask href) effect) :
    Performs (.ask href :: steps) e { effect with fetched := href :: effect.fetched } :=
  step (by simp) h

/-- To store rules adds nothing to what is reported. -/
theorem store {text href : String} {media : Option String}
    (h : Performs steps (e.storeSheet text href media) effect) :
    Performs (.store text href media :: steps) e effect :=
  step (by simp) h

end Performs

namespace Engine

theorem effect_parse (e : Engine σ) (text href : String) (media : Option String) :
    (e.parse text href media).effect = (e.storeSheet text href media).apply.effect :=
  Outcome.effect_map (fun _ => (storeBlocks e.store (MediaBlock.ofSheet text href media)).1)
    (e.storeSheet text href media).apply

theorem effect_matchMedia (e : Engine σ) (media : String) :
    (e.matchMedia media).effect = (e.register media).apply.effect :=
  Outcome.effect_map (fun _ => e.shared.queries.length) (e.register media).apply

/-- Loading stylesheets does what its steps do. -/
theorem performs_load (source : Source) (base : Option String) (links : List Dom.StylesheetLink) :
    ∀ (asked : List String) (e : Engine σ),
      Performs (loadSteps source base links asked e) e (load source base links asked e).effect := by
  induction links with
  | nil => exact fun asked e => .done
  | cons link rest ih =>
    intro asked e
    rw [load, loadSteps]
    by_cases hasked : e.parsedSheets.contains link.href = true
    · rw [if_pos hasked, if_pos hasked]
      exact ih asked e
    rw [if_neg hasked, if_neg hasked]
    by_cases horigin : (!Url.isSameOrigin link.href base e.config.pageHost) = true
    · rw [if_pos horigin, if_pos horigin]
      exact ih asked e
    rw [if_neg horigin, if_neg horigin]
    cases source.fetch asked link.href with
    | error failure => exact .ask (ih _ (e.ask link.href))
    | ok answer =>
      cases answer with
      | none => exact .ask (ih _ (e.ask link.href))
      | some text =>
        let stored := (e.ask link.href).storeSheet text link.href link.media
        let parsed := (e.ask link.href).parse text link.href link.media
        let later := fun (e : Engine σ) (_ : List Descriptor) =>
          load source base rest (asked ++ [link.href]) e
        have hresult : parsed.result = stored.apply.result.map _ :=
          result_parse (e.ask link.href) text link.href link.media
        -- the rules are stored, and the pass decides whether to go on
        suffices Performs
            (.pass :: match stored.apply.result with
              | .ok _ => loadSteps source base rest (asked ++ [link.href]) stored.apply.engine
              | .error _ => [])
            stored (parsed.andThen later).effect from
          .ask (.store this)
        cases hpass : stored.apply.result with
        | ok _ =>
          rw [hpass] at hresult
          rw [Outcome.effect_andThen_of_ok hresult]
          exact .passed (Outcome.failure?_eq_none_iff.mpr ⟨_, hpass⟩) (ih _ stored.apply.engine)
        | error failure =>
          rw [hpass] at hresult
          rw [Outcome.effect_andThen_of_error hresult, effect_parse]
          exact .pass

end Engine

namespace Operation

theorem effect_run_parse (text href : String) (media : Option String) (e : Engine σ) :
    ((parse text href media).run e).effect = (e.storeSheet text href media).apply.effect :=
  (Outcome.effect_map (fun _ => ()) (e.parse text href media)).trans
    (e.effect_parse text href media)

theorem effect_run_matchMedia (media : String) (e : Engine σ) :
    ((matchMedia media).run e).effect = (e.register media).apply.effect :=
  (Outcome.effect_map (fun _ => ()) (e.matchMedia media)).trans (e.effect_matchMedia media)

theorem effect_run_runPending (e : Engine σ) : (runPending.run e).effect = e.runPending.effect :=
  Outcome.effect_map (fun _ => ()) e.runPending

end Operation

/-- An operation does what its steps do. -/
theorem performs_run (op : Operation σ) (e : Engine σ) :
    Performs (op.steps e) e (op.run e).effect := by
  cases op with
  | parse text href media =>
    rw [Operation.effect_run_parse]
    exact .step (by simp) .pass
  | matchMedia media =>
    rw [Operation.effect_run_matchMedia]
    exact .step (by simp) .pass
  | apply => exact .pass
  | onViewportChange =>
    change Performs _ e e.onViewportChange.effect
    rw [Engine.onViewportChange_eq, Operation.steps]
    cases (e.throttle.signal e.shared.now).1 with
    | runNow => exact .step (by simp) .pass
    | deferred due => exact .step (by simp) .done
  | runPending =>
    rw [Operation.effect_run_runPending, Operation.steps, Engine.runPending]
    split
    · rw [Outcome.effect_map]
      exact .pass
    · exact .done
  | update source =>
    change Performs _ e (e.update source).effect
    rw [Operation.steps, Engine.update]
    split
    · exact .pass
    · exact Engine.performs_load source _ _ [] e
  | host action => exact .step (by simp) .done

/-- An operation leads where its steps lead. -/
theorem engine_run (op : Operation σ) (e : Engine σ) :
    (op.run e).engine = runSteps (op.steps e) e := (performs_run op e).engine_eq

/-- An operation reports what its steps ask for. -/
theorem fetched_run (op : Operation σ) (e : Engine σ) :
    (op.run e).report.fetched = askedFor (op.steps e) := (performs_run op e).fetched_eq

/-- A run leads where its steps lead. -/
theorem runSteps_history (ops : List (Operation σ)) :
    ∀ e : Engine σ, runSteps (history ops e) e = runAll ops e := by
  induction ops with
  | nil => intro e; rfl
  | cons op ops ih =>
    intro e
    rw [history, runSteps_append, ← engine_run, ih, runAll_cons]

theorem history_append (before after : List (Operation σ)) :
    ∀ e : Engine σ, history (before ++ after) e =
      history before e ++ history after (runAll before e) := by
  induction before with
  | nil => intro e; rfl
  | cons op before ih =>
    intro e
    rw [List.cons_append, history, history, ih, List.append_assoc, runAll_cons]

/-! ## What the host does -/

/-- A loading is made of sheets that are asked for and, where a source has them, taken in and
followed by a pass. What holds of no steps, and of some if it holds of those behind the first sheet,
holds of every loading. -/
theorem Engine.loadSteps_induction {P : List (Step σ) → Prop} (nil : P [])
    (ask : ∀ href steps, P steps → P (.ask href :: steps))
    (take : ∀ href text media steps, P steps →
      P (.ask href :: .store text href media :: .pass :: steps))
    (source : Source) (base : Option String) (links : List Dom.StylesheetLink) :
    ∀ (asked : List String) (e : Engine σ), P (loadSteps source base links asked e) := by
  induction links with
  | nil => exact fun _ _ => nil
  | cons link rest ih =>
    intro asked e
    rw [loadSteps]
    split
    · exact ih asked e
    split
    · exact ih asked e
    split
    · refine take _ _ _ _ ?_
      split
      · exact ih _ _
      · exact nil
    · exact ask _ _ (ih _ _)

/-- What the loading of stylesheets is made of. -/
theorem Engine.cases_of_mem_loadSteps {source : Source} {base : Option String}
    {links : List Dom.StylesheetLink} {step : Step σ} {asked : List String} {e : Engine σ}
    (h : step ∈ loadSteps source base links asked e) :
    (∃ href, step = .ask href) ∨ (∃ text href media, step = .store text href media) ∨
      step = .pass := by
  revert h
  refine loadSteps_induction (P := fun steps => step ∈ steps → _) (by simp)
    (fun href steps ih h => ?_) (fun href text media steps ih h => ?_) source base links asked e
  · rcases List.mem_cons.mp h with rfl | h
    · exact Or.inl ⟨href, rfl⟩
    · exact ih h
  · simp only [List.mem_cons] at h
    rcases h with rfl | rfl | rfl | h
    · exact Or.inl ⟨href, rfl⟩
    · exact Or.inr (Or.inl ⟨text, href, media, rfl⟩)
    · exact Or.inr (Or.inr rfl)
    · exact ih h

/-- A resize is taken in only where it is said to be. -/
theorem Operation.signal_not_mem_steps {op : Operation σ} {e : Engine σ}
    (hop : op ≠ .onViewportChange) : .signal ∉ op.steps e := by
  cases op with
  | onViewportChange => exact absurd rfl hop
  | runPending => rw [steps]; split <;> simp
  | update source =>
    rw [steps]
    split
    · simp
    · intro h
      rcases Engine.cases_of_mem_loadSteps h with ⟨_, he⟩ | ⟨_, _, _, he⟩ | he <;>
        exact absurd he (by simp)
  | _ => simp [steps]

/-- The host acts only where it is said to. -/
theorem Operation.eq_host_of_mem_steps {op : Operation σ} {e : Engine σ} {action : HostAction σ}
    (h : .host action ∈ op.steps e) : op = .host action := by
  cases op with
  | onViewportChange => rw [steps] at h; split at h <;> simp at h
  | runPending => rw [steps] at h; split at h <;> simp at h
  | update source =>
    rw [steps] at h
    split at h
    · simp at h
    · rcases Engine.cases_of_mem_loadSteps h with ⟨_, he⟩ | ⟨_, _, _, he⟩ | he <;>
        exact absurd he (by simp)
  | host action => simpa [steps, eq_comm] using h
  | _ => simp [steps] at h

theorem host_mem_of_mem_history {ops : List (Operation σ)} {action : HostAction σ} :
    ∀ {e : Engine σ}, .host action ∈ history ops e → .host action ∈ ops := by
  induction ops with
  | nil => intro e h; exact absurd h (by simp [history])
  | cons op ops ih =>
    intro e h
    rcases List.mem_append.mp h with h | h
    · rw [Operation.eq_host_of_mem_steps h]
      exact List.mem_cons_self ..
    · exact List.mem_cons_of_mem _ (ih h)

/-! ## What becomes of the document -/

/-- A step that changes the document at all gives its head other children. -/
theorem Step.children_document_run (step : Step σ) (e : Engine σ) :
    (step.run e).document.children = e.document.children ∨
      ∃ children, (step.run e).document.children =
        (e.document.withHeadChildren children).children := by
  cases step with
  | pass =>
    change (Injection.inject e.document e.injected _).document.children = _ ∨
      ∃ children, (Injection.inject e.document e.injected _).document.children = _
    rw [Injection.inject]
    split
    · exact Or.inl rfl
    · exact Or.inr ⟨_, rfl⟩
  | host action =>
    cases action with
    | insertInHead position node =>
      change (e.document.insertInHead position node).children = _ ∨
        ∃ children, (e.document.insertInHead position node).children = _
      rw [Dom.Document.insertInHead]
      split
      · exact Or.inr ⟨_, rfl⟩
      · exact Or.inl rfl
    | removeFromHead position =>
      change (e.document.removeFromHead position).children = _ ∨
        ∃ children, (e.document.removeFromHead position).children = _
      rw [Dom.Document.removeFromHead]
      split
      · exact Or.inr ⟨_, rfl⟩
      · exact Or.inl rfl
    | _ => exact Or.inl rfl
  | _ => exact Or.inl rfl

/-- In no step the document comes to be laid out in another way. -/
theorem Step.mode_document_run (step : Step σ) (e : Engine σ) :
    (step.run e).document.mode = e.document.mode := by
  cases step with
  | pass =>
    change (Injection.inject e.document e.injected _).document.mode = _
    rw [Injection.inject]
    split <;> rfl
  | host action =>
    cases action with
    | insertInHead position node =>
      change (e.document.insertInHead position node).mode = _
      rw [Dom.Document.insertInHead]
      split <;> rfl
    | removeFromHead position =>
      change (e.document.removeFromHead position).mode = _
      rw [Dom.Document.removeFromHead]
      split <;> rfl
    | _ => rfl
  | _ => rfl

/-- The width that counts is decided by the viewport and by how the document is laid out. -/
theorem Engine.width_congr {e e' : Engine σ} (hviewport : e'.shared.viewport = e.shared.viewport)
    (hmode : e'.document.mode = e.document.mode) : e'.width = e.width := by
  rw [width, width, hviewport, hmode]

/-! ## Invariants -/

/-- What each of some steps keeps is true where they lead. -/
theorem runSteps_invariant {P : Engine σ → Prop} {steps : List (Step σ)}
    (hstep : ∀ step ∈ steps, ∀ e, P e → P (step.run e)) {e : Engine σ} (he : P e) :
    P (runSteps steps e) := by
  induction steps generalizing e with
  | nil => exact he
  | cons step steps ih =>
    exact ih (fun s hs => hstep s (List.mem_cons_of_mem _ hs))
      (hstep step (List.mem_cons_self ..) e he)

end MediaQuery
