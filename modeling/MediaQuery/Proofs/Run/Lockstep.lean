import MediaQuery.Proofs.Run.Step

/-!
# Engines in step

Two engines that differ in some respect can be driven side by side. `Lockstep` says what must be
known of a relation between engines to see that operations keep it: that engines which it holds
between are alike in what decides about the steps of an operation, and that steps keep it, where a
pass fails on both sides or on neither. An operation then does the same on both sides, and this goes
for loading stylesheets, too, however many passes it takes.
-/

namespace MediaQuery

variable {σ : Type}

/-! ## All along some steps -/

/-- Each of some steps has a property where it is run. -/
def Along (P : Step σ → Engine σ → Prop) : List (Step σ) → Engine σ → Prop
  | [], _ => True
  | step :: rest, e => P step e ∧ Along P rest (step.run e)

instance decidableAlong (P : Step σ → Engine σ → Prop) [∀ step e, Decidable (P step e)] :
    ∀ (steps : List (Step σ)) (e : Engine σ), Decidable (Along P steps e)
  | [], _ => inferInstanceAs (Decidable True)
  | step :: rest, e =>
    have := decidableAlong P rest (step.run e)
    inferInstanceAs (Decidable (_ ∧ _))

theorem along_of_forall {P : Step σ → Engine σ → Prop} (h : ∀ step e, P step e)
    (steps : List (Step σ)) : ∀ e, Along P steps e := by
  induction steps with
  | nil => exact fun _ => trivial
  | cons step rest ih => exact fun e => ⟨h step e, ih _⟩

theorem along_append {P : Step σ → Engine σ → Prop} {steps later : List (Step σ)} :
    ∀ {e : Engine σ},
      Along P (steps ++ later) e ↔ Along P steps e ∧ Along P later (runSteps steps e) := by
  induction steps with
  | nil => intro e; simp [Along]
  | cons step rest ih =>
    intro e
    rw [List.cons_append, Along, Along, ih, runSteps_cons, and_assoc]

/-! ## Side by side -/

/-- Two operations have led to related engines, both have failed or neither has, and they have made
the same calls but for a function on calls. -/
structure Effect.Matches (R : Engine σ → Engine σ → Prop) (g : Call → Call)
    (effect effect' : Effect σ) : Prop where
  engine : R effect.engine effect'.engine
  failure : effect'.failure = effect.failure
  calls : effect'.calls = effect.calls.map g

/-- Where neither of two operations has failed, it depends on what is done next. -/
theorem Effect.Matches.andThen {α β : Type} {R : Engine σ → Engine σ → Prop} {g : Call → Call}
    {o o' : Outcome σ α} (h : Effect.Matches R g o.effect o'.effect)
    (next next' : Engine σ → α → Outcome σ β)
    (hnext : ∀ a a', o.result = .ok a → o'.result = .ok a' →
      Effect.Matches R g (next o.engine a).effect (next' o'.engine a').effect) :
    Effect.Matches R g (o.andThen next).effect (o'.andThen next').effect := by
  have hfailure : o'.failure? = o.failure? := h.failure
  cases hf : o.failure? with
  | some failure =>
    have herror := Outcome.failure?_eq_some_iff.mp hf
    have herror' := Outcome.failure?_eq_some_iff.mp (hfailure.trans hf)
    rwa [Outcome.effect_andThen_of_error herror, Outcome.effect_andThen_of_error herror']
  | none =>
    obtain ⟨a, hok⟩ := Outcome.failure?_eq_none_iff.mp hf
    obtain ⟨a', hok'⟩ := Outcome.failure?_eq_none_iff.mp (hfailure.trans hf)
    obtain ⟨hengine, hlater, hcalls⟩ := hnext a a' hok hok'
    rw [Outcome.effect_andThen_of_ok hok, Outcome.effect_andThen_of_ok hok']
    refine ⟨hengine, hlater, ?_⟩
    have hfirst : o'.report.calls = o.report.calls.map g := h.calls
    have hlast : (next' o'.engine a').report.calls = (next o.engine a).report.calls.map g := hcalls
    simp only [hfirst, hlast, List.map_append]

/-- A relation between engines can be kept by driving them side by side, if their steps have a
property. -/
structure Lockstep (R : Engine σ → Engine σ → Prop) (P : Step σ → Engine σ → Prop)
    (g : Call → Call) : Prop where
  config : ∀ {e e'}, R e e' → e'.config = e.config
  throttle : ∀ {e e'}, R e e' → e'.throttle = e.throttle
  now : ∀ {e e'}, R e e' → e'.shared.now = e.shared.now
  parsedSheets : ∀ {e e'}, R e e' → e'.parsedSheets = e.parsedSheets
  storeSheet : ∀ {e e'}, R e e' → ∀ text href media,
    R (e.storeSheet text href media) (e'.storeSheet text href media)
  ask : ∀ {e e'}, R e e' → ∀ href, R (e.ask href) (e'.ask href)
  takeSignal : ∀ {e e'}, R e e' → R e.takeSignal e'.takeSignal
  pass : ∀ {e e'}, R e e' → P .pass e → Effect.Matches R g e.apply.effect e'.apply.effect

namespace Lockstep

variable {R : Engine σ → Engine σ → Prop} {P : Step σ → Engine σ → Prop} {g : Call → Call}
  {e e' : Engine σ}

theorem parse (L : Lockstep R P g) (h : R e e') (text href : String) (media : Option String)
    (hP : P .pass (e.storeSheet text href media)) :
    Effect.Matches R g (e.parse text href media).effect (e'.parse text href media).effect := by
  rw [Engine.effect_parse, Engine.effect_parse]
  exact L.pass (L.storeSheet h text href media) hP

theorem onViewportChange (L : Lockstep R P g) (h : R e e')
    (hP : Along P (Operation.onViewportChange.steps e) e) :
    Effect.Matches R g e.onViewportChange.effect e'.onViewportChange.effect := by
  rw [Operation.steps] at hP
  rw [Engine.onViewportChange_eq, Engine.onViewportChange_eq, L.throttle h, L.now h]
  cases haction : (e.throttle.signal e.shared.now).1 with
  | runNow =>
    rw [haction] at hP
    obtain ⟨-, hpass, -⟩ := hP
    exact L.pass (L.takeSignal h) hpass
  | deferred due => exact ⟨L.takeSignal h, rfl, rfl⟩

theorem runPending (L : Lockstep R P g) (h : R e e')
    (hP : Along P (Operation.runPending.steps e) e) :
    Effect.Matches R g e.runPending.effect e'.runPending.effect := by
  rw [Operation.steps] at hP
  rw [Engine.runPending, Engine.runPending, L.throttle h, L.now h]
  split
  next hdue =>
    rw [if_pos hdue] at hP
    rw [Outcome.effect_map, Outcome.effect_map]
    exact L.pass h hP.1
  next => exact ⟨h, rfl, rfl⟩

/-- A stylesheet is taken in on both sides, and what comes after it is done on both or, where its
pass fails, on neither. -/
theorem parse_andThen (L : Lockstep R P g) (h : R e e') (text href : String)
    (media : Option String) (next : Engine σ → Outcome σ Unit) (later : Engine σ → List (Step σ))
    (hnext : ∀ {e e'}, R e e' → Along P (later e) e →
      Effect.Matches R g (next e).effect (next e').effect)
    (hP : Along P (.store text href media :: .pass ::
      match (e.storeSheet text href media).apply.result with
      | .ok _ => later (e.storeSheet text href media).apply.engine
      | .error _ => []) e) :
    Effect.Matches R g ((e.parse text href media).andThen fun e _ => next e).effect
      ((e'.parse text href media).andThen fun e _ => next e).effect := by
  obtain ⟨-, hpass, hlater⟩ := hP
  have hparse := L.parse h text href media hpass
  refine hparse.andThen (fun e _ => next e) (fun e _ => next e) fun added _ hok _ => ?_
  rw [Engine.result_parse] at hok
  refine hnext hparse.engine ?_
  cases hresult : (e.storeSheet text href media).apply.result with
  | error failure => simp [hresult, Except.map] at hok
  | ok _ =>
    rw [hresult] at hlater
    exact hlater

/-- Loading stylesheets does the same on both sides: a sheet is asked for on both or on neither, and
where the pass after one fails, it ends the loading on both. -/
theorem load (L : Lockstep R P g) (source : Source) (base : Option String)
    (links : List Dom.StylesheetLink) : ∀ (asked : List String) {e e' : Engine σ}, R e e' →
      Along P (e.loadSteps source base links asked) e →
        Effect.Matches R g (e.load source base links asked).effect
          (e'.load source base links asked).effect := by
  induction links with
  | nil => exact fun asked _ _ h _ => ⟨h, rfl, rfl⟩
  | cons link rest ih =>
    intro asked e e' h hP
    rw [Engine.loadSteps] at hP
    rw [Engine.load, Engine.load]
    -- which way is taken with the link depends on what is alike on both sides
    have hsheets := L.parsedSheets h
    have hconfig := L.config h
    by_cases hasked : e.parsedSheets.contains link.href = true
    · have hasked' : e'.parsedSheets.contains link.href = true := by rwa [hsheets]
      rw [if_pos hasked] at hP
      rw [if_pos hasked, if_pos hasked']
      exact ih asked h hP
    have hasked' : ¬ e'.parsedSheets.contains link.href = true := by rwa [hsheets]
    rw [if_neg hasked] at hP
    rw [if_neg hasked, if_neg hasked']
    by_cases horigin : (!Url.isSameOrigin link.href base e.config.pageHost) = true
    · have horigin' : (!Url.isSameOrigin link.href base e'.config.pageHost) = true := by
        rwa [hconfig]
      rw [if_pos horigin] at hP
      rw [if_pos horigin, if_pos horigin']
      exact ih asked h hP
    have horigin' : ¬ (!Url.isSameOrigin link.href base e'.config.pageHost) = true := by
      rwa [hconfig]
    rw [if_neg horigin] at hP
    rw [if_neg horigin, if_neg horigin']
    obtain ⟨-, hP⟩ := hP
    have hask := L.ask h link.href
    cases hfetch : source.fetch asked link.href with
    | error failure =>
      rw [hfetch] at hP
      obtain ⟨hengine, hfailure, hcalls⟩ := ih (asked ++ [link.href]) hask hP
      exact ⟨hengine, hfailure, hcalls⟩
    | ok answer =>
      rw [hfetch] at hP
      cases answer with
      | none =>
        obtain ⟨hengine, hfailure, hcalls⟩ := ih (asked ++ [link.href]) hask hP
        exact ⟨hengine, hfailure, hcalls⟩
      | some text =>
        obtain ⟨hengine, hfailure, hcalls⟩ := L.parse_andThen hask text link.href link.media
          (Engine.load source base rest (asked ++ [link.href]))
          (Engine.loadSteps source base rest (asked ++ [link.href])) (ih _) hP
        exact ⟨hengine, hfailure, hcalls⟩

/-- So does an attempt to load the stylesheets of a document, if the documents link to the same. -/
theorem update (L : Lockstep R P g) (source : Source) (h : R e e')
    (hlinks : e'.document.stylesheetLinks = e.document.stylesheetLinks)
    (hbase : e'.document.baseHref? = e.document.baseHref?)
    (hP : Along P ((Operation.update source).steps e) e) :
    Effect.Matches R g (e.update source).effect (e'.update source).effect := by
  rw [Operation.steps] at hP
  rw [Engine.update, Engine.update, L.config h, hlinks, hbase]
  split
  next hnative =>
    rw [if_pos hnative] at hP
    exact L.pass h hP.1
  next hnative =>
    rw [if_neg hnative] at hP
    exact L.load source _ _ [] h hP

/-- An operation that registers no query and is not the host's does the same on both sides. -/
theorem run (L : Lockstep R P g) (h : R e e') {op : Operation σ}
    (hquery : ∀ media, op ≠ .matchMedia media) (hhost : ∀ action, op ≠ .host action)
    (hlinks : (∃ source, op = .update source) →
      e'.document.stylesheetLinks = e.document.stylesheetLinks ∧
        e'.document.baseHref? = e.document.baseHref?)
    (hP : Along P (op.steps e) e) :
    Effect.Matches R g (op.run e).effect (op.run e').effect := by
  cases op with
  | parse text href media =>
    rw [Operation.effect_run_parse, Operation.effect_run_parse]
    exact L.pass (L.storeSheet h text href media) hP.2.1
  | matchMedia media => exact absurd rfl (hquery media)
  | apply => exact L.pass h hP.1
  | onViewportChange => exact L.onViewportChange h hP
  | runPending =>
    rw [Operation.effect_run_runPending, Operation.effect_run_runPending]
    exact L.runPending h hP
  | update source =>
    obtain ⟨hsame, hbase⟩ := hlinks ⟨source, rfl⟩
    exact L.update source h hsame hbase hP
  | host action => exact absurd rfl (hhost action)

end Lockstep

end MediaQuery
