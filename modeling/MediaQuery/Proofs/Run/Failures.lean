import MediaQuery.Proofs.Live.Causes
import MediaQuery.Proofs.Live.Pardon

/-!
# Failures come from listeners

Nothing that an operation reads makes it fail: not a text, not a reference and not a source that has
nothing to give. It comes to its end, or to a pass that fails, and then that pass was its last step.
By then the pass has done all that it does to rules, styles and throttle, so it is in this as if it
had succeeded.

* `failures_come_from_listeners` — the law for every operation
-/

namespace MediaQuery

variable {σ : Type}

/-- A pass fails as the round of calls at its end does. -/
theorem Engine.failure?_apply (e : Engine σ) :
    e.apply.failure? = e.evaluate.1.shared.dispatch.failure :=
  Option.ext fun failure =>
    Outcome.failure?_eq_some_iff.trans (result_apply_eq_error_iff e failure)

/-! ## Who failed -/

theorem failsAs_pass (e : Engine σ) : FailsAs (Step.pass.moments e) e.apply.failure? := by
  rw [Engine.failure?_apply, Step.moments, ← List.singleton_append]
  exact FailsAs.append (.of_callsAmong rfl) (Shared.failsAs_settleAll _ _)

namespace Performs

variable {steps : List (Step σ)} {e : Engine σ} {effect : Effect σ}

/-- Steps fail as the listener does that is called last in them. -/
theorem failsAs (h : Performs steps e effect) : FailsAs (momentsOf steps e) effect.failure := by
  induction h with
  | done => exact .of_callsAmong rfl
  | step hstep _ ih => exact FailsAs.append (.of_callsAmong (callsAmong_of_ne_pass hstep _)) ih
  | @pass e =>
    rw [momentsOf, momentsOf, List.append_nil]
    exact failsAs_pass e
  | @passed _ e _ hpass _ ih =>
    have hfirst := failsAs_pass e
    rw [hpass] at hfirst
    exact hfirst.append ih

/-- Where steps fail, the last of them is a pass, which fails. -/
theorem exists_failed_pass {failure : Failure} (h : Performs steps e effect)
    (hf : effect.failure = some failure) :
    ∃ before, steps = before ++ [.pass] ∧ (runSteps before e).apply.result = .error failure := by
  induction h with
  | done => exact absurd hf (by simp)
  | @step step _ _ _ _ _ ih =>
    obtain ⟨before, rfl, hpass⟩ := ih hf
    exact ⟨step :: before, rfl, hpass⟩
  | pass => exact ⟨[], rfl, Outcome.failure?_eq_some_iff.mp hf⟩
  | passed _ _ ih =>
    obtain ⟨before, rfl, hpass⟩ := ih hf
    exact ⟨.pass :: before, rfl, hpass⟩

end Performs

/-! ## What a failed pass has done -/

namespace Engine

/-- The engine with all listeners pardoned. -/
def pardoned (e : Engine σ) : Engine σ := { e with shared := e.shared.pardoned }

/-- Two engines are the same in what has nothing to do with listeners. -/
structure SameStyles (e e' : Engine σ) : Prop where
  store : e'.store = e.store
  document : e'.document = e.document
  injected : e'.injected = e.injected
  throttle : e'.throttle = e.throttle

/-- What a pass does to rules, styles and throttle depends on the viewport and the clock that it
finds, and neither on the listeners nor on whether they fail. -/
theorem sameStyles_apply {e e' : Engine σ} (h : e.SameStyles e')
    (hviewport : e'.shared.viewport = e.shared.viewport) (hnow : e'.shared.now = e.shared.now) :
    e.apply.engine.SameStyles e'.apply.engine := by
  have hwidth : e'.width = e.width := by rw [width, width, hviewport, h.document]
  refine ⟨h.store, ?_, ?_, ?_⟩
  · change (Injection.inject e'.document e'.injected (e'.store.activeAt e'.width)).document =
      (Injection.inject e.document e.injected (e.store.activeAt e.width)).document
    rw [h.document, h.injected, h.store, hwidth]
  · change (Injection.inject e'.document e'.injected (e'.store.activeAt e'.width)).injected =
      (Injection.inject e.document e.injected (e.store.activeAt e.width)).injected
    rw [h.document, h.injected, h.store, hwidth]
  · change e'.throttle.recordRun e'.shared.now = e.throttle.recordRun e.shared.now
    rw [h.throttle, hnow]

/-- A pass in which all listeners are pardoned succeeds. It makes the calls that it makes otherwise,
and goes on where a listener fails otherwise. -/
theorem apply_pardoned (e : Engine σ) :
    e.pardoned.apply.result = .ok () ∧
      e.apply.report.calls <+: e.pardoned.apply.report.calls ∧
      ∃ e' : Engine σ, e.pardoned.apply.engine = e'.pardoned := by
  have hrecord : e.pardoned.shared.record (e.pardoned.store.matchesAt e.pardoned.width) =
      (e.shared.record (e.store.matchesAt e.width)).pardoned :=
    (e.shared.pardoned_record _).symm
  have hround := Shared.pardons_dispatch (e.shared.record (e.store.matchesAt e.width))
  rw [← hrecord] at hround
  obtain ⟨s, hs⟩ := hround.shared
  refine ⟨(result_apply_eq_ok_iff _).mpr hround.failure, hround.calls,
    { e.pardoned.apply.engine with shared := s }, ?_⟩
  exact congrArg (fun shared => { e.pardoned.apply.engine with shared }) hs

theorem register_pardoned (e : Engine σ) (media : String) :
    e.pardoned.register media = (e.register media).pardoned := by
  simp [register, pardoned, Shared.pardoned, LiveQuery.pardoned, LiveQuery.ofMedia]

end Engine

/-- Listeners stay pardoned while an engine does its work. -/
theorem Step.run_pardoned {step : Step σ} (hstep : ∀ action, step ≠ .host action) (e : Engine σ) :
    ∃ e' : Engine σ, step.run e.pardoned = e'.pardoned := by
  cases step with
  | store text href media => exact ⟨e.storeSheet text href media, rfl⟩
  | register media => exact ⟨e.register media, e.register_pardoned media⟩
  | ask href => exact ⟨e.ask href, rfl⟩
  | signal => exact ⟨e.takeSignal, rfl⟩
  | pass => exact e.apply_pardoned.2.2
  | host action => exact absurd rfl (hstep action)

/-- Where all listeners are pardoned, no steps of an engine fail. -/
theorem Performs.failure_eq_none {steps : List (Step σ)} {e e₀ : Engine σ} {effect : Effect σ}
    (h : Performs steps e effect) (hhost : ∀ action, .host action ∉ steps)
    (he : e = e₀.pardoned) : effect.failure = none := by
  induction h generalizing e₀ with
  | done => rfl
  | @step step rest e effect _ _ ih =>
    have hfirst : ∀ action, step ≠ .host action := fun action hs =>
      hhost action (hs ▸ List.mem_cons_self ..)
    subst he
    obtain ⟨e', he'⟩ := Step.run_pardoned hfirst e₀
    exact ih (fun action hmem => hhost action (List.mem_cons_of_mem _ hmem)) he'
  | pass =>
    subst he
    exact Outcome.failure?_eq_none_iff.mpr ⟨_, e₀.apply_pardoned.1⟩
  | @passed rest e effect _ _ ih =>
    subst he
    obtain ⟨e', he'⟩ := e₀.apply_pardoned.2.2
    exact ih (fun action hmem => hhost action (List.mem_cons_of_mem _ hmem)) he'

/-- Whatever is read and wherever from, an operation does not fail if the listeners do not. -/
theorem result_run_pardoned (op : Operation σ) (e : Engine σ) :
    (op.run e.pardoned).result = .ok () := by
  have hnone : (op.run e.pardoned).failure? = none := by
    by_cases hop : ∃ action, op = .host action
    · obtain ⟨action, rfl⟩ := hop
      rfl
    · refine (performs_run op e.pardoned).failure_eq_none (fun action hmem => hop ?_) rfl
      exact ⟨action, Operation.eq_host_of_mem_steps hmem⟩
  obtain ⟨_, hok⟩ := Outcome.failure?_eq_none_iff.mp hnone
  exact hok

namespace Engine

/-- A pass fails, and in this it is as if the listeners had succeeded: it has made the same calls up
to the failure, and has done the same to rules, styles and throttle, as it would have with any other
listeners in their place. -/
structure FailsInPass (e : Engine σ) (failure : Failure) : Prop where
  fails : e.apply.result = .error failure
  pardoned_ok : e.pardoned.apply.result = .ok ()
  pardoned_calls : e.apply.report.calls <+: e.pardoned.apply.report.calls
  pardoned_styles : e.pardoned.apply.engine.SameStyles e.apply.engine
  styles : ∀ s : Shared σ, s.viewport = e.shared.viewport → s.now = e.shared.now →
    ({ e with shared := s } : Engine σ).apply.engine.SameStyles e.apply.engine

theorem failsInPass {e : Engine σ} {failure : Failure} (h : e.apply.result = .error failure) :
    e.FailsInPass failure where
  fails := h
  pardoned_ok := e.apply_pardoned.1
  pardoned_calls := e.apply_pardoned.2.1
  pardoned_styles := sameStyles_apply ⟨rfl, rfl, rfl, rfl⟩ rfl rfl
  styles := fun _ hviewport hnow =>
    sameStyles_apply ⟨rfl, rfl, rfl, rfl⟩ hviewport.symm hnow.symm

/-- Take any engine and any operation. It fails exactly if a listener fails that it calls; without
such listeners nothing that it reads makes it fail. The failure carries the text of the query and
what the listener gave as its cause, the listener was called last, and the pass in which it was
called is the last that is done: nothing is asked for afterwards. -/
theorem failures_come_from_listeners (op : Operation σ) (e : Engine σ) :
    ((∃ failure, (op.run e).result = .error failure) ↔
        ∃ m ∈ momentsOf (op.steps e) e, m.cause? ≠ none) ∧
      (op.run e.pardoned).result = .ok () ∧
      ∀ failure, (op.run e).result = .error failure →
        (∃ m ∈ momentsOf (op.steps e) e, ∃ call media cause,
          m.call? = some call ∧ (op.run e).report.calls.getLast? = some call ∧
            m.shared.medias[call.query]? = some media ∧ m.cause? = some cause ∧
            failure = .listener media cause) ∧
        ∃ before, op.steps e = before ++ [.pass] ∧ (op.run e).report.fetched = askedFor before ∧
          (op.run e).engine = (runSteps before e).apply.engine ∧
          (runSteps before e).FailsInPass failure := by
  have hperforms := performs_run op e
  have hfails : FailsAs (momentsOf (op.steps e) e) (op.run e).failure? := hperforms.failsAs
  refine ⟨?_, result_run_pardoned op e, fun failure hresult => ⟨?_, ?_⟩⟩
  · rw [← hfails.isSome_iff, Option.isSome_iff_exists]
    simp only [Outcome.failure?_eq_some_iff]
  · rw [Outcome.failure?_eq_some_iff.mpr hresult] at hfails
    have hcalls := callsAmong_steps op e
    generalize momentsOf (op.steps e) e = ms at hfails hcalls
    cases hfails with
    | @failed before after m call media cause _ hcall hmedia hcause hafter =>
      refine ⟨m, by simp, call, media, cause, hcall, ?_, hmedia, hcause, rfl⟩
      -- no call is made after it
      rw [← hcalls, callsAmong_append, ← List.singleton_append, callsAmong_append, hafter]
      simp [callsAmong, hcall]
  · obtain ⟨before, hsteps, hpass⟩ :=
      hperforms.exists_failed_pass (Outcome.failure?_eq_some_iff.mpr hresult)
    refine ⟨before, hsteps, ?_, ?_, failsInPass hpass⟩
    · rw [fetched_run, hsteps, askedFor_append]
      exact List.append_nil _
    · rw [engine_run, hsteps, runSteps_append]
      rfl

end Engine

end MediaQuery
