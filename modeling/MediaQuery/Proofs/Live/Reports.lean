import MediaQuery.Proofs.Live.Moments

/-!
# What happens is what operations report

An operation reports which listeners it called. `reportedCalls_eq` says that these are the calls
among the moments of a run, so that what is said of moments is said of what an engine reports.
-/

namespace MediaQuery

variable {σ : Type}

/-- The call that is made at a moment, if one is. -/
def Moment.call? (m : Moment σ) : Option Call :=
  match m.event with
  | .called call => some call
  | _ => none

/-- The calls that are made at some moments. -/
def callsAmong (ms : List (Moment σ)) : List Call := ms.filterMap Moment.call?

/-- The calls that the operations of a run report. -/
def reportedCalls : List (Operation σ) → Engine σ → List Call
  | [], _ => []
  | op :: ops, e => (op.run e).report.calls ++ reportedCalls ops (op.run e).engine

@[simp] theorem callsAmong_append (ms ms' : List (Moment σ)) :
    callsAmong (ms ++ ms') = callsAmong ms ++ callsAmong ms' := List.filterMap_append

theorem callsAmong_cons_of_none {m : Moment σ} (h : m.call? = none) (ms : List (Moment σ)) :
    callsAmong (m :: ms) = callsAmong ms := List.filterMap_cons_none h

theorem callsAmong_cons_called (call : Call) (s : Shared σ) (ms : List (Moment σ)) :
    callsAmong (⟨.called call, s⟩ :: ms) = call :: callsAmong ms := List.filterMap_cons_some rfl

/-- A listener calls no other. -/
@[simp] theorem callsAmong_program (program : Program σ) (s : Shared σ) :
    callsAmong (program.moments s) = [] := by
  refine List.filterMap_eq_nil_iff.mpr fun m hm => ?_
  have hevent := program.isByListener_moments s m hm
  unfold Moment.call?
  split
  · next hcalled =>
    rw [hcalled] at hevent
    exact absurd hevent (by simp [Event.isByListener])
  · rfl

namespace Shared

theorem callsAmong_call (s : Shared σ) (number slot : Nat) :
    callsAmong (s.callMoments number slot) = (s.call number slot).calls := by
  unfold callMoments call
  cases s.queries[number]? with
  | none => rfl
  | some q =>
    simp only
    cases q.listener? slot with
    | none => rfl
    | some listener =>
      simp only [callsAmong_cons_called, callsAmong_append, callsAmong_program]
      cases (listener.run s).1 <;> rfl

/-- Two rounds one after the other make the calls of both, unless the first one failed. -/
theorem calls_andThen (r : Round σ) (next : Shared σ → Round σ) :
    (r.andThen next).calls =
      r.calls ++ match r.failure with
        | some _ => []
        | none => (next r.shared).calls := by
  unfold Round.andThen
  cases r.failure <;> simp

theorem callsAmong_notify (number : Nat) (slots : List Nat) :
    ∀ s : Shared σ, callsAmong (s.notifyMoments number slots) = (s.notify number slots).calls := by
  induction slots with
  | nil => intro s; rfl
  | cons slot rest ih =>
    intro s
    rw [notifyMoments, notify, calls_andThen, callsAmong_append, callsAmong_call]
    cases (s.call number slot).failure with
    | some failure => rfl
    | none => rw [ih]

theorem callsAmong_settle (s : Shared σ) (number : Nat) :
    callsAmong (s.settleMoments number) = (s.settle number).calls := by
  unfold settleMoments settle
  cases s.queries[number]? with
  | none => rfl
  | some q =>
    by_cases hc : q.isChanged = true
    · simp only [hc, if_true]
      rw [callsAmong_cons_of_none rfl, callsAmong_notify]
    · simp only [hc]
      rfl

theorem callsAmong_settleAll (numbers : List Nat) :
    ∀ s : Shared σ, callsAmong (s.settleAllMoments numbers) = (s.settleAll numbers).calls := by
  induction numbers with
  | nil => intro s; rfl
  | cons number rest ih =>
    intro s
    rw [settleAllMoments, settleAll, calls_andThen, callsAmong_append, callsAmong_settle]
    cases (s.settle number).failure with
    | some failure => rfl
    | none => rw [ih]

end Shared

namespace Engine

/-- The calls of a pass are those that it reports. -/
theorem callsAmong_pass (e : Engine σ) :
    callsAmong (Step.pass.moments e) = e.apply.report.calls := by
  rw [Step.moments, callsAmong_cons_of_none rfl, Shared.callsAmong_settleAll]
  rfl

end Engine

/-- Nobody is called in a step that is no pass. -/
theorem callsAmong_of_ne_pass {step : Step σ} (hstep : step ≠ .pass) (e : Engine σ) :
    callsAmong (step.moments e) = [] := by
  cases step with
  | pass => exact absurd rfl hstep
  | host action =>
    cases action with
    | act program => exact callsAmong_program program e.shared
    | _ => rfl
  | _ => rfl

/-- The calls among the moments of some steps are those that they make. -/
theorem Performs.calls_eq {steps : List (Step σ)} {e : Engine σ} {effect : Effect σ}
    (h : Performs steps e effect) : effect.calls = callsAmong (momentsOf steps e) := by
  induction h with
  | done => rfl
  | @step _ _ e _ hstep _ ih =>
    rw [momentsOf, callsAmong_append, callsAmong_of_ne_pass hstep e]
    exact ih
  | @pass e =>
    rw [momentsOf, momentsOf, List.append_nil, Engine.callsAmong_pass]
    rfl
  | @passed _ e _ _ _ ih =>
    rw [momentsOf, callsAmong_append, Engine.callsAmong_pass]
    exact congrArg (e.apply.report.calls ++ ·) ih

/-- The calls among the moments of an operation are those that it reports. -/
theorem callsAmong_steps (op : Operation σ) (e : Engine σ) :
    callsAmong (momentsOf (op.steps e) e) = (op.run e).report.calls :=
  (performs_run op e).calls_eq.symm

/-- The calls among the moments of a run are those that its operations report. -/
theorem reportedCalls_eq (ops : List (Operation σ)) :
    ∀ e : Engine σ, reportedCalls ops e = callsAmong (runMoments ops e) := by
  induction ops with
  | nil => intro e; rfl
  | cons op ops ih =>
    intro e
    rw [reportedCalls, runMoments, history, momentsOf_append, callsAmong_append, callsAmong_steps,
      ← engine_run, ih, runMoments]

end MediaQuery
