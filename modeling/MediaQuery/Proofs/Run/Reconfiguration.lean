import Mathlib.Data.List.Induction
import MediaQuery.Proofs.Run.Spacing

/-!
# Other settings and other clocks

A resize that was put off is due at a time on the clock that there was then. With another clock it
stays due at that time, and it is run when the new clock shows it: within a window, as with the old
clock, if the new one is not behind the time of the resize. With other settings the throttle begins
anew, and what was put off is forgotten until the next resize or the next pass that is run for
another reason.

* `exists_firstPutOffAt` — when what is put off was put off, in every run
* `put_off_resize_survives_another_clock` — what becomes of it
-/

namespace MediaQuery

variable {σ : Type}

/-! ## When what is put off was put off -/

/-- Of the resizes since the last pass, and since the settings were last replaced, the first one
that was put off came at a time. -/
def FirstPutOffAt (start : Engine σ) (steps : List (Step σ)) (time : Nat) : Prop :=
  ∃ before after, steps = before ++ .signal :: after ∧ .pass ∉ after ∧
    (∀ config, .host (.configure config) ∉ after) ∧
    (runSteps before start).throttle.deferred = none ∧ (runSteps before start).shared.now = time

theorem FirstPutOffAt.concat {start : Engine σ} {steps : List (Step σ)} {time : Nat}
    (h : FirstPutOffAt start steps time) {step : Step σ} (hpass : step ≠ .pass)
    (hconfig : ∀ config, step ≠ .host (.configure config)) :
    FirstPutOffAt start (steps ++ [step]) time := by
  obtain ⟨before, after, rfl, hafter, hsettings, hfirst⟩ := h
  refine ⟨before, after ++ [step], by simp, ?_, fun config => ?_, hfirst⟩
  · simpa using ⟨hafter, Ne.symm hpass⟩
  · simpa using ⟨hsettings config, Ne.symm (hconfig config)⟩

/-- What neither runs a pass nor replaces the settings leaves the window and what is put off alone,
unless it is a resize that comes too soon and is the first to do so. -/
theorem Step.deferred_cases {step : Step σ} (hpass : step ≠ .pass)
    (hconfig : ∀ config, step ≠ .host (.configure config)) (e : Engine σ) :
    (step.run e).throttle.window = e.throttle.window ∧
      ((step.run e).throttle.deferred = e.throttle.deferred ∨
        step = .signal ∧ e.throttle.deferred = none ∧
          (step.run e).throttle.deferred = some (e.shared.now + e.throttle.window)) := by
  cases step with
  | pass => exact absurd rfl hpass
  | signal =>
    refine ⟨Throttle.window_signal .., ?_⟩
    change (e.throttle.signal e.shared.now).2.deferred = _ ∨ _ ∧ _ ∧
      (e.throttle.signal e.shared.now).2.deferred = _
    by_cases hsoon : e.throttle.isTooSoon e.shared.now = true
    · rw [Throttle.signal_of_isTooSoon hsoon]
      cases hdeferred : e.throttle.deferred with
      | none => exact Or.inr ⟨rfl, rfl, rfl⟩
      | some due => exact Or.inl rfl
    · rw [Throttle.signal, if_neg hsoon]
      exact Or.inl rfl
  | host action =>
    cases action with
    | configure config => exact absurd rfl (hconfig config)
    | _ => exact ⟨rfl, Or.inl rfl⟩
  | _ => exact ⟨rfl, Or.inl rfl⟩

/-- Wherever the steps of a run have led, what is put off is due one window after the resize that
was put off first. -/
theorem exists_firstPutOffAt {start : Engine σ} (hstart : start.throttle.deferred = none)
    (steps : List (Step σ)) : ∀ due, (runSteps steps start).throttle.deferred = some due →
      ∃ time, FirstPutOffAt start steps time ∧
        due = time + (runSteps steps start).throttle.window := by
  induction steps using List.reverseRecOn with
  | nil =>
    intro due hdue
    rw [runSteps_nil, hstart] at hdue
    exact absurd hdue (by simp)
  | append_singleton steps step ih =>
    intro due hdue
    rw [runSteps_append, runSteps_cons, runSteps_nil] at hdue ⊢
    have hpass : step ≠ .pass := by
      rintro rfl
      exact absurd hdue (by simp [Step.run])
    have hconfig : ∀ config, step ≠ .host (.configure config) := by
      rintro config rfl
      exact absurd hdue (by simp [Step.run, HostAction.run, Engine.withConfig, Throttle.ofWindow])
    obtain ⟨hwindow, hsame | ⟨rfl, hnone, hsome⟩⟩ :=
      Step.deferred_cases hpass hconfig (runSteps steps start)
    · rw [hsame] at hdue
      obtain ⟨time, htime, hle⟩ := ih due hdue
      exact ⟨time, htime.concat hpass hconfig, hwindow ▸ hle⟩
    · rw [hsome] at hdue
      refine ⟨(runSteps steps start).shared.now, ?_, ?_⟩
      · exact ⟨steps, [], rfl, List.not_mem_nil, fun _ => List.not_mem_nil, hnone, rfl⟩
      · rw [hwindow]
        exact (Option.some.inj hdue).symm

/-! ## What becomes of it -/

namespace Engine

@[simp] theorem nextDeadline_withClock (e : Engine σ) (now : Nat) :
    (e.withClock now).nextDeadline = e.nextDeadline := rfl

@[simp] theorem now_withClock (e : Engine σ) (now : Nat) : (e.withClock now).shared.now = now := rfl

@[simp] theorem config_withClock (e : Engine σ) (now : Nat) :
    (e.withClock now).config = e.config := rfl

@[simp] theorem nextDeadline_withConfig (e : Engine σ) (config : Config) :
    (e.withConfig config).nextDeadline = none := rfl

/-- What is put off until `due` will be run: whatever is done next with the engine without other
settings or another clock, a pass is run in it, or it stays put off until that time, and once the
time has come it is run when it is asked for. -/
def WillRun (e : Engine σ) (due : Nat) : Prop :=
  ∀ ops : List (Operation σ), (∀ op ∈ ops, op.keepsClock = true) →
    .pass ∈ history ops e ∨
      (runAll ops e).nextDeadline = some due ∧
        (due ≤ (runAll ops e).shared.now → (runAll ops e).RunsPending)

theorem willRun_of_nextDeadline {e : Engine σ} {due : Nat} (h : e.nextDeadline = some due) :
    e.WillRun due := by
  intro ops hkeeps
  by_cases hpass : .pass ∈ history ops e
  · exact Or.inl hpass
  have hdue : (runAll ops e).nextDeadline = some due := by
    rw [← runSteps_history]
    refine runSteps_invariant (P := fun e => e.throttle.deferred = some due) ?_ h
    intro step hstep e he
    have hconfig : ∀ config, step ≠ .host (.configure config) := by
      rintro config rfl
      exact absurd (hkeeps _ (host_mem_of_mem_history hstep)) Bool.false_ne_true
    obtain ⟨-, hsame | ⟨-, hnone, -⟩⟩ :=
      Step.deferred_cases (fun heq => hpass (heq ▸ hstep)) hconfig e
    · rw [hsame, he]
    · rw [he] at hnone
      exact absurd hnone (by simp)
  exact Or.inr ⟨hdue, runsPending_of_le hdue⟩

/-- Nothing is put off, and as long as a host does nothing but ask for what was put off and work on
queries, viewport and clock, no pass is run. A resize runs one at once. -/
structure HasForgotten (e : Engine σ) : Prop where
  nextDeadline_eq : e.nextDeadline = none
  idle : ∀ ops : List (Operation σ), (∀ op ∈ ops, op = .runPending ∨ ∃ p, op = .host (.act p)) →
    .pass ∉ history ops e
  resize : Operation.onViewportChange.steps e = [.signal, .pass]

theorem pass_not_mem_history {ops : List (Operation σ)}
    (hops : ∀ op ∈ ops, op = .runPending ∨ ∃ p, op = .host (.act p)) :
    ∀ {e : Engine σ}, e.throttle.deferred = none → .pass ∉ history ops e := by
  induction ops with
  | nil => exact fun _ => List.not_mem_nil
  | cons op ops ih =>
    intro e h
    have hrest := fun {e'} => ih (fun op hop => hops op (by simp [hop])) (e := e')
    rw [history, List.mem_append, not_or]
    obtain rfl | ⟨p, rfl⟩ := hops op (by simp)
    · refine ⟨?_, hrest (Operation.deferred_run (by simp) h)⟩
      simp [Operation.steps, Throttle.isDue, h]
    · exact ⟨by simp [Operation.steps], hrest h⟩

/-- With other settings the throttle begins anew. -/
theorem hasForgotten_withConfig (e : Engine σ) (config : Config) :
    (e.withConfig config).HasForgotten where
  nextDeadline_eq := rfl
  idle := fun _ hops => pass_not_mem_history hops rfl
  resize := rfl

/-- The window of the throttle is the one of the settings. -/
theorem window_runSteps {start : Engine σ} (h : start.throttle.window = start.config.throttleMs)
    (steps : List (Step σ)) :
    (runSteps steps start).throttle.window = (runSteps steps start).config.throttleMs := by
  refine runSteps_invariant (P := fun e => e.throttle.window = e.config.throttleMs) ?_ h
  intro step _ e he
  cases step with
  | signal => exact (Throttle.window_signal ..).trans he
  | host action =>
    cases action with
    | configure config => rfl
    | _ => exact he
  | _ => exact he

/-- Take any run at whose end a resize is put off: it is due one window after the time at which it
came. With another clock it stays put off until then and will be run, within a window exactly if the
new clock is not behind the time of the resize. With other settings it is forgotten. -/
theorem put_off_resize_survives_another_clock (document : Dom.Document) (viewport : Viewport)
    (now : Nat) (host : σ) (ops : List (Operation σ)) (due : Nat)
    (hdue : (runAll ops (ofDocument document viewport now host)).nextDeadline = some due) :
    let start := ofDocument document viewport now host
    let e := runAll ops start
    ∃ time, FirstPutOffAt start (history ops start) time ∧ due = time + e.config.throttleMs ∧
      (∀ now', (e.withClock now').nextDeadline = some due ∧ (e.withClock now').WillRun due ∧
        (due ≤ (e.withClock now').shared.now + (e.withClock now').config.throttleMs ↔
          time ≤ now')) ∧
      ∀ config, (e.withConfig config).HasForgotten := by
  intro start e
  have hrun : runSteps (history ops start) start = e := runSteps_history ops start
  have hnone : start.throttle.deferred = none := rfl
  obtain ⟨time, htime, hsum⟩ := exists_firstPutOffAt hnone (history ops start) due
    (by rw [hrun]; exact hdue)
  have hstart : start.throttle.window = start.config.throttleMs := rfl
  have hwindow := window_runSteps hstart (history ops start)
  rw [hrun] at hsum hwindow
  rw [hwindow] at hsum
  refine ⟨time, htime, hsum, fun now' => ⟨hdue, willRun_of_nextDeadline hdue, ?_⟩,
    e.hasForgotten_withConfig⟩
  rw [now_withClock, config_withClock, hsum]
  omega

/-- A run in which a page becomes wide too soon after a pass. -/
def widenedRun : List (Operation Unit) :=
  [.matchMedia "(min-width: 600px)", .host (.act (.advanceClock 10 (.setWidth 700 .done))),
    .onViewportChange]

theorem put_off_resize_is_run_by_a_later_clock :
    let e := runAll widenedRun (ofDocument .empty (.ofWidth 500) 1000 ())
    let later := runAll [.host (.act (.advanceClock 20 .done))] (e.withClock 1020)
    e.nextDeadline = some 1040 ∧ (e.withClock 1020).nextDeadline = some 1040 ∧
      (e.withClock 1020).WillRun 1040 ∧
      later.shared.now = 1040 ∧ later.RunsPending := by
  intro e later
  have hdue : e.nextDeadline = some 1040 := by decide +kernel
  obtain ⟨time, -, -, hclock, -⟩ :=
    put_off_resize_survives_another_clock .empty (.ofWidth 500) 1000 () widenedRun 1040 hdue
  obtain ⟨hsame, hruns, -⟩ := hclock 1020
  refine ⟨hdue, hsame, hruns, by decide +kernel, ?_⟩
  -- nothing but waiting is done, so that the pass is still to be run
  rcases hruns [.host (.act (.advanceClock 20 .done))] (by decide) with hpass | ⟨-, hpending⟩
  · simp [history, Operation.steps] at hpass
  · exact hpending (by decide +kernel)

/-- After other settings nothing is put off any more, and on a clock that is behind it is put off
for more than a window. -/
theorem put_off_resize_is_lost_or_late :
    let e := runAll widenedRun (ofDocument .empty (.ofWidth 500) 1000 ())
    e.nextDeadline = some 1040 ∧
      (¬∃ due, (e.withConfig Config.default).nextDeadline = some due ∧
        due ≤ e.shared.now + max e.config.throttleMs Config.default.throttleMs) ∧
      ¬∃ due, (e.withClock 0).nextDeadline = some due ∧
        due ≤ (e.withClock 0).shared.now + e.config.throttleMs := by
  intro e
  have hdue : e.nextDeadline = some 1040 := by decide +kernel
  have hwindow : e.config.throttleMs = 30 := by decide +kernel
  refine ⟨hdue, ?_, ?_⟩
  · rintro ⟨due, hnone, -⟩
    rw [nextDeadline_withConfig] at hnone
    exact absurd hnone (by simp)
  · rintro ⟨due, hsome, hle⟩
    rw [nextDeadline_withClock, hdue] at hsome
    rw [now_withClock, hwindow, ← Option.some.inj hsome] at hle
    omega

end Engine

end MediaQuery
