import MediaQuery.Proofs.Run.Step

/-!
# No resize is lost

A resize runs a pass at once or puts one off. `Accounted` holds what the throttle remembers against
what has happened: no pass is put off only if each resize was followed by a pass, and a pass that is
put off is due one window after the first resize since the last pass. A pass restores this from any
state, so all that is to be shown is that nothing but passes and resizes touches the throttle, and
that a resize that is put off keeps the account.

* `no_resize_is_lost` — the law for every run
-/

namespace MediaQuery

variable {σ : Type}

/-! ## Time -/

/-- In no step is the clock set back. -/
def ClockForward : List (Step σ) → Engine σ → Prop
  | [], _ => True
  | step :: rest, e => e.shared.now ≤ (step.run e).shared.now ∧ ClockForward rest (step.run e)

instance decidableClockForward :
    ∀ (steps : List (Step σ)) (e : Engine σ), Decidable (ClockForward steps e)
  | [], _ => inferInstanceAs (Decidable True)
  | step :: rest, e =>
    have := decidableClockForward rest (step.run e)
    inferInstanceAs (Decidable (_ ∧ _))

theorem clockForward_append {steps later : List (Step σ)} : ∀ {e : Engine σ},
    ClockForward (steps ++ later) e ↔
      ClockForward steps e ∧ ClockForward later (runSteps steps e) := by
  induction steps with
  | nil => intro e; simp [ClockForward]
  | cons step rest ih =>
    intro e
    rw [List.cons_append, ClockForward, ClockForward, ih, runSteps_cons, and_assoc]

/-! ## What the throttle does -/

namespace Throttle

theorem isTooSoon_iff {t : Throttle} {now : Nat} :
    t.isTooSoon now = true ↔ ∃ last, t.lastRun = some last ∧ now - last < t.window := by
  simp [isTooSoon, Option.any_eq_true]

theorem isDue_iff {t : Throttle} {now : Nat} :
    t.isDue now = true ↔ ∃ due, t.deferred = some due ∧ due ≤ now := by
  simp [isDue, Option.any_eq_true]

theorem signal_of_isTooSoon {t : Throttle} {now : Nat} (h : t.isTooSoon now = true) :
    t.signal now = (.deferred (t.deferred.getD (now + t.window)),
      { t with deferred := some (t.deferred.getD (now + t.window)) }) := by
  rw [signal, if_pos h]

/-- A resize that is put off has followed a pass too soon. -/
theorem isTooSoon_of_signal {t : Throttle} {now due : Nat} (h : (t.signal now).1 = .deferred due) :
    t.isTooSoon now = true := by
  cases hsoon : t.isTooSoon now with
  | true => rfl
  | false =>
    rw [signal, hsoon] at h
    exact absurd h (by simp)

end Throttle

/-- Whether a step leaves settings and clock to the engine. -/
def Step.keepsClock : Step σ → Bool
  | host action => (Operation.host action).keepsClock
  | _ => true

/-- Only passes and resizes touch the throttle. -/
theorem Step.throttle_run {step : Step σ} (hpass : step ≠ .pass) (hsignal : step ≠ .signal)
    (h : step.keepsClock = true) (e : Engine σ) : (step.run e).throttle = e.throttle := by
  cases step with
  | pass => exact absurd rfl hpass
  | signal => exact absurd rfl hsignal
  | host action =>
    cases action with
    | configure config => exact absurd h Bool.false_ne_true
    | replaceClock now => exact absurd h Bool.false_ne_true
    | _ => rfl
  | _ => rfl

/-! ## The account -/

/-- Each resize was followed by a pass. -/
def NoneLost (steps : List (Step σ)) : Prop :=
  ∀ before after, steps = before ++ .signal :: after → .pass ∈ after

/-- The last pass ran at a time. -/
def RanLastAt (start : Engine σ) (steps : List (Step σ)) (last : Nat) : Prop :=
  ∃ before after, steps = before ++ .pass :: after ∧ .pass ∉ after ∧
    (runSteps before start).shared.now = last

/-- Since the last pass, at the time `last`, there was a resize, and the first one was at a time
within the window after the pass. It was put off by a window, until `due`. -/
def PutOffUntil (start : Engine σ) (steps : List (Step σ)) (window due : Nat) : Prop :=
  ∃ before mid after last now, steps = before ++ .pass :: (mid ++ .signal :: after) ∧
    .pass ∉ mid ∧ .signal ∉ mid ∧ .pass ∉ after ∧
    (runSteps before start).shared.now = last ∧
    (runSteps (before ++ .pass :: mid) start).shared.now = now ∧
    ((runSteps (before ++ .pass :: mid) start).throttle.signal now).1 = .deferred due ∧
    last ≤ now ∧ now < last + window ∧ due = now + window

/-- What the throttle remembers after some steps is what has happened in them. -/
structure Accounted (start : Engine σ) (steps : List (Step σ)) : Prop where
  window_eq : (runSteps steps start).throttle.window = start.throttle.window
  lastRun : ∀ last, (runSteps steps start).throttle.lastRun = some last →
    RanLastAt start steps last ∧ last ≤ (runSteps steps start).shared.now
  noneLost : (runSteps steps start).throttle.deferred = none → NoneLost steps
  putOff : ∀ due, (runSteps steps start).throttle.deferred = some due →
    PutOffUntil start steps start.throttle.window due

variable {start : Engine σ} {steps : List (Step σ)}

theorem RanLastAt.concat {last : Nat} (h : RanLastAt start steps last) {step : Step σ}
    (hpass : step ≠ .pass) : RanLastAt start (steps ++ [step]) last := by
  obtain ⟨before, after, rfl, hafter, hnow⟩ := h
  refine ⟨before, after ++ [step], by simp, ?_, hnow⟩
  simpa using ⟨hafter, fun he => hpass he.symm⟩

theorem PutOffUntil.concat {window due : Nat} (h : PutOffUntil start steps window due)
    {step : Step σ} (hpass : step ≠ .pass) : PutOffUntil start (steps ++ [step]) window due := by
  obtain ⟨before, mid, after, last, now, rfl, hmid, hsignal, hafter, hrest⟩ := h
  refine ⟨before, mid, after ++ [step], last, now, by simp, hmid, hsignal, ?_, hrest⟩
  simpa using ⟨hafter, fun he => hpass he.symm⟩

/-- Where something occurs in a list with one more at its end. -/
theorem concat_eq_append_cons {α : Type} {list before after : List α} {last a : α}
    (h : list ++ [last] = before ++ a :: after) :
    last = a ∧ after = [] ∨ ∃ after', after = after' ++ [last] ∧ list = before ++ a :: after' := by
  rcases List.eq_nil_or_concat after with rfl | ⟨after', last', rfl⟩
  · exact Or.inl ⟨List.singleton_inj.mp (List.append_inj' h rfl).2, rfl⟩
  · rw [List.concat_eq_append, ← List.cons_append, ← List.append_assoc] at h
    obtain ⟨hlist, hlast⟩ := List.append_inj' h rfl
    obtain rfl := List.singleton_inj.mp hlast
    exact Or.inr ⟨after', List.concat_eq_append, hlist⟩

theorem NoneLost.concat (h : NoneLost steps) {step : Step σ} (hsignal : step ≠ .signal) :
    NoneLost (steps ++ [step]) := by
  intro before after heq
  rcases concat_eq_append_cons heq with ⟨hlast, -⟩ | ⟨after', rfl, hsteps⟩
  · exact absurd hlast hsignal
  · exact List.mem_append_left _ (h before after' hsteps)

theorem noneLost_concat_pass (steps : List (Step σ)) : NoneLost (steps ++ [.pass]) := by
  intro before after heq
  rcases concat_eq_append_cons heq with ⟨hlast, -⟩ | ⟨after', rfl, -⟩
  · exact absurd hlast (by simp)
  · exact List.mem_append_right _ (List.mem_singleton_self _)

namespace Accounted

theorem nil (h : start.throttle = .ofWindow start.throttle.window) : Accounted start [] where
  window_eq := rfl
  lastRun := by
    intro last hlast
    rw [runSteps_nil, h] at hlast
    exact absurd hlast (by simp [Throttle.ofWindow])
  noneLost := by
    intro _ before after heq
    exact absurd heq (by simp)
  putOff := by
    intro due hdue
    rw [runSteps_nil, h] at hdue
    exact absurd hdue (by simp [Throttle.ofWindow])

/-- What is neither a pass nor a resize changes nothing about the account. -/
theorem concat (h : Accounted start steps) {step : Step σ} (hpass : step ≠ .pass)
    (hsignal : step ≠ .signal) (hkeeps : step.keepsClock = true)
    (hnow : (runSteps steps start).shared.now ≤ (runSteps (steps ++ [step]) start).shared.now) :
    Accounted start (steps ++ [step]) := by
  have hthrottle : (runSteps (steps ++ [step]) start).throttle =
      (runSteps steps start).throttle := by
    rw [runSteps_append]
    exact Step.throttle_run hpass hsignal hkeeps _
  constructor
  · rw [hthrottle, h.window_eq]
  · intro last hlast
    rw [hthrottle] at hlast
    obtain ⟨hran, hle⟩ := h.lastRun last hlast
    exact ⟨hran.concat hpass, Nat.le_trans hle hnow⟩
  · rw [hthrottle]
    exact fun hnone => (h.noneLost hnone).concat hsignal
  · rw [hthrottle]
    exact fun due hdue => (h.putOff due hdue).concat hpass

/-- A pass settles the account, whatever has happened before. -/
theorem pass (hwindow : (runSteps steps start).throttle.window = start.throttle.window)
    (hnow : (runSteps steps start).shared.now ≤ (runSteps (steps ++ [.pass]) start).shared.now) :
    Accounted start (steps ++ [.pass]) := by
  have hthrottle : (runSteps (steps ++ [.pass]) start).throttle =
      (runSteps steps start).throttle.recordRun (runSteps steps start).shared.now := by
    rw [runSteps_append]
    exact Engine.throttle_apply _
  constructor
  · rw [hthrottle, Throttle.window_recordRun, hwindow]
  · intro last hlast
    rw [hthrottle, Throttle.lastRun_recordRun] at hlast
    obtain rfl := Option.some.inj hlast
    exact ⟨⟨steps, [], rfl, List.not_mem_nil, rfl⟩, hnow⟩
  · exact fun _ => noneLost_concat_pass steps
  · intro due hdue
    rw [hthrottle, Throttle.deferred_recordRun] at hdue
    exact absurd hdue (by simp)

/-- A resize that follows a pass too soon is put off, unless one has been put off already. -/
theorem signal (h : Accounted start steps)
    (hsoon : (runSteps steps start).throttle.isTooSoon (runSteps steps start).shared.now = true) :
    Accounted start (steps ++ [.signal]) := by
  have hsignal := Throttle.signal_of_isTooSoon hsoon
  obtain ⟨last, hlast, hlt⟩ := Throttle.isTooSoon_iff.mp hsoon
  obtain ⟨hran, hle⟩ := h.lastRun last hlast
  rw [h.window_eq] at hlt
  have hthrottle : (runSteps (steps ++ [.signal]) start).throttle =
      { (runSteps steps start).throttle with
        deferred := some ((runSteps steps start).throttle.deferred.getD
          ((runSteps steps start).shared.now + start.throttle.window)) } := by
    rw [runSteps_append, ← h.window_eq]
    exact congrArg Prod.snd hsignal
  constructor
  · rw [hthrottle]
    exact h.window_eq
  · intro last' hlast'
    rw [hthrottle] at hlast'
    obtain ⟨hran', hle'⟩ := h.lastRun last' hlast'
    refine ⟨hran'.concat (by simp), ?_⟩
    rw [runSteps_append]
    exact hle'
  · intro hnone
    rw [hthrottle] at hnone
    exact absurd hnone (by simp)
  · intro due hdue
    rw [hthrottle] at hdue
    cases hdeferred : (runSteps steps start).throttle.deferred with
    | some due' =>
      have : due' = due := by simpa [hdeferred] using hdue
      subst this
      exact (h.putOff due' hdeferred).concat (by simp)
    | none =>
      have hnow : (runSteps steps start).shared.now + start.throttle.window = due := by
        simpa [hdeferred] using hdue
      obtain ⟨before, after, rfl, hafter, hran⟩ := hran
      refine ⟨before, after, [], last, _, by simp, hafter, ?_, List.not_mem_nil, hran, rfl, ?_, hle,
        ?_, hnow.symm⟩
      · -- an earlier resize would have been followed by a pass
        intro hmem
        obtain ⟨mid, rest, rfl⟩ := List.append_of_mem hmem
        have := h.noneLost hdeferred (before ++ .pass :: mid) rest (by simp)
        exact hafter (by simp [this])
      · rw [hsignal, hdeferred, h.window_eq, ← hnow]
        rfl
      · omega

/-- Steps other than resizes keep the account. -/
theorem append {more : List (Step σ)} (hsignal : .signal ∉ more)
    (hkeeps : ∀ step ∈ more, step.keepsClock = true) :
    ∀ {steps : List (Step σ)}, Accounted start steps → ClockForward more (runSteps steps start) →
      Accounted start (steps ++ more) := by
  induction more with
  | nil => intro steps h _; rwa [List.append_nil]
  | cons step rest ih =>
    intro steps h hclock
    have hrun : runSteps (steps ++ [step]) start = step.run (runSteps steps start) := by
      rw [runSteps_append, runSteps_cons, runSteps_nil]
    have hnow : (runSteps steps start).shared.now ≤
        (runSteps (steps ++ [step]) start).shared.now := by
      rw [hrun]
      exact hclock.1
    have hstep : Accounted start (steps ++ [step]) := by
      by_cases hpass : step = .pass
      · subst hpass
        exact .pass h.window_eq hnow
      · exact h.concat hpass (fun he => hsignal (by simp [he])) (hkeeps step (by simp)) hnow
    have hrest := ih (fun hmem => hsignal (by simp [hmem])) (fun s hs => hkeeps s (by simp [hs]))
      hstep (by rw [hrun]; exact hclock.2)
    rwa [List.append_assoc, List.singleton_append] at hrest

/-- Operations keep the account. -/
theorem operation (h : Accounted start steps) {op : Operation σ} (hkeeps : op.keepsClock = true)
    (hclock : ClockForward (op.steps (runSteps steps start)) (runSteps steps start)) :
    Accounted start (steps ++ op.steps (runSteps steps start)) := by
  by_cases hop : op = .onViewportChange
  · subst hop
    rw [Operation.steps] at hclock ⊢
    cases hsignal :
        ((runSteps steps start).throttle.signal (runSteps steps start).shared.now).1 with
    | runNow =>
      -- the account does not hold between the two steps, but the pass settles it
      rw [hsignal] at hclock
      have hrun : runSteps (steps ++ [.signal]) start = (runSteps steps start).takeSignal := by
        rw [runSteps_append]
        rfl
      have hsettled : Accounted start ((steps ++ [.signal]) ++ [.pass]) := by
        refine .pass ?_ ?_
        · rw [hrun, ← h.window_eq]
          exact Throttle.window_signal _ _
        · rw [runSteps_append _ [.pass], hrun]
          exact hclock.2.1
      rwa [List.append_assoc] at hsettled
    | deferred due => exact h.signal (Throttle.isTooSoon_of_signal hsignal)
  · refine append (Operation.signal_not_mem_steps hop) (fun step hstep => ?_) h hclock
    cases step with
    | host action => rwa [Operation.eq_host_of_mem_steps hstep] at hkeeps
    | _ => rfl

/-- Runs keep the account. -/
theorem history (ops : List (Operation σ)) :
    ∀ {steps : List (Step σ)}, Accounted start steps → (∀ op ∈ ops, op.keepsClock = true) →
      ClockForward (history ops (runSteps steps start)) (runSteps steps start) →
        Accounted start (steps ++ MediaQuery.history ops (runSteps steps start)) := by
  induction ops with
  | nil => intro steps h _ _; rwa [MediaQuery.history, List.append_nil]
  | cons op ops ih =>
    intro steps h hkeeps hclock
    rw [MediaQuery.history, clockForward_append] at hclock
    have hop := h.operation (hkeeps op (by simp)) hclock.1
    have hrun : runSteps (steps ++ op.steps (runSteps steps start)) start =
        (op.run (runSteps steps start)).engine := by
      rw [runSteps_append, engine_run]
    have hrest := ih hop (fun op' hop' => hkeeps op' (by simp [hop']))
      (by rw [hrun, engine_run]; rw [engine_run] at hclock; exact hclock.2)
    rwa [hrun, List.append_assoc] at hrest

end Accounted

namespace Engine

/-- What was put off is run when it is asked for: a pass at the width there is, after which nothing
is put off any more, whether or not a listener fails. -/
structure RunsPending (e : Engine σ) : Prop where
  steps_eq : Operation.runPending.steps e = [.pass]
  engine_eq : e.runPending.engine = e.apply.engine
  result_eq : e.runPending.result = e.apply.result.map fun _ => true
  entry : ∃ size, .pass e.width size ∈ e.runPending.report.entries
  nextDeadline_eq : e.runPending.engine.nextDeadline = none

theorem runsPending_of_le {e : Engine σ} {due : Nat} (hdue : e.nextDeadline = some due)
    (hle : due ≤ e.shared.now) : e.RunsPending := by
  have hisDue : e.throttle.isDue e.shared.now = true := Throttle.isDue_iff.mpr ⟨due, hdue, hle⟩
  have hpending : e.runPending = e.apply.map fun _ => true := if_pos hisDue
  constructor
  · exact if_pos hisDue
  · rw [hpending, Outcome.engine_map]
  · rw [hpending]
    rfl
  · rw [hpending, Outcome.report_map]
    refine ⟨(e.store.activeAt e.width).buckets.length, ?_⟩
    simp [apply, evaluate]
  · rw [hpending, Outcome.engine_map, nextDeadline, throttle_apply, Throttle.deferred_recordRun]

/-- Take any run in which settings and clock are not replaced and the clock is never set back. If
no pass is put off at the end, each resize was followed by a pass. If one is put off, there was a
resize since the last pass, and the first one was within the window after the pass and was put off
by one window. Once that time has come, the pass is run at the width there is, and nothing is put
off any more, whether or not a listener fails. -/
theorem no_resize_is_lost (document : Dom.Document) (viewport : Viewport) (now : Nat) (host : σ)
    (config : Config) (ops : List (Operation σ)) (hkeeps : ∀ op ∈ ops, op.keepsClock = true)
    (hclock : ClockForward
      (history ops ((ofDocument document viewport now host).withConfig config))
      ((ofDocument document viewport now host).withConfig config)) :
    let start := (ofDocument document viewport now host).withConfig config
    let e := runAll ops start
    (e.nextDeadline = none → NoneLost (history ops start)) ∧
      ∀ due, e.nextDeadline = some due →
        PutOffUntil start (history ops start) config.throttleMs due ∧
          (due ≤ e.shared.now →
            Operation.runPending.steps e = [.pass] ∧
              e.runPending.engine = e.apply.engine ∧
              e.runPending.result = e.apply.result.map (fun _ => true) ∧
              (∃ size, .pass e.width size ∈ e.runPending.report.entries) ∧
              e.runPending.engine.nextDeadline = none) := by
  intro start e
  have haccount : Accounted start (history ops start) :=
    (Accounted.nil rfl).history ops hkeeps hclock
  have hrun : runSteps (history ops start) start = e := runSteps_history ops start
  refine ⟨fun hnone => haccount.noneLost (by rw [hrun]; exact hnone), fun due hdue => ⟨?_, ?_⟩⟩
  · exact haccount.putOff due (by rw [hrun]; exact hdue)
  · intro hle
    have hruns := runsPending_of_le hdue hle
    exact ⟨hruns.steps_eq, hruns.engine_eq, hruns.result_eq, hruns.entry, hruns.nextDeadline_eq⟩

/-- A run in which a resize that makes a page wide comes ten milliseconds after a pass, and is due
by now. A listener fails when it learns of it. -/
def resizedRun : List (Operation Unit) :=
  [.matchMedia "(min-width: 600px)",
    .host (.act (.addListener 0 (.fail "refused") fun _ => .setWidth 700 (.advanceClock 10 .done))),
    .onViewportChange, .host (.act (.advanceClock 30 .done))]

theorem late_resize_is_run_despite_a_failure :
    let start := (ofDocument .empty (.ofWidth 500) 0 ()).withConfig Config.default
    ClockForward (history resizedRun start) start ∧
      (runAll resizedRun start).nextDeadline = some 40 ∧
      (runAll resizedRun start).shared.now = 40 ∧
      PutOffUntil start (history resizedRun start) Config.default.throttleMs 40 ∧
      (runAll resizedRun start).apply.result = .error (.listener "(min-width: 600px)" "refused") ∧
      (runAll resizedRun start).runPending.engine.nextDeadline = none := by
  intro start
  have hclock : ClockForward (history resizedRun start) start := by decide +kernel
  have hdue : (runAll resizedRun start).nextDeadline = some 40 := by decide +kernel
  have hnow : (runAll resizedRun start).shared.now = 40 := by decide +kernel
  have hfails : (runAll resizedRun start).apply.result =
      .error (.listener "(min-width: 600px)" "refused") :=
    (result_apply_eq_error_iff _ _).mpr (by decide +kernel)
  obtain ⟨hput, hrun⟩ := (no_resize_is_lost .empty (.ofWidth 500) 0 () Config.default resizedRun
    (by decide) hclock).2 40 hdue
  obtain ⟨-, -, -, -, hnone⟩ := hrun (by decide +kernel)
  exact ⟨hclock, hdue, hnow, hput, hfails, hnone⟩

end Engine

end MediaQuery
