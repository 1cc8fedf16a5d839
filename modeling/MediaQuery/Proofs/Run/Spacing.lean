import MediaQuery.Proofs.Run.Resize

/-!
# Passes keep their distance

A resize leads to a pass at once, or to one that is put off until it is due. Either way a window
lies between that pass and the last one before it, for whatever reason the earlier one ran and
whether or not a listener failed in it: a resize runs a pass at once only if the window is over, and
one that comes sooner is put off by a whole window. A pass takes back what was put off, so that one
resize never leads to two of them.

* `resizes_keep_passes_apart` — the law for every run
-/

namespace MediaQuery

variable {σ : Type}

/-! ## The time of the last pass -/

theorem Step.lastRun_run {step : Step σ} (hpass : step ≠ .pass) (h : step.keepsClock = true)
    (e : Engine σ) : (step.run e).throttle.lastRun = e.throttle.lastRun := by
  by_cases hsignal : step = .signal
  · subst hsignal
    exact Throttle.lastRun_signal ..
  · rw [Step.throttle_run hpass hsignal h]

/-- Nothing that is done in a run replaces the clock, unless an operation does. -/
theorem keepsClock_of_mem_history {ops : List (Operation σ)} {e : Engine σ} {step : Step σ}
    (hops : ∀ op ∈ ops, op.keepsClock = true) (h : step ∈ history ops e) :
    step.keepsClock = true := by
  cases step with
  | host action => exact hops _ (host_mem_of_mem_history h)
  | _ => rfl

/-- The throttle knows when the last pass ran. -/
theorem RanLastAt.lastRun_eq {start : Engine σ} {steps : List (Step σ)} {last : Nat}
    (h : RanLastAt start steps last) (hkeeps : ∀ step ∈ steps, step.keepsClock = true) :
    (runSteps steps start).throttle.lastRun = some last := by
  obtain ⟨before, after, rfl, hafter, rfl⟩ := h
  rw [runSteps_append, runSteps_cons]
  refine runSteps_invariant
    (P := fun e => e.throttle.lastRun = some (runSteps before start).shared.now) ?_ rfl
  intro step hstep e he
  have hpass : step ≠ .pass := fun heq => hafter (heq ▸ hstep)
  rw [Step.lastRun_run hpass (hkeeps step (by simp [hstep])), he]

/-- The last pass ran at one time. -/
theorem RanLastAt.unique {start : Engine σ} {steps : List (Step σ)} {last last' : Nat}
    (h : RanLastAt start steps last) (h' : RanLastAt start steps last') : last = last' := by
  obtain ⟨before, after, rfl, hafter, rfl⟩ := h
  obtain ⟨before', after', heq, hafter', rfl⟩ := h'
  -- if one of the two came first, the other would be among what follows it
  rcases List.append_eq_append_iff.mp heq with ⟨mid, rfl, hmid⟩ | ⟨mid, rfl, hmid⟩
  all_goals
    cases mid with
    | nil => simp
    | cons step mid =>
      obtain ⟨-, rfl⟩ := List.cons.inj hmid
      simp at hafter hafter'

/-- What is put off is due a window after a time at which the last pass was over. -/
theorem PutOffUntil.last_le {start : Engine σ} {steps : List (Step σ)} {window due : Nat}
    (h : PutOffUntil start steps window due) :
    ∃ last, RanLastAt start steps last ∧ last + window ≤ due := by
  obtain ⟨before, mid, after, last, now, rfl, hmid, -, hafter, hlast, -, -, hle, -, rfl⟩ := h
  refine ⟨last, ⟨before, mid ++ .signal :: after, rfl, ?_, hlast⟩, by omega⟩
  simp [hmid, hafter]

/-! ## A pass that a resize has led to -/

/-- A resize that runs a pass at once is taken in before that. -/
theorem Operation.steps_onViewportChange_eq {e : Engine σ} {init rest : List (Step σ)}
    (h : Operation.onViewportChange.steps e = init ++ .pass :: rest) :
    init = [.signal] ∧ (e.throttle.signal e.shared.now).1 = .runNow := by
  rw [steps] at h
  cases hsignal : (e.throttle.signal e.shared.now).1 with
  | runNow =>
    rw [hsignal] at h
    rcases init with _ | ⟨step, _ | ⟨step', init⟩⟩ <;> simp_all
  | deferred due =>
    rw [hsignal] at h
    rcases init with _ | ⟨step, init⟩ <;> simp at h

/-- What was put off is run if it is due. -/
theorem Operation.steps_runPending_eq {e : Engine σ} {init rest : List (Step σ)}
    (h : Operation.runPending.steps e = init ++ .pass :: rest) :
    init = [] ∧ e.throttle.isDue e.shared.now = true := by
  rw [steps] at h
  split at h
  · next hdue =>
    rcases init with _ | ⟨step, init⟩
    · exact ⟨rfl, hdue⟩
    · simp at h
  · simp at h

namespace Accounted

variable {start : Engine σ} {steps : List (Step σ)} {last : Nat}

/-- A resize that is not put off comes a window after the last pass, or later. -/
theorem le_of_runNow (h : Accounted start steps)
    (hlast : (runSteps steps start).throttle.lastRun = some last)
    (hnow : ((runSteps steps start).throttle.signal (runSteps steps start).shared.now).1 =
      .runNow) :
    last + start.throttle.window ≤ (runSteps steps start).shared.now := by
  have hle := (h.lastRun last hlast).2
  by_cases hsoon :
      (runSteps steps start).throttle.isTooSoon (runSteps steps start).shared.now = true
  · rw [Throttle.signal_of_isTooSoon hsoon] at hnow
    exact absurd hnow (by simp)
  · have hwindow : ¬(runSteps steps start).shared.now - last < start.throttle.window :=
      fun hlt => hsoon (Throttle.isTooSoon_iff.mpr ⟨last, hlast, h.window_eq ▸ hlt⟩)
    omega

/-- What was put off is run a window after the last pass, or later. -/
theorem le_of_isDue (h : Accounted start steps) (hran : RanLastAt start steps last)
    (hdue : (runSteps steps start).throttle.isDue (runSteps steps start).shared.now = true) :
    last + start.throttle.window ≤ (runSteps steps start).shared.now := by
  obtain ⟨due, hdeferred, hle⟩ := Throttle.isDue_iff.mp hdue
  obtain ⟨last', hran', hwindow⟩ := (h.putOff due hdeferred).last_le
  rw [hran.unique hran']
  omega

end Accounted

/-! ## Passes that were put off -/

/-- The times at which an operation runs passes that were put off. -/
def Operation.deferredPasses : Operation σ → Engine σ → List Nat
  | runPending, e => (runPending.steps e).map fun _ => e.shared.now
  | _, _ => []

/-- The times at which a run runs passes that were put off. -/
def deferredPasses : List (Operation σ) → Engine σ → List Nat
  | [], _ => []
  | op :: ops, e => op.deferredPasses e ++ deferredPasses ops (op.run e).engine

/-- Where nothing is put off, no such pass is run. -/
theorem Operation.deferredPasses_eq_nil {op : Operation σ} {e : Engine σ}
    (h : e.throttle.deferred = none) : op.deferredPasses e = [] := by
  cases op with
  | runPending => simp [deferredPasses, steps, Throttle.isDue, h]
  | _ => rfl

/-- An operation runs one such pass at most, and takes back what was put off with it. -/
theorem Operation.deferredPasses_cases (op : Operation σ) (e : Engine σ) :
    op.deferredPasses e = [] ∨
      op.deferredPasses e = [e.shared.now] ∧ (op.run e).engine.throttle.deferred = none := by
  cases op with
  | runPending =>
    by_cases hdue : e.throttle.isDue e.shared.now = true
    · refine Or.inr ⟨by simp [deferredPasses, steps, hdue], ?_⟩
      rw [engine_run, steps, if_pos hdue]
      rfl
    · exact Or.inl (by simp [deferredPasses, steps, hdue])
  | _ => exact Or.inl rfl

/-- Nothing is put off but by a resize. -/
theorem Operation.deferred_run {op : Operation σ} (hop : op ≠ .onViewportChange) {e : Engine σ}
    (h : e.throttle.deferred = none) : (op.run e).engine.throttle.deferred = none := by
  rw [engine_run]
  refine runSteps_invariant (P := fun e => e.throttle.deferred = none) ?_ h
  intro step hstep e he
  cases step with
  | signal => exact absurd hstep (signal_not_mem_steps hop)
  | host action => cases action <;> first | exact he | rfl
  | pass => rfl
  | _ => exact he

theorem deferredPasses_eq_nil {ops : List (Operation σ)} (hops : .onViewportChange ∉ ops) :
    ∀ {e : Engine σ}, e.throttle.deferred = none → deferredPasses ops e = [] := by
  induction ops with
  | nil => exact fun _ => rfl
  | cons op ops ih =>
    intro e h
    rw [List.mem_cons, not_or] at hops
    obtain ⟨hop, hrest⟩ := hops
    rw [deferredPasses, Operation.deferredPasses_eq_nil h,
      ih hrest (Operation.deferred_run (Ne.symm hop) h), List.append_nil]

/-- Between two resizes what was put off is run once, if at all. -/
theorem length_deferredPasses_le {ops : List (Operation σ)} (hops : .onViewportChange ∉ ops) :
    ∀ e : Engine σ, (deferredPasses ops e).length ≤ 1 := by
  induction ops with
  | nil => intro e; simp [deferredPasses]
  | cons op ops ih =>
    intro e
    have hrest := List.not_mem_of_not_mem_cons hops
    rw [deferredPasses]
    rcases op.deferredPasses_cases e with hnil | ⟨hone, hnone⟩
    · rw [hnil]
      exact ih hrest _
    · rw [hone, deferredPasses_eq_nil hrest hnone]
      simp

namespace Engine

/-- Take any run in which settings and clock are not replaced and the clock is never set back. A
pass to which a resize leads, at once or when it is due, starts at least a window after the last
pass before it, and that is the one that the throttle knows of. Between two resizes at most one pass
is run that was put off. -/
theorem resizes_keep_passes_apart (document : Dom.Document) (viewport : Viewport) (now : Nat)
    (host : σ) (config : Config) (ops : List (Operation σ))
    (hkeeps : ∀ op ∈ ops, op.keepsClock = true)
    (hclock : ClockForward
      (history ops ((ofDocument document viewport now host).withConfig config))
      ((ofDocument document viewport now host).withConfig config)) :
    let start := (ofDocument document viewport now host).withConfig config
    (∀ before op after, ops = before ++ op :: after →
      op = .onViewportChange ∨ op = .runPending →
      ∀ init rest, op.steps (runAll before start) = init ++ .pass :: rest →
      ∀ last, RanLastAt start (history before start ++ init) last →
        let e := runSteps (history before start ++ init) start
        e.throttle.lastRun = some last ∧ last + config.throttleMs ≤ e.shared.now) ∧
    ∀ before between after, ops = before ++ between ++ after → .onViewportChange ∉ between →
      (deferredPasses between (runAll before start)).length ≤ 1 := by
  intro start
  refine ⟨?_, fun before between after _ hbetween => length_deferredPasses_le hbetween _⟩
  rintro before op after rfl hop init rest hsteps last hran e
  rw [history_append, clockForward_append] at hclock
  have hbefore : ∀ op ∈ before, op.keepsClock = true := fun op hmem => hkeeps op (by simp [hmem])
  have haccount : Accounted start (history before start) :=
    (Accounted.nil rfl).history before hbefore hclock.1
  have hrun : runSteps (history before start) start = runAll before start :=
    runSteps_history before start
  have hpast : ∀ step ∈ history before start, step.keepsClock = true :=
    fun step hstep => keepsClock_of_mem_history hbefore hstep
  rcases hop with rfl | rfl
  · obtain ⟨rfl, hnow⟩ := Operation.steps_onViewportChange_eq hsteps
    have hlast : e.throttle.lastRun = some last :=
      hran.lastRun_eq fun step hstep => (List.mem_append.mp hstep).elim (hpast step) fun hstep => by
        rw [List.mem_singleton.mp hstep]
        rfl
    have he : e = (runAll before start).takeSignal := by
      rw [← hrun]
      exact runSteps_append ..
    refine ⟨hlast, ?_⟩
    rw [he] at hlast ⊢
    rw [← hrun] at hlast hnow ⊢
    exact haccount.le_of_runNow ((Throttle.lastRun_signal ..).symm.trans hlast) hnow
  · obtain ⟨rfl, hdue⟩ := Operation.steps_runPending_eq hsteps
    have he : e = runSteps (history before start) start := by
      change runSteps (history before start ++ []) start = _
      rw [List.append_nil]
    rw [List.append_nil] at hran
    rw [he]
    rw [← hrun] at hdue
    exact ⟨hran.lastRun_eq hpast, haccount.le_of_isDue hran hdue⟩

/-- A run in which a resize comes too soon after a pass. A listener fails in the pass that was put
off, which is asked for once more than needed, and the next resize comes one window after it. -/
def polledRun : List (Operation Unit) :=
  [.matchMedia "(min-width: 600px)",
    .host (.act (.addListener 0 (.fail "refused") fun _ => .setWidth 700 (.advanceClock 10 .done))),
    .onViewportChange, .host (.act (.advanceClock 30 .done)), .runPending, .runPending,
    .host (.act (.advanceClock 30 .done)), .onViewportChange]

theorem resize_runs_a_pass_one_window_after_a_failed_one :
    let start := (ofDocument .empty (.ofWidth 500) 0 ()).withConfig Config.default
    let past := history (polledRun.take 7) start ++ [.signal]
    ClockForward (history polledRun start) start ∧
      RanLastAt start past 40 ∧
      ((runAll (polledRun.take 4) start).runPending.result =
        .error (.listener "(min-width: 600px)" "refused")) ∧
      (runSteps past start).shared.now = 70 ∧ 40 + Config.default.throttleMs ≤ 70 ∧
      deferredPasses (polledRun.drop 3) (runAll (polledRun.take 3) start) = [40] ∧
      (deferredPasses ((polledRun.drop 3).take 4)
        (runAll (polledRun.take 3) start)).length ≤ 1 := by
  intro start past
  have hclock : ClockForward (history polledRun start) start := by decide +kernel
  have hran : RanLastAt start past 40 := by
    have hnil : Accounted start [] := Accounted.nil rfl
    have haccount := hnil.history (polledRun.take 7) (by decide) (by decide +kernel)
    rw [runSteps_nil, List.nil_append] at haccount
    refine (haccount.lastRun 40 ?_).1.concat (by simp)
    rw [runSteps_history]
    decide +kernel
  have hfails : (runAll (polledRun.take 4) start).apply.result =
      .error (.listener "(min-width: 600px)" "refused") :=
    (result_apply_eq_error_iff _ _).mpr (by decide +kernel)
  obtain ⟨hapart, honce⟩ := resizes_keep_passes_apart .empty (.ofWidth 500) 0 () Config.default
    polledRun (by decide) hclock
  have hsteps : Operation.onViewportChange.steps (runAll (polledRun.take 7) start) =
      [.signal, .pass] := by
    have hnow : ((runAll (polledRun.take 7) start).throttle.signal
        (runAll (polledRun.take 7) start).shared.now).1 = .runNow := by decide +kernel
    rw [Operation.steps, hnow]
  obtain ⟨-, hle⟩ := hapart (polledRun.take 7) .onViewportChange [] rfl (Or.inl rfl) [.signal] []
    hsteps 40 hran
  have honce := honce (polledRun.take 3) ((polledRun.drop 3).take 4) [.onViewportChange] rfl
    (by simp [polledRun])
  have hpending : (runAll (polledRun.take 4) start).runPending =
      (runAll (polledRun.take 4) start).apply.map fun _ => true := if_pos (by decide +kernel)
  generalize htime : (runSteps _ _).shared.now = time at hle
  obtain rfl : time = 70 := by
    rw [← htime]
    decide +kernel
  have hpasses : deferredPasses (polledRun.drop 3) (runAll (polledRun.take 3) start) = [40] := by
    decide +kernel
  refine ⟨hclock, hran, ?_, rfl, hle, hpasses, honce⟩
  rw [hpending, Outcome.map, hfails]
  rfl

end Engine

end MediaQuery
