import MediaQuery.Proofs.Live.Settling
import MediaQuery.Proofs.Rule.Linking
import MediaQuery.Proofs.Run.Step

/-!
# Live queries tell the truth

Between operations a live query says to the world what it found in the last pass that got as far as
it. After a pass without a failure, that is the truth about the width of the pass; after a pass that
a listener ended, it is the truth up to the query of that listener, and beyond it nothing changed.

* `pass_cases` — what one pass does to the flags
* `queries_tell_the_truth` — the law for every run
-/

namespace MediaQuery

variable {σ : Type}

/-- A query matches exactly if a condition that its text states holds at a width. -/
def LiveQuery.IsAccurateAt (q : LiveQuery σ) (width : Float) : Prop :=
  q.isMatching = true ↔ ∃ c ∈ Condition.readList q.media.toList, c.isActive width = true

/-- The numbers before one of the numbers below a bound are those below that one. -/
theorem eq_range_of_range_eq {n k : Nat} {done rest : List Nat}
    (h : List.range n = done ++ k :: rest) : done = List.range k ∧ k < n := by
  have hlen : done.length < n := by
    have := congrArg List.length h
    simp only [List.length_range, List.length_append, List.length_cons] at this
    omega
  have hk : k = done.length := by
    have := congrArg (fun l => l[done.length]?) h
    simpa [hlen] using this.symm
  have hdone : done = List.range done.length := by
    have := congrArg (List.take done.length) h
    simpa [List.take_range, Nat.min_eq_left (Nat.le_of_lt hlen)] using this.symm
  rw [hk]
  exact ⟨hdone, hlen⟩

namespace Engine

/-! ## One pass -/

@[simp] theorem shared_evaluate (e : Engine σ) :
    e.evaluate.1.shared = e.shared.record (e.store.matchesAt e.width) := rfl

@[simp] theorem shared_apply (e : Engine σ) :
    e.apply.engine.shared = (e.shared.record (e.store.matchesAt e.width)).dispatch.shared := rfl

@[simp] theorem calls_apply (e : Engine σ) :
    e.apply.report.calls = (e.shared.record (e.store.matchesAt e.width)).dispatch.calls := rfl

/-- A pass succeeds exactly when the round of calls at its end does. -/
theorem result_apply_eq_ok_iff (e : Engine σ) :
    e.apply.result = .ok () ↔
      (e.shared.record (e.store.matchesAt e.width)).dispatch.failure = none := by
  have herror := result_apply_eq_error_iff e
  rw [shared_evaluate] at herror
  constructor
  · intro hok
    cases hfailure : (e.shared.record (e.store.matchesAt e.width)).dispatch.failure with
    | none => rfl
    | some failure => exact absurd (hok.symm.trans ((herror failure).mpr hfailure)) (by simp)
  · intro hnone
    cases hresult : e.apply.result with
    | ok _ => rfl
    | error failure => exact absurd (hnone.symm.trans ((herror failure).mp hresult)) (by simp)

/-- What is left in the pass flags by an earlier pass does not show in a later one. -/
theorem apply_record (e : Engine σ) (found : Nat → Bool) :
    Engine.apply { e with shared := e.shared.record found } = e.apply := by
  have h : Engine.evaluate { e with shared := e.shared.record found } = e.evaluate := by
    simp only [evaluate, Shared.record_record]
    rfl
  simp only [apply, h]

/-- A pass either lets every query take over what it found, or is ended by a listener of a query:
then the queries up to that one have taken it over, and those behind it have not. -/
theorem pass_cases (e : Engine σ) (h : e.shared.IsSettled) :
    (e.apply.result = .ok () ∧
      (e.shared.record (e.store.matchesAt e.width)).Settles e.apply.engine.shared
        (List.range e.shared.queries.length)) ∨
    ∃ k < e.shared.queries.length, ∃ cause q call,
      e.apply.engine.shared.bare[k]? = some q ∧
      e.apply.result = .error (.listener q.media cause) ∧
      e.apply.report.calls.getLast? = some call ∧ call.query = k ∧
      (e.shared.record (e.store.matchesAt e.width)).Settles e.apply.engine.shared
        (List.range (k + 1)) := by
  have hlen : (e.shared.record (e.store.matchesAt e.width)).queries.length =
      e.shared.queries.length := by simp [Shared.record]
  rcases Shared.settleAll_cases (List.range e.shared.queries.length)
      (h.record (e.store.matchesAt e.width)) with
    ⟨hok, hs⟩ | ⟨done, k, rest, hsplit, hend, hs⟩
  · refine Or.inl ⟨(result_apply_eq_ok_iff e).mpr ?_, ?_⟩
    · rw [Shared.dispatch, hlen]
      exact hok
    · rw [shared_apply, Shared.dispatch, hlen]
      exact hs
  · obtain ⟨hdone, hk⟩ := eq_range_of_range_eq hsplit
    obtain ⟨cause, q, hq, hfailure⟩ := hend.failure
    obtain ⟨call, hlast, hquery⟩ := hend.call
    refine Or.inr ⟨k, hk, cause, q, call, ?_, ?_, ?_, hquery, ?_⟩
    · rw [shared_apply, Shared.dispatch, hlen]
      exact hq
    · rw [result_apply_eq_error_iff, shared_evaluate, Shared.dispatch, hlen]
      exact hfailure
    · rw [calls_apply, Shared.dispatch, hlen]
      exact hlast
    · rw [shared_apply, Shared.dispatch, hlen, List.range_succ, ← hdone]
      exact hs

/-- What is true of the queries after a pass. -/
structure LeavesQueriesTrue (e : Engine σ) : Prop where
  /-- The same queries are registered as before. -/
  medias : e.apply.engine.shared.medias = e.shared.medias
  ok : e.apply.result = .ok () → ∀ q ∈ e.apply.engine.shared.queries, q.IsAccurateAt e.width
  /-- A listener of query `k` made the last call and failed. The queries up to `k` tell the truth,
  and those behind it tell what they told before. -/
  failed : ∀ failure, e.apply.result = .error failure →
    ∃ k call media cause,
      e.apply.report.calls.getLast? = some call ∧ call.query = k ∧
      e.shared.medias[k]? = some media ∧ failure = .listener media cause ∧
      (∀ i q, i ≤ k → e.apply.engine.shared.queries[i]? = some q → q.IsAccurateAt e.width) ∧
      ∀ i, k < i → (e.apply.engine.shared.queries[i]?).map LiveQuery.isMatching =
        (e.shared.queries[i]?).map LiveQuery.isMatching
  /-- What is left in the pass flags, by whatever pass, changes nothing about this one. -/
  flags : ∀ found, Engine.apply { e with shared := e.shared.record found } = e.apply

/-! ## Runs -/

/-- What holds of the queries wherever the steps of a run have led. -/
structure HasTrueQueries (e : Engine σ) : Prop where
  settled : e.shared.IsSettled
  links : e.store.Links e.shared.medias

theorem hasTrueQueries_ofDocument (document : Dom.Document) (viewport : Viewport) (now : Nat)
    (host : σ) : (ofDocument document viewport now host).HasTrueQueries where
  settled := by simp [Shared.isSettled_iff, ofDocument]
  links := RuleStore.links_empty

/-- A query that took over what was found about its number tells the truth. -/
theorem isAccurateAt_of_isMatching_eq {e : Engine σ} (h : e.store.Links e.shared.medias) {i : Nat}
    {q : LiveQuery σ} (hm : e.shared.medias[i]? = some q.media)
    (hq : q.isMatching = e.store.matchesAt e.width i) : q.IsAccurateAt e.width := by
  rw [LiveQuery.IsAccurateAt, hq, h.matchesAt_eq i q.media hm, List.any_eq_true]

/-- Queries keep their texts in a pass, and their flags say the same thing to both sides. -/
theorem settles_apply {e : Engine σ} (h : e.shared.IsSettled) :
    ∃ numbers, (e.shared.record (e.store.matchesAt e.width)).Settles
      e.apply.engine.shared numbers := by
  rcases e.pass_cases h with ⟨-, hs⟩ | ⟨k, -, -, -, -, -, -, -, -, hs⟩
  · exact ⟨_, hs⟩
  · exact ⟨_, hs⟩

theorem medias_apply {e : Engine σ} (h : e.shared.IsSettled) :
    e.apply.engine.shared.medias = e.shared.medias := by
  obtain ⟨numbers, hs⟩ := settles_apply h
  rw [hs.medias_eq, Shared.medias_record]

theorem isSettled_apply {e : Engine σ} (h : e.shared.IsSettled) :
    e.apply.engine.shared.IsSettled := by
  obtain ⟨numbers, hs⟩ := settles_apply h
  exact (h.record _).of_settles hs

theorem HasTrueQueries.leavesQueriesTrue {e : Engine σ} (h : e.HasTrueQueries) :
    e.LeavesQueriesTrue where
  medias := medias_apply h.settled
  ok := by
    intro hok q hq
    -- all queries have taken over what the pass found
    rcases e.pass_cases h.settled with ⟨-, hs⟩ | ⟨k, -, cause, q', call, -, hfailed, -⟩
    · obtain ⟨i, hi⟩ := List.getElem?_of_mem hq
      have hm : e.shared.medias[i]? = some q.media := by
        rw [← medias_apply h.settled, Shared.medias, List.getElem?_map, hi, Option.map_some]
      have hlt : i < e.shared.queries.length := by
        rw [← Shared.length_medias]
        exact (List.getElem?_eq_some_iff.mp hm).1
      exact isAccurateAt_of_isMatching_eq h.links hm
        (Shared.isMatching_of_settles hs hi (List.mem_range.mpr hlt))
    · rw [hfailed] at hok
      exact absurd hok (by simp)
  failed := by
    intro failure hfailure
    -- the queries up to that of the listener have taken it over, and no others
    rcases e.pass_cases h.settled with
      ⟨hok, -⟩ | ⟨k, -, cause, q, call, hq, hfailed, hlast, hquery, hs⟩
    · rw [hok] at hfailure
      exact absurd hfailure (by simp)
    · have hmedias := medias_apply h.settled
      refine ⟨k, call, q.media, cause, hlast, hquery, ?_, ?_, ?_, ?_⟩
      · rw [← hmedias, Shared.medias_eq_map_bare, List.getElem?_map, hq, Option.map_some]
      · rw [hfailed] at hfailure
        exact (Except.error.inj hfailure).symm
      · intro i q' hi hq'
        have hm : e.shared.medias[i]? = some q'.media := by
          rw [← hmedias, Shared.medias, List.getElem?_map, hq', Option.map_some]
        exact isAccurateAt_of_isMatching_eq h.links hm
          (Shared.isMatching_of_settles hs hq' (List.mem_range.mpr (Nat.lt_succ_of_le hi)))
      · intro i hi
        exact Shared.isMatching_of_not_settled hs (by simp; omega)
  flags := apply_record e

theorem HasTrueQueries.apply {e : Engine σ} (h : e.HasTrueQueries) :
    e.apply.engine.HasTrueQueries where
  settled := isSettled_apply h.settled
  links := by
    rw [store_apply, medias_apply h.settled]
    exact h.links

theorem HasTrueQueries.register {e : Engine σ} (h : e.HasTrueQueries) (media : String) :
    (e.register media).HasTrueQueries where
  settled := by
    have hs := (Shared.isSettled_iff e.shared).mp h.settled
    rw [Shared.isSettled_iff]
    intro q hq
    rcases List.mem_append.mp hq with hq | hq
    · exact hs q hq
    · rw [List.mem_singleton.mp hq]
      rfl
  links := by
    have hr := h.links.register media
    rw [Shared.length_medias] at hr
    simpa [Engine.register, Shared.medias, LiveQuery.ofMedia] using hr

theorem HasTrueQueries.act {e : Engine σ} (h : e.HasTrueQueries) (program : Program σ) :
    ((HostAction.act program).run e).HasTrueQueries where
  settled := by
    rw [Shared.IsSettled]
    change ∀ q ∈ (program.run e.shared).2.bare, _
    rw [bare_run]
    exact h.settled
  links := by
    rw [Shared.medias_eq_map_bare]
    change e.store.Links ((program.run e.shared).2.bare.map LiveQuery.media)
    rw [bare_run, ← Shared.medias_eq_map_bare]
    exact h.links

theorem HasTrueQueries.step {e : Engine σ} (h : e.HasTrueQueries) (step : Step σ) :
    (step.run e).HasTrueQueries := by
  cases step with
  | store text href media => exact ⟨h.settled, links_storeBlocks _ h.links⟩
  | register media => exact h.register media
  | ask href => exact ⟨h.settled, h.links⟩
  | signal => exact ⟨h.settled, h.links⟩
  | pass => exact h.apply
  | host action =>
    cases action with
    | act program => exact h.act program
    | configure config => exact ⟨h.settled, h.links⟩
    | replaceClock now => exact ⟨h.settled, h.links⟩
    | insertInHead position node => exact ⟨h.settled, h.links⟩
    | removeFromHead position => exact ⟨h.settled, h.links⟩

/-- Wherever the steps of a run have led, passes leave the queries true. -/
theorem hasTrueQueries_runSteps (document : Dom.Document) (viewport : Viewport) (now : Nat)
    (host : σ) (steps : List (Step σ)) :
    (runSteps steps (ofDocument document viewport now host)).HasTrueQueries :=
  runSteps_invariant (P := HasTrueQueries) (fun step _ _ h => h.step step)
    (hasTrueQueries_ofDocument document viewport now host)

/-- In every state between the operations of a run, each query tells what it found in the last pass
that got as far as it. Every pass of the run leaves the queries true, as far as it gets. A query
that is being registered stays, the last one, whether or not the first pass over it fails. -/
theorem queries_tell_the_truth (document : Dom.Document) (viewport : Viewport) (now : Nat)
    (host : σ) (ops : List (Operation σ)) :
    let start := ofDocument document viewport now host
    let e := runAll ops start
    (∀ q ∈ e.shared.queries, q.isMatching = q.previous) ∧
    (∀ before after, history ops start = before ++ .pass :: after →
      (runSteps before start).LeavesQueriesTrue) ∧
    ∀ media, (e.matchMedia media).engine.store.queries.getLast? = some e.shared.queries.length ∧
      (e.matchMedia media).engine.shared.medias = e.shared.medias ++ [media] := by
  intro start e
  have hsteps := hasTrueQueries_runSteps document viewport now host
  have he : e.HasTrueQueries := by
    have := hsteps (history ops start)
    rwa [runSteps_history] at this
  refine ⟨(Shared.isSettled_iff _).mp he.settled, ?_, ?_⟩
  · intro before after _
    exact (hsteps before).leavesQueriesTrue
  · intro media
    have hr := he.register media
    have hmedias : (e.register media).shared.medias = e.shared.medias ++ [media] := by
      simp [Engine.register, Shared.medias, LiveQuery.ofMedia]
    rw [engine_matchMedia, store_apply, medias_apply hr.settled, hr.links.queries_eq, hmedias]
    exact ⟨by simp [List.range_succ], rfl⟩

end Engine

end MediaQuery
