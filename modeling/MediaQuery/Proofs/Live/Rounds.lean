import MediaQuery.Proofs.Live.Accuracy
import MediaQuery.Proofs.Live.Moments

/-!
# The moments of every run follow each other as they can

`path_runMoments` says that the moments of a run lead from its first state to its last one in the
way that `Moves` allows, and that no round of calls is left open between operations. What is said of
paths therefore holds of every run.
-/

namespace MediaQuery

variable {σ : Type}

/-! ## Events that leave what queries tell and their listeners alone -/

/-- To empty a slot in which there is no listener does nothing. -/
theorem LiveQuery.removeListener_of_none {q : LiveQuery σ} {slot : Nat}
    (h : q.listener? slot = none) : q.removeListener slot = q := by
  have hset : q.listeners.set slot none = q.listeners := by
    by_cases hlt : slot < q.listeners.length
    · have hnone : q.listeners[slot] = none := by simpa [listener?, hlt] using h
      rw [← hnone]
      exact List.set_getElem_self hlt
    · exact List.set_eq_of_length_le (Nat.le_of_not_lt hlt)
  rw [removeListener, hset]

namespace Shared

theorem SameListening.of_queries_eq {s s' : Shared σ} (h : s'.queries = s.queries) :
    s.SameListening s' where
  keeps := fun number q hq => ⟨q, by rw [h]; exact hq, rfl, rfl⟩
  silent := fun number q' hq hq' => by
    rw [h, hq] at hq'
    exact absurd hq' (by simp)

theorem sameListening_record (s : Shared σ) (found : Nat → Bool) :
    s.SameListening (s.record found) where
  keeps := fun number q hq => ⟨q.record (found number), by simp [record, hq], rfl, rfl⟩
  silent := fun number q' hq hq' => by simp [record, hq] at hq'

theorem sameListening_register (s : Shared σ) (media : String) :
    s.SameListening { s with queries := s.queries ++ [LiveQuery.ofMedia media] } where
  keeps := fun number q hq =>
    have hlt := (List.getElem?_eq_some_iff.mp hq).1
    ⟨q, (List.getElem?_append_left hlt).trans hq, rfl, rfl⟩
  silent := fun number q' hq hq' => by
    -- the one query that is new is at the end
    rw [List.getElem?_append_right (List.getElem?_eq_none_iff.mp hq)] at hq'
    rw [List.mem_singleton.mp (List.mem_of_getElem? hq')]
    rfl

/-- To change a query that is not there does nothing. -/
theorem modifyQuery_of_none {s : Shared σ} {number : Nat} (h : s.queries[number]? = none)
    (f : LiveQuery σ → LiveQuery σ) : (s.modifyQuery number f).queries = s.queries := by
  apply List.ext_getElem?
  intro i
  simp only [modifyQuery, List.getElem?_modify]
  by_cases hi : number = i
  · rw [← hi, h]
    rfl
  · simp [hi]

theorem sameListening_addListener {s : Shared σ} {number : Nat} {listener : Program σ}
    (h : (s.addListener number listener).1 = none) :
    s.SameListening (s.addListener number listener).2 :=
  .of_queries_eq (modifyQuery_of_none (Option.map_eq_none_iff.mp h) _)

theorem sameListening_removeListener {s : Shared σ} {number slot : Nat}
    (h : (s.removeListener number slot).1 = false) :
    s.SameListening (s.removeListener number slot).2 := by
  have hqueries : (s.removeListener number slot).2.queries = s.queries := by
    apply List.ext_getElem?
    intro i
    simp only [removeListener, modifyQuery, List.getElem?_modify]
    cases hq : s.queries[i]? with
    | none => rfl
    | some q =>
      by_cases hi : number = i
      · subst hi
        have hslot : q.listener? slot = none := by simpa [removeListener, hq] using h
        simp [LiveQuery.removeListener_of_none hslot]
      · simp [hi]
  exact .of_queries_eq hqueries

end Shared

/-! ## Listeners -/

theorem moves_addListener (s : Shared σ) (p : Option Pending) (number : Nat)
    (listener : Program σ) :
    Moves s p ⟨.ofSlot number (s.addListener number listener).1,
      (s.addListener number listener).2⟩ p := by
  cases hslot : (s.addListener number listener).1 with
  | some slot => exact .added hslot
  | none => exact .other (Shared.sameListening_addListener hslot)

theorem moves_removeListener (s : Shared σ) (p : Option Pending) (number slot : Nat) :
    Moves s p ⟨.ofRemoval number slot (s.removeListener number slot).1,
      (s.removeListener number slot).2⟩ p := by
  cases hremoved : (s.removeListener number slot).1 with
  | true => exact .removed hremoved
  | false => exact .other (Shared.sameListening_removeListener hremoved)

/-- While a listener runs, the round in which it was called stands still. -/
theorem path_program (program : Program σ) : ∀ (s : Shared σ) (p : Option Pending),
    Path s p (program.moments s) (program.run s).2 p := by
  induction program with
  | done => intro s p; exact .nil
  | fail message => intro s p; exact .nil
  | read next ih => intro s p; exact ih s.host s p
  | write state next ih =>
    intro s p
    exact .cons (.other (.of_queries_eq rfl)) (ih _ p)
  | inspect query next ih => intro s p; exact ih _ s p
  | addListener query listener next _ ih =>
    intro s p
    exact .cons (moves_addListener s p query listener) (ih _ _ p)
  | removeListener query slot next ih =>
    intro s p
    exact .cons (moves_removeListener s p query slot) (ih _ _ p)
  | setWidth width next ih =>
    intro s p
    exact .cons (.other (.of_queries_eq rfl)) (ih _ p)
  | setBodyWidth width next ih =>
    intro s p
    exact .cons (.other (.of_queries_eq rfl)) (ih _ p)
  | setClock now next ih =>
    intro s p
    exact .cons (.other (.of_queries_eq rfl)) (ih _ p)
  | advanceClock time next ih =>
    intro s p
    exact .cons (.other (.of_queries_eq rfl)) (ih _ p)

/-- A query that is there stays there whatever a listener does. -/
theorem exists_query_run {s : Shared σ} {number : Nat} {q : LiveQuery σ}
    (hq : s.queries[number]? = some q) (program : Program σ) :
    ∃ q', (program.run s).2.queries[number]? = some q' := by
  have hlen : (program.run s).2.queries.length = s.queries.length := by
    rw [← Shared.length_bare, bare_run, Shared.length_bare]
  have hlt := (List.getElem?_eq_some_iff.mp hq).1
  exact ⟨_, List.getElem?_eq_getElem (hlen ▸ hlt)⟩

namespace Shared

/-! ## Rounds of calls -/

/-- An empty slot is passed over, and nothing happens. -/
theorem call_of_no_listener {s : Shared σ} {number slot : Nat} {q : LiveQuery σ}
    (hq : s.queries[number]? = some q) (hl : q.listener? slot = none) :
    s.call number slot = .idle s ∧ s.callMoments number slot = [] := by
  simp [call, callMoments, hq, hl]

/-- A listener is called, runs, and may fail, which ends the round. -/
theorem path_call {s : Shared σ} {number next slot bound : Nat} {q : LiveQuery σ}
    {listener : Program σ} (hq : s.queries[number]? = some q) (hnext : next ≤ slot)
    (hbound : slot < bound) (hskip : ∀ i, next ≤ i → i < slot → q.listener? i = none)
    (hl : q.listener? slot = some listener) :
    (s.call number slot).shared = (listener.run s).2 ∧
      Path s (some ⟨number, next, bound⟩) (s.callMoments number slot) (listener.run s).2
        (match (s.call number slot).failure with
          | some _ => none
          | none => some ⟨number, slot + 1, bound⟩) := by
  have hcall : s.call number slot = ⟨(listener.run s).2,
      (listener.run s).1.map (.listener q.media), [⟨number, slot, q.view⟩], []⟩ := by
    simp [call, hq, hl]
  have hmove : Moves s (some ⟨number, next, bound⟩) ⟨.called ⟨number, slot, q.view⟩, s⟩
      (some ⟨number, slot + 1, bound⟩) := .called hq hnext hbound hskip (by simp [hl])
  have hrun := path_program listener s (some ⟨number, slot + 1, bound⟩)
  refine ⟨by rw [hcall], ?_⟩
  rw [hcall]
  simp only [callMoments, hq, hl]
  cases hcause : (listener.run s).1 with
  | none => exact .cons hmove (by simpa using hrun)
  | some cause => exact .cons hmove (hrun.append (.single .failed))

/-- A round of calls for one query, from some slot on, is carried through to its end. -/
theorem path_notify (number : Nat) : ∀ (count first next : Nat) (s : Shared σ) (q : LiveQuery σ),
    s.queries[number]? = some q → next ≤ first →
    (∀ i, next ≤ i → i < first → q.listener? i = none) →
    Path s (some ⟨number, next, first + count⟩)
      (s.notifyMoments number (List.range' first count))
      (s.notify number (List.range' first count)).shared none := by
  -- The induction is on the slots that are left. The slots from `next` to `first` were passed over
  -- since the last call, and nothing can have been put into them.
  intro count
  induction count with
  | zero =>
    intro first next s q hq _ hskip
    exact .single (.ended hq hskip)
  | succ count ih =>
    intro first next s q hq hnext hskip
    rw [List.range'_succ, notifyMoments, notify,
      show first + (count + 1) = first + 1 + count by omega]
    cases hl : q.listener? first with
    | none =>
      obtain ⟨hcall, hmoments⟩ := call_of_no_listener hq hl
      rw [hcall, hmoments, Round.idle_andThen]
      refine ih (first + 1) next s q hq (by omega) fun i hi hlt => ?_
      by_cases he : i = first
      · rw [he, hl]
      · exact hskip i hi (by omega)
    | some listener =>
      obtain ⟨hshared, hpath⟩ := path_call hq hnext (by omega : first < first + 1 + count) hskip hl
      cases hfailure : (s.call number first).failure with
      | some failure =>
        rw [hfailure] at hpath
        rw [Round.andThen_of_failure hfailure, hshared]
        exact hpath.append .nil
      | none =>
        rw [hfailure] at hpath
        rw [Round.andThen_of_ok hfailure, hshared]
        -- the listener may have changed those behind it, but the query is still there
        obtain ⟨q', hq'⟩ := exists_query_run hq listener
        refine hpath.append (ih (first + 1) (first + 1) _ q' hq' (Nat.le_refl _) ?_)
        intro i hi hlt
        omega

/-- A query takes over what a pass found, between rounds. -/
theorem path_settle {s : Shared σ} (h : s.IsSettled) (number : Nat) :
    Path s none (s.settleMoments number) (s.settle number).shared none := by
  unfold settleMoments settle
  cases hq : s.queries[number]? with
  | none => exact .nil
  | some q =>
    have hsettled := (isSettled_iff s).mp h q (List.mem_of_getElem? hq)
    by_cases hc : q.isChanged = true
    · -- what the query told its listeners last is what it tells, so it changes for both at once
      have hchanged : q.pass ≠ q.isMatching := by
        rw [hsettled]
        simpa [LiveQuery.isChanged] using hc
      have hq' : (s.modifyQuery number LiveQuery.commit).queries[number]? = some q.commit := by
        simp [modifyQuery, hq]
      have hround := path_notify number q.nextSlot 0 0 _ _ hq' (Nat.le_refl 0) (by omega)
      simp only [hc, if_true]
      rw [List.range_eq_range']
      rw [Nat.zero_add] at hround
      exact .cons (.changed hq hchanged) hround
    · simp only [hc]
      exact .nil

theorem path_settleAll (numbers : List Nat) : ∀ {s : Shared σ}, s.IsSettled →
    Path s none (s.settleAllMoments numbers) (s.settleAll numbers).shared none := by
  induction numbers with
  | nil => intro s _; exact .nil
  | cons number rest ih =>
    intro s h
    have hfirst := path_settle h number
    rw [settleAllMoments, settleAll]
    cases hf : (s.settle number).failure with
    | some failure =>
      rw [Round.andThen_of_failure hf]
      exact hfirst.append .nil
    | none =>
      rw [Round.andThen_of_ok hf]
      exact hfirst.append (ih (h.of_settles (settles_settle h number)))

end Shared

/-! ## Steps and runs -/

namespace Engine

theorem path_step {e : Engine σ} (h : e.HasTrueQueries) (step : Step σ) :
    Path e.shared none (step.moments e) (step.run e).shared none := by
  cases step with
  | store text href media => exact .nil
  | register media => exact .single (.other (e.shared.sameListening_register media))
  | ask href => exact .nil
  | signal => exact .nil
  | pass =>
    refine .cons (.other (e.shared.sameListening_record _)) ?_
    exact Shared.path_settleAll _ (h.settled.record _)
  | host action =>
    cases action with
    | act program => exact path_program program e.shared none
    | configure config => exact .nil
    | replaceClock now => exact .single (.other (.of_queries_eq rfl))
    | insertInHead position node => exact .nil
    | removeFromHead position => exact .nil

theorem path_momentsOf (steps : List (Step σ)) : ∀ {e : Engine σ}, e.HasTrueQueries →
    Path e.shared none (momentsOf steps e) (runSteps steps e).shared none := by
  induction steps with
  | nil => intro e _; exact .nil
  | cons step steps ih =>
    intro e h
    exact (path_step h step).append (ih (h.step step))

/-- The moments of a run lead from its first state to its last one, between rounds. -/
theorem path_runMoments (document : Dom.Document) (viewport : Viewport) (now : Nat) (host : σ)
    (ops : List (Operation σ)) :
    Path (ofDocument document viewport now host).shared none
      (runMoments ops (ofDocument document viewport now host))
      (runAll ops (ofDocument document viewport now host)).shared none := by
  rw [← runSteps_history]
  exact path_momentsOf _ (hasTrueQueries_ofDocument document viewport now host)

end Engine

end MediaQuery
