import MediaQuery.Proofs.Live.Settling

/-!
# What would have been if no listener had failed

`pardoned` takes the failures out of listeners: a listener that is pardoned does the same up to
where it would have failed, and is done there. It also adds pardoned listeners only, so nothing
fails any more. A round of calls and its pardoned form are the same up to the first failure, which
is `Pardons`, and the pardoned one goes on from there.

* `pardons_settleAll` — the law for the rounds of a pass
-/

namespace MediaQuery

variable {σ : Type}

/-- The listener without its failures, and without those of the listeners that it adds. -/
def Program.pardoned : Program σ → Program σ
  | done => done
  | fail _ => done
  | read next => read fun host => (next host).pardoned
  | write state next => write state next.pardoned
  | inspect query next => inspect query fun view => (next view).pardoned
  | addListener query listener next =>
    addListener query listener.pardoned fun slot => (next slot).pardoned
  | removeListener query slot next =>
    removeListener query slot fun removed => (next removed).pardoned
  | setWidth width next => setWidth width next.pardoned
  | setBodyWidth width next => setBodyWidth width next.pardoned
  | setClock now next => setClock now next.pardoned
  | advanceClock time next => advanceClock time next.pardoned

/-- The query with its listeners pardoned. -/
def LiveQuery.pardoned (q : LiveQuery σ) : LiveQuery σ :=
  { q with listeners := q.listeners.map (Option.map Program.pardoned) }

/-- The state with all listeners pardoned. -/
def Shared.pardoned (s : Shared σ) : Shared σ :=
  { s with queries := s.queries.map LiveQuery.pardoned }

namespace LiveQuery

@[simp] theorem nextSlot_pardoned (q : LiveQuery σ) : q.pardoned.nextSlot = q.nextSlot :=
  nextSlot_mapListeners Program.pardoned q

@[simp] theorem isChanged_pardoned (q : LiveQuery σ) : q.pardoned.isChanged = q.isChanged := rfl

@[simp] theorem listener?_pardoned (q : LiveQuery σ) (slot : Nat) :
    q.pardoned.listener? slot = (q.listener? slot).map Program.pardoned :=
  listener?_mapListeners Program.pardoned q slot

@[simp] theorem view_pardoned (q : LiveQuery σ) : q.pardoned.view = q.view :=
  view_mapListeners Program.pardoned q

theorem pardoned_addListener (q : LiveQuery σ) (listener : Program σ) :
    (q.addListener listener).pardoned = q.pardoned.addListener listener.pardoned :=
  mapListeners_addListener Program.pardoned q listener

theorem pardoned_removeListener (q : LiveQuery σ) (slot : Nat) :
    (q.removeListener slot).pardoned = q.pardoned.removeListener slot :=
  mapListeners_removeListener Program.pardoned q slot

end LiveQuery

namespace Shared

theorem getElem?_pardoned (s : Shared σ) (number : Nat) :
    s.pardoned.queries[number]? = (s.queries[number]?).map LiveQuery.pardoned := by
  simp [pardoned]

/-- To change a query and to pardon its listeners can be done in any order. -/
theorem pardoned_modifyQuery {f g : LiveQuery σ → LiveQuery σ}
    (hfg : ∀ q, (f q).pardoned = g q.pardoned) (s : Shared σ) (number : Nat) :
    (s.modifyQuery number f).pardoned = s.pardoned.modifyQuery number g := by
  have hqueries : (s.queries.modify number f).map LiveQuery.pardoned =
      (s.queries.map LiveQuery.pardoned).modify number g := by
    apply List.ext_getElem?
    intro i
    simp only [List.getElem?_map, List.getElem?_modify]
    cases s.queries[i]? with
    | none => rfl
    | some q => by_cases h : number = i <;> simp [h, hfg]
  rw [pardoned, modifyQuery, hqueries]
  rfl

theorem addListener_pardoned (s : Shared σ) (number : Nat) (listener : Program σ) :
    s.pardoned.addListener number listener.pardoned =
      ((s.addListener number listener).1, (s.addListener number listener).2.pardoned) := by
  refine Prod.ext ?_ ?_
  · change (s.pardoned.queries[number]?).map LiveQuery.nextSlot =
      (s.queries[number]?).map LiveQuery.nextSlot
    rw [getElem?_pardoned]
    cases s.queries[number]? <;> simp
  · exact (pardoned_modifyQuery (fun q => q.pardoned_addListener listener) s number).symm

theorem removeListener_pardoned (s : Shared σ) (number slot : Nat) :
    s.pardoned.removeListener number slot =
      ((s.removeListener number slot).1, (s.removeListener number slot).2.pardoned) := by
  refine Prod.ext ?_ ?_
  · change ((s.pardoned.queries[number]?).bind (·.listener? slot)).isSome =
      ((s.queries[number]?).bind (·.listener? slot)).isSome
    rw [getElem?_pardoned]
    cases s.queries[number]? <;> simp
  · exact (pardoned_modifyQuery (fun q => q.pardoned_removeListener slot) s number).symm

theorem pardoned_record (s : Shared σ) (found : Nat → Bool) :
    (s.record found).pardoned = s.pardoned.record found := by
  have hqueries : (s.record found).pardoned.queries = (s.pardoned.record found).queries := by
    apply List.ext_getElem?
    intro i
    rw [getElem?_pardoned]
    simp only [record, List.getElem?_mapIdx, getElem?_pardoned]
    cases s.queries[i]? <;> rfl
  exact congrArg (fun queries => { s with queries }) hqueries

end Shared

/-- A pardoned listener does all that the listener does, and does not fail. -/
theorem run_pardoned (program : Program σ) : ∀ s : Shared σ,
    program.pardoned.run s.pardoned = (none, (program.run s).2.pardoned) := by
  induction program with
  | done => intro s; rfl
  | fail message => intro s; rfl
  | read next ih => intro s; exact ih s.host s
  | write state next ih => intro s; exact ih { s with host := state }
  | inspect query next ih =>
    intro s
    have hview : (s.pardoned.queries[query]?).map LiveQuery.view =
        (s.queries[query]?).map LiveQuery.view := by
      rw [Shared.getElem?_pardoned]
      cases s.queries[query]? <;> simp
    rw [Program.pardoned, Program.run, Program.run, hview]
    exact ih _ s
  | addListener query listener next _ ih =>
    intro s
    rw [Program.pardoned, Program.run, Program.run, Shared.addListener_pardoned]
    exact ih _ _
  | removeListener query slot next ih =>
    intro s
    rw [Program.pardoned, Program.run, Program.run, Shared.removeListener_pardoned]
    exact ih _ _
  | setWidth width next ih => intro s; exact ih (s.setWidth width)
  | setBodyWidth width next ih => intro s; exact ih (s.setBodyWidth width)
  | setClock now next ih => intro s; exact ih { s with now }
  | advanceClock time next ih => intro s; exact ih { s with now := s.now + time }

/-! ## Rounds of calls -/

/-- A round is what another one would have been without failures: it makes the same calls, and goes
on where the other one fails. -/
structure Round.Pardons (r' r : Round σ) : Prop where
  failure : r'.failure = none
  calls : r.calls <+: r'.calls
  shared : ∃ s : Shared σ, r'.shared = s.pardoned
  /-- Where nothing fails, there is nothing to pardon. -/
  same : r.failure = none → r'.shared = r.shared.pardoned ∧ r'.calls = r.calls

namespace Round.Pardons

variable {r r' : Round σ} {next next' : Shared σ → Round σ}

theorem idle (s : Shared σ) : Pardons (.idle s.pardoned) (.idle s) :=
  ⟨rfl, List.prefix_refl _, ⟨s, rfl⟩, fun _ => ⟨rfl, rfl⟩⟩

theorem andThen (h : r'.Pardons r) (hnext : ∀ s, (next' s.pardoned).Pardons (next s)) :
    (r'.andThen next').Pardons (r.andThen next) := by
  rw [Round.andThen_of_ok h.failure]
  cases hf : r.failure with
  | none =>
    obtain ⟨hshared, hcalls⟩ := h.same hf
    have hlater := hnext r.shared
    rw [Round.andThen_of_ok hf, hshared, hcalls]
    refine ⟨hlater.failure, ?_, hlater.shared, fun hok => ?_⟩
    · exact (List.prefix_append_right_inj _).mpr hlater.calls
    · obtain ⟨hs, hc⟩ := hlater.same hok
      exact ⟨hs, congrArg (r.calls ++ ·) hc⟩
  | some failure =>
    -- the round has ended here, and its pardoned form goes on
    obtain ⟨s, hs⟩ := h.shared
    have hlater := hnext s
    rw [Round.andThen_of_failure hf, hs]
    refine ⟨hlater.failure, ?_, hlater.shared, fun hok => ?_⟩
    · exact h.calls.trans (List.prefix_append _ _)
    · rw [hf] at hok
      exact absurd hok (by simp)

end Round.Pardons

namespace Shared

theorem pardons_call (s : Shared σ) (number slot : Nat) :
    (s.pardoned.call number slot).Pardons (s.call number slot) := by
  unfold call
  rw [getElem?_pardoned]
  cases hq : s.queries[number]? with
  | none => exact .idle s
  | some q =>
    simp only [Option.map_some, LiveQuery.listener?_pardoned]
    cases q.listener? slot with
    | none => exact .idle s
    | some listener =>
      simp only [Option.map_some, run_pardoned, LiveQuery.view_pardoned]
      exact ⟨rfl, List.prefix_refl _, ⟨_, rfl⟩, fun _ => ⟨rfl, rfl⟩⟩

theorem pardons_notify (number : Nat) (slots : List Nat) : ∀ s : Shared σ,
    (s.pardoned.notify number slots).Pardons (s.notify number slots) := by
  induction slots with
  | nil => exact fun s => .idle s
  | cons slot rest ih => exact fun s => (pardons_call s number slot).andThen ih

theorem pardons_settle (s : Shared σ) (number : Nat) :
    (s.pardoned.settle number).Pardons (s.settle number) := by
  unfold settle
  rw [getElem?_pardoned]
  cases hq : s.queries[number]? with
  | none => exact .idle s
  | some q =>
    simp only [Option.map_some, LiveQuery.isChanged_pardoned, LiveQuery.nextSlot_pardoned]
    by_cases hc : q.isChanged = true
    · have hcommit : (s.modifyQuery number LiveQuery.commit).pardoned =
          s.pardoned.modifyQuery number LiveQuery.commit :=
        pardoned_modifyQuery (f := LiveQuery.commit) (fun q => rfl) s number
      have hround := pardons_notify number (List.range q.nextSlot)
        (s.modifyQuery number LiveQuery.commit)
      rw [hcommit] at hround
      simp only [hc, if_true]
      exact ⟨hround.failure, hround.calls, hround.shared, hround.same⟩
    · simp only [hc]
      exact .idle s

theorem pardons_settleAll (numbers : List Nat) : ∀ s : Shared σ,
    (s.pardoned.settleAll numbers).Pardons (s.settleAll numbers) := by
  induction numbers with
  | nil => exact fun s => .idle s
  | cons number rest ih => exact fun s => (pardons_settle s number).andThen ih

theorem pardons_dispatch (s : Shared σ) : s.pardoned.dispatch.Pardons s.dispatch := by
  have hlength : s.pardoned.queries.length = s.queries.length := by simp [pardoned]
  rw [dispatch, dispatch, hlength]
  exact pardons_settleAll _ s

end Shared

end MediaQuery
