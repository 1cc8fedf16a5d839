import MediaQuery.Live.Dispatch

/-!
# Which queries take over what a pass found

A listener can do much to queries, but their flags are out of its reach: whatever it does, each
query keeps all but its listeners (`bare_run`). So what a round of calls does to the flags is known
from where it ends.

* `settleAll_cases` — a round without a failure lets all of its queries take over the pass flag; one
  that fails stops at the query of the failing listener, which has taken over its flag, and no query
  after it has
* `isMatching_of_settles`, `isMatching_of_not_settled` — what queries tell after a round that
  follows a pass
-/

namespace MediaQuery

variable {σ : Type}

/-! ## What listeners leave alone -/

namespace LiveQuery

/-- A query without its listeners. -/
def bare (q : LiveQuery σ) : LiveQuery σ := { q with listeners := [] }

@[simp] theorem media_bare (q : LiveQuery σ) : q.bare.media = q.media := rfl

@[simp] theorem isMatching_bare (q : LiveQuery σ) : q.bare.isMatching = q.isMatching := rfl

@[simp] theorem previous_bare (q : LiveQuery σ) : q.bare.previous = q.previous := rfl

@[simp] theorem bare_addListener (q : LiveQuery σ) (listener : Program σ) :
    (q.addListener listener).bare = q.bare := rfl

@[simp] theorem bare_removeListener (q : LiveQuery σ) (slot : Nat) :
    (q.removeListener slot).bare = q.bare := rfl

@[simp] theorem bare_commit (q : LiveQuery σ) : q.commit.bare = q.bare.commit := rfl

/-- A query that does not change takes over what it already has. -/
theorem commit_of_not_changed {q : LiveQuery σ} (hq : q.isMatching = q.previous)
    (h : q.isChanged = false) : q.commit = q := by
  have hp : q.pass = q.previous := by simpa [isChanged] using h
  cases q
  simp_all [commit]

@[simp] theorem commit_commit (q : LiveQuery σ) : q.commit.commit = q.commit := rfl

/-! A function applied to each listener of a query changes nothing that can be seen of the query. -/

/-- The query with other listeners in its slots. -/
def mapListeners (f : Program σ → Program σ) (q : LiveQuery σ) : LiveQuery σ :=
  { q with listeners := q.listeners.map (Option.map f) }

section

variable (f : Program σ → Program σ) (q : LiveQuery σ)

@[simp] theorem media_mapListeners : (q.mapListeners f).media = q.media := rfl

@[simp] theorem pass_mapListeners : (q.mapListeners f).pass = q.pass := rfl

@[simp] theorem isChanged_mapListeners : (q.mapListeners f).isChanged = q.isChanged := rfl

@[simp] theorem nextSlot_mapListeners : (q.mapListeners f).nextSlot = q.nextSlot := by
  simp [mapListeners, nextSlot]

@[simp] theorem listener?_mapListeners (slot : Nat) :
    (q.mapListeners f).listener? slot = (q.listener? slot).map f := by
  unfold listener? mapListeners
  rw [List.getElem?_map]
  cases q.listeners[slot]? with
  | none => rfl
  | some listener => rfl

@[simp] theorem view_mapListeners : (q.mapListeners f).view = q.view := by
  have hcount : (q.mapListeners f).listenerCount = q.listenerCount := by
    simp [listenerCount, mapListeners, List.filter_map, Function.comp_def]
  rw [view, hcount]
  rfl

theorem mapListeners_addListener (listener : Program σ) :
    (q.addListener listener).mapListeners f = (q.mapListeners f).addListener (f listener) := by
  simp [addListener, mapListeners]

theorem mapListeners_removeListener (slot : Nat) :
    (q.removeListener slot).mapListeners f = (q.mapListeners f).removeListener slot := by
  simp [removeListener, mapListeners, List.map_set]

end

end LiveQuery

namespace Shared

/-- The queries without their listeners. -/
def bare (s : Shared σ) : List (LiveQuery σ) := s.queries.map LiveQuery.bare

@[simp] theorem length_bare (s : Shared σ) : s.bare.length = s.queries.length := by
  simp [bare]

theorem getElem?_bare (s : Shared σ) (number : Nat) :
    s.bare[number]? = (s.queries[number]?).map LiveQuery.bare := by
  simp [bare]

/-- A change of one query shows in its bare form alone. -/
theorem bare_modifyQuery {f g : LiveQuery σ → LiveQuery σ} (hfg : ∀ q, (f q).bare = g q.bare)
    (s : Shared σ) (number : Nat) :
    (s.modifyQuery number f).bare = s.bare.modify number g := by
  apply List.ext_getElem?
  intro i
  simp only [getElem?_bare, modifyQuery, List.getElem?_modify]
  cases s.queries[i]? with
  | none => rfl
  | some q => by_cases h : number = i <;> simp [h, hfg]

@[simp] theorem bare_addListener (s : Shared σ) (number : Nat) (listener : Program σ) :
    (s.addListener number listener).2.bare = s.bare :=
  (bare_modifyQuery (g := id) (fun q => q.bare_addListener listener) s number).trans
    (List.modify_id number s.bare)

@[simp] theorem bare_removeListener (s : Shared σ) (number slot : Nat) :
    (s.removeListener number slot).2.bare = s.bare :=
  (bare_modifyQuery (g := id) (fun q => q.bare_removeListener slot) s number).trans
    (List.modify_id number s.bare)

end Shared

/-- Whatever a listener does, each query keeps all but its listeners. -/
theorem bare_run (p : Program σ) : ∀ s : Shared σ, (p.run s).2.bare = s.bare := by
  induction p with
  | done => intro s; rfl
  | fail message => intro s; rfl
  | read next ih => intro s; exact ih s.host s
  | write state next ih => intro s; exact ih _
  | inspect query next ih => intro s; exact ih _ s
  | addListener query listener next _ ih =>
    intro s
    rw [Program.run]
    exact (ih _ _).trans (Shared.bare_addListener s query listener)
  | removeListener query slot next ih =>
    intro s
    rw [Program.run]
    exact (ih _ _).trans (Shared.bare_removeListener s query slot)
  | setWidth width next ih => intro s; exact ih _
  | setBodyWidth width next ih => intro s; exact ih _
  | setClock now next ih => intro s; exact ih _
  | advanceClock time next ih => intro s; exact ih _

/-! ## Rounds of calls -/

/-- A round was ended by a listener of a query: its call was the last one, and the failure carries
the text of its query. -/
structure Round.EndedAt (r : Round σ) (number : Nat) : Prop where
  failure : ∃ cause q, r.shared.bare[number]? = some q ∧ r.failure = some (.listener q.media cause)
  call : ∃ call, r.calls.getLast? = some call ∧ call.query = number

namespace Round

variable {r : Round σ} {next : Shared σ → Round σ}

theorem andThen_of_ok (h : r.failure = none) :
    r.andThen next = ⟨(next r.shared).shared, (next r.shared).failure,
      r.calls ++ (next r.shared).calls, r.entries ++ (next r.shared).entries⟩ := by
  simp [andThen, h]

/-- A round that went on and was then ended. -/
theorem EndedAt.andThen {number : Nat} (hr : r.failure = none)
    (h : (next r.shared).EndedAt number) : (r.andThen next).EndedAt number := by
  rw [andThen_of_ok hr]
  obtain ⟨call, hlast, hquery⟩ := h.call
  refine ⟨h.failure, call, ?_, hquery⟩
  change (r.calls ++ (next r.shared).calls).getLast? = some call
  rw [List.getLast?_append, hlast, Option.some_or]

end Round

namespace Shared

@[simp] theorem bare_call (s : Shared σ) (number slot : Nat) :
    (s.call number slot).shared.bare = s.bare := by
  unfold call
  split
  · rfl
  · split
    · rfl
    · exact bare_run _ s

/-- A call that fails ends the round at its query. -/
theorem endedAt_call {s : Shared σ} {number slot : Nat}
    (h : (s.call number slot).failure ≠ none) : (s.call number slot).EndedAt number := by
  have hbare := bare_call s number slot
  unfold call at h hbare ⊢
  cases hq : s.queries[number]? with
  | none => simp [hq, Round.idle] at h
  | some q =>
    simp only [hq] at h hbare ⊢
    cases hl : q.listener? slot with
    | none => simp [hl, Round.idle] at h
    | some listener =>
      simp only [hl] at h hbare ⊢
      cases hcause : (listener.run s).1 with
      | none => simp [hcause] at h
      | some cause =>
        -- the listener that failed may have changed listeners, but not the text of its query
        refine ⟨⟨cause, q.bare, ?_, rfl⟩, _, rfl, rfl⟩
        change (listener.run s).2.bare[number]? = some q.bare
        rw [bare_run, getElem?_bare, hq, Option.map_some]

@[simp] theorem bare_notify (number : Nat) (slots : List Nat) :
    ∀ s : Shared σ, (s.notify number slots).shared.bare = s.bare := by
  induction slots with
  | nil => intro s; rfl
  | cons slot rest ih =>
    intro s
    rw [notify]
    cases hcall : (s.call number slot).failure with
    | some failure => rw [Round.andThen_of_failure hcall, bare_call]
    | none =>
      rw [Round.andThen_of_ok hcall]
      exact (ih _).trans (bare_call s number slot)

/-- A round of calls for one query that fails is ended at that query. -/
theorem endedAt_notify {number : Nat} {slots : List Nat} :
    ∀ {s : Shared σ}, (s.notify number slots).failure ≠ none →
      (s.notify number slots).EndedAt number := by
  induction slots with
  | nil => intro s h; exact absurd rfl h
  | cons slot rest ih =>
    intro s h
    rw [notify] at h ⊢
    cases hcall : (s.call number slot).failure with
    | some failure =>
      rw [Round.andThen_of_failure hcall]
      exact endedAt_call (by simp [hcall])
    | none =>
      rw [Round.andThen_of_ok hcall] at h
      exact Round.EndedAt.andThen hcall (ih h)

/-- Each query says to its listeners what it found in the last pass that got as far as it. -/
def IsSettled (s : Shared σ) : Prop := ∀ q ∈ s.bare, q.isMatching = q.previous

/-- Between two states, some queries take over their pass flags, and nothing else happens to any
query but to its listeners. -/
def Settles (s s' : Shared σ) (numbers : List Nat) : Prop :=
  ∀ i : Nat, s'.bare[i]? =
    (s.bare[i]?).map fun q => if i ∈ numbers then q.commit else q

theorem IsSettled.of_settles {s s' : Shared σ} {numbers : List Nat} (h : s.IsSettled)
    (hs : s.Settles s' numbers) : s'.IsSettled := by
  intro q' hq'
  obtain ⟨i, hi⟩ := List.getElem?_of_mem hq'
  rw [hs i] at hi
  obtain ⟨q, hq, rfl⟩ := Option.map_eq_some_iff.mp hi
  split
  · rfl
  · exact h q (List.mem_of_getElem? hq)

theorem Settles.append {s s' s'' : Shared σ} {before after : List Nat}
    (h : s.Settles s' before) (h' : s'.Settles s'' after) : s.Settles s'' (before ++ after) := by
  intro i
  rw [h' i, h i, Option.map_map]
  congr 1
  funext q
  by_cases hb : i ∈ before <;> by_cases ha : i ∈ after <;> simp [ha, hb]

/-- A query takes over its pass flag, whether or not that changes anything for its listeners. -/
theorem settles_settle {s : Shared σ} (h : s.IsSettled) (number : Nat) :
    s.Settles (s.settle number).shared [number] := by
  intro i
  unfold settle
  cases hq : s.queries[number]? with
  | none =>
    have hlen : s.queries.length ≤ number := List.getElem?_eq_none_iff.mp hq
    by_cases hi : i = number
    · have : s.bare[i]? = none := by rw [getElem?_bare, hi, hq, Option.map_none]
      simp [Round.idle, this]
    · simp [Round.idle, hi]
  | some q =>
    have hbare : s.bare[number]? = some q.bare := by rw [getElem?_bare, hq, Option.map_some]
    by_cases hc : q.isChanged = true
    · simp only [hc, if_true, bare_notify]
      rw [bare_modifyQuery LiveQuery.bare_commit, List.getElem?_modify]
      simp only [List.mem_singleton, eq_comm (a := i)]
      rfl
    · -- nothing is taken over here, but a query that is not changed tells its pass flag already
      have hc' : q.isChanged = false := by simpa using hc
      have hfix : q.bare.commit = q.bare := by
        rw [← LiveQuery.bare_commit]
        exact congrArg LiveQuery.bare
          (LiveQuery.commit_of_not_changed (h q.bare (List.mem_of_getElem? hbare)) hc')
      simp only [hc', Bool.false_eq_true, if_false, Round.idle]
      by_cases hi : i = number
      · rw [hi, hbare]
        simp [hfix]
      · simp [hi]

/-- A query that fails to settle has ended the round. -/
theorem endedAt_settle {s : Shared σ} {number : Nat} (h : (s.settle number).failure ≠ none) :
    (s.settle number).EndedAt number := by
  unfold settle at h ⊢
  cases hq : s.queries[number]? with
  | none => simp [hq, Round.idle] at h
  | some q =>
    simp only [hq] at h ⊢
    split at h
    · next hc =>
      rw [if_pos hc]
      have hend := endedAt_notify h
      exact ⟨hend.failure, hend.call⟩
    · exact absurd rfl h

/-- A round either lets all of its queries take over their flags, or is ended at one of them. -/
theorem settleAll_cases (numbers : List Nat) : ∀ {s : Shared σ}, s.IsSettled →
    ((s.settleAll numbers).failure = none ∧ s.Settles (s.settleAll numbers).shared numbers) ∨
      ∃ done number rest, numbers = done ++ number :: rest ∧
        (s.settleAll numbers).EndedAt number ∧
        s.Settles (s.settleAll numbers).shared (done ++ [number]) := by
  -- That the queries are settled is kept from one to the next, whatever their listeners do.
  induction numbers with
  | nil =>
    intro s _
    exact Or.inl ⟨rfl, fun i => by simp [settleAll, Round.idle]⟩
  | cons number rest ih =>
    intro s h
    have hfirst := settles_settle h number
    rw [settleAll]
    cases hf : (s.settle number).failure with
    | some failure =>
      rw [Round.andThen_of_failure hf]
      exact Or.inr ⟨[], number, rest, rfl, endedAt_settle (by simp [hf]), hfirst⟩
    | none =>
      have hend := fun {n} => @Round.EndedAt.andThen σ _ (fun s => s.settleAll rest) n hf
      rw [Round.andThen_of_ok hf] at hend ⊢
      rcases ih (h.of_settles hfirst) with ⟨hok, hs⟩ | ⟨done, n, after, hsplit, hn, hs⟩
      · exact Or.inl ⟨hok, hfirst.append hs⟩
      · exact Or.inr ⟨number :: done, n, after, by rw [hsplit]; rfl, hend hn, hfirst.append hs⟩

/-! ## What a pass notes -/

/-- The texts of the queries, in order of registration. -/
def medias (s : Shared σ) : List String := s.queries.map LiveQuery.media

theorem medias_eq_map_bare (s : Shared σ) : s.medias = s.bare.map LiveQuery.media := by
  simp [medias, bare, Function.comp_def]

@[simp] theorem medias_record (s : Shared σ) (found : Nat → Bool) :
    (s.record found).medias = s.medias := by
  apply List.ext_getElem?
  intro i
  simp [medias, record, LiveQuery.record, Option.map_map, Function.comp_def]

@[simp] theorem length_medias (s : Shared σ) : s.medias.length = s.queries.length := by
  simp [medias]

theorem Settles.medias_eq {s s' : Shared σ} {numbers : List Nat} (h : s.Settles s' numbers) :
    s'.medias = s.medias := by
  rw [medias_eq_map_bare, medias_eq_map_bare]
  apply List.ext_getElem?
  intro i
  rw [List.getElem?_map, List.getElem?_map, h i, Option.map_map]
  congr 1
  funext q
  simp only [Function.comp_apply]
  split <;> rfl

theorem getElem?_bare_record (s : Shared σ) (found : Nat → Bool) (i : Nat) :
    (s.record found).bare[i]? = (s.bare[i]?).map (·.record (found i)) := by
  simp only [getElem?_bare, record, List.getElem?_mapIdx, Option.map_map]
  rfl

theorem IsSettled.record {s : Shared σ} (h : s.IsSettled) (found : Nat → Bool) :
    (s.record found).IsSettled := by
  intro q' hq'
  obtain ⟨i, hi⟩ := List.getElem?_of_mem hq'
  rw [getElem?_bare_record] at hi
  obtain ⟨q, hq, rfl⟩ := Option.map_eq_some_iff.mp hi
  exact h q (List.mem_of_getElem? hq)

/-- What a pass noted is replaced as a whole by what the next one notes. -/
theorem record_record (s : Shared σ) (found found' : Nat → Bool) :
    (s.record found).record found' = s.record found' := by
  simp [record, List.mapIdx_mapIdx, LiveQuery.record, Function.comp_def]

theorem isSettled_iff (s : Shared σ) :
    s.IsSettled ↔ ∀ q ∈ s.queries, q.isMatching = q.previous := by
  simp [IsSettled, bare]

/-- What a query tells is its pass flag once it has taken that over, and what it told else. -/
theorem isMatching_of_settles {s s' : Shared σ} {numbers : List Nat} {found : Nat → Bool}
    (h : (s.record found).Settles s' numbers) {i : Nat} {q : LiveQuery σ}
    (hq : s'.queries[i]? = some q) (hi : i ∈ numbers) : q.isMatching = found i := by
  have hb : s'.bare[i]? = some q.bare := by rw [getElem?_bare, hq, Option.map_some]
  rw [h i, getElem?_bare_record, Option.map_map] at hb
  obtain ⟨q₀, _, hq₀⟩ := Option.map_eq_some_iff.mp hb
  rw [← LiveQuery.isMatching_bare, ← hq₀]
  simp [hi, LiveQuery.commit, LiveQuery.record]

theorem isMatching_of_not_settled {s s' : Shared σ} {numbers : List Nat} {found : Nat → Bool}
    (h : (s.record found).Settles s' numbers) {i : Nat} (hi : i ∉ numbers) :
    (s'.queries[i]?).map LiveQuery.isMatching = (s.queries[i]?).map LiveQuery.isMatching := by
  have hmap : ∀ t : Shared σ, (t.queries[i]?).map LiveQuery.isMatching =
      (t.bare[i]?).map LiveQuery.isMatching := by
    intro t
    rw [getElem?_bare, Option.map_map]
    rfl
  rw [hmap, hmap, h i, getElem?_bare_record, Option.map_map, Option.map_map]
  congr 1
  funext q
  simp [hi, LiveQuery.record]

end Shared

end MediaQuery
