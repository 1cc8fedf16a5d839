import MediaQuery.Proofs.Live.Causes

/-!
# Queries under other numbers

Listeners know queries by their numbers, and do nothing with a number but name it. So if some
queries are left out, to which nobody listens and which nobody names, and the others get other
numbers, also where listeners name them, then everything else goes on as before.

`Thins` holds the queries of two states against each other, of which the second one lacks some, and
`ThinsRound` two rounds of calls.

* `Renumbering.thins_run` — the law for a listener
* `Renumbering.thinsRound_dispatch` — the law for the rounds of a pass
-/

namespace MediaQuery

variable {σ : Type}

/-! ## Names -/

/-- The listener with other numbers for the queries that it names; those that it adds, too. -/
def Program.renumber (number : Nat → Nat) : Program σ → Program σ
  | done => done
  | fail message => fail message
  | read next => read fun host => (next host).renumber number
  | write state next => write state (next.renumber number)
  | inspect query next => inspect (number query) fun view => (next view).renumber number
  | addListener query listener next =>
    addListener (number query) (listener.renumber number) fun slot => (next slot).renumber number
  | removeListener query slot next =>
    removeListener (number query) slot fun removed => (next removed).renumber number
  | setWidth width next => setWidth width (next.renumber number)
  | setBodyWidth width next => setBodyWidth width (next.renumber number)
  | setClock now next => setClock now (next.renumber number)
  | advanceClock time next => advanceClock time (next.renumber number)

@[simp] theorem Program.renumber_id (p : Program σ) : p.renumber id = p := by
  induction p with
  | done => rfl
  | fail message => rfl
  | read next ih => simp only [renumber, ih]
  | write state next ih => rw [renumber, ih]
  | inspect query next ih => simp only [renumber, ih, id_eq]
  | addListener query listener next ihl ih => simp only [renumber, ihl, ih, id_eq]
  | removeListener query slot next ih => simp only [renumber, ih, id_eq]
  | setWidth width next ih => rw [renumber, ih]
  | setBodyWidth width next ih => rw [renumber, ih]
  | setClock now next ih => rw [renumber, ih]
  | advanceClock time next ih => rw [renumber, ih]

/-- The queries that a listener names while it runs. Those it adds do so when they run. -/
def Program.names : Program σ → Shared σ → List Nat
  | done, _ => []
  | fail _, _ => []
  | read next, s => (next s.host).names s
  | write state next, s => next.names { s with host := state }
  | inspect query next, s => query :: (next ((s.queries[query]?).map LiveQuery.view)).names s
  | addListener query listener next, s =>
    let (slot, s) := s.addListener query listener
    query :: (next slot).names s
  | removeListener query slot next, s =>
    let (removed, s) := s.removeListener query slot
    query :: (next removed).names s
  | setWidth width next, s => next.names (s.setWidth width)
  | setBodyWidth width next, s => next.names (s.setBodyWidth width)
  | setClock now next, s => next.names { s with now }
  | advanceClock time next, s => next.names { s with now := s.now + time }

/-- The queries that the listener names that is called at a moment, if one is. -/
def Moment.names (m : Moment σ) : List Nat :=
  match m.call? with
  | some call => ((m.shared.listenerAt? call.query call.slot).map (·.names m.shared)).getD []
  | none => []

/-- The queries that are named in a step. -/
def Step.names : Step σ → Engine σ → List Nat
  | pass, e => ((pass : Step σ).moments e).flatMap Moment.names
  | host (.act program), e => program.names e.shared
  | _, _ => []

/-- The query with other numbers in its listeners. -/
def LiveQuery.renumber (number : Nat → Nat) (q : LiveQuery σ) : LiveQuery σ :=
  q.mapListeners (Program.renumber number)

@[simp] theorem LiveQuery.renumber_id (q : LiveQuery σ) : q.renumber id = q := by
  have hlisteners : Program.renumber (σ := σ) id = id := funext Program.renumber_id
  simp [renumber, mapListeners, hlisteners]

/-- The call with another number for its query. -/
def Call.renumber (number : Nat → Nat) (call : Call) : Call :=
  { call with query := number call.query }

@[simp] theorem Call.renumber_id (call : Call) : call.renumber id = call := rfl

/-! ## Queries left out -/

/-- Which queries are kept, and the numbers that they get. -/
structure Renumbering where
  keeps : Nat → Bool
  number : Nat → Nat
  injective : ∀ {i j}, keeps i = true → keeps j = true → number i = number j → i = j

namespace Renumbering

/-- One query is left out, and the others have the numbers that they had. -/
def leavingOut (i : Nat) : Renumbering where
  keeps j := j != i
  number := id
  injective _ _ h := h

/-- The number of those below a number that are kept. -/
def rank (keeps : Nat → Bool) (i : Nat) : Nat := ((List.range i).filter keeps).length

theorem rank_lt_of_lt {keeps : Nat → Bool} {i j : Nat} (hi : keeps i = true) (h : i < j) :
    rank keeps i < rank keeps j := by
  have hsplit : List.range j = List.range (i + 1) ++ (List.range j).drop (i + 1) := by
    rw [← List.take_append_drop (i + 1) (List.range j), List.take_range, Nat.min_eq_left h]
    simp
  rw [rank, rank, hsplit, List.range_succ]
  simp only [List.filter_append, List.length_append, List.filter_cons_of_pos hi, List.length_cons]
  omega

/-- Some queries are kept, and numbered anew from 0 on. -/
def keeping (keeps : Nat → Bool) : Renumbering where
  keeps := keeps
  number := rank keeps
  injective {i j} hi hj h := by
    rcases Nat.lt_trichotomy i j with hlt | heq | hgt
    · exact absurd h (Nat.ne_of_lt (rank_lt_of_lt hi hlt))
    · exact heq
    · exact absurd h (Nat.ne_of_gt (rank_lt_of_lt hj hgt))

variable {r : Renumbering}

theorem ne_of_keeps {i j : Nat} (hi : r.keeps i = true) (hj : r.keeps j = false) : i ≠ j := by
  rintro rfl
  rw [hi] at hj
  exact Bool.noConfusion hj

/-- Two states differ in the queries that are left out, to which nobody listens, and in the numbers
of the others. -/
structure Thins (r : Renumbering) (s s' : Shared σ) : Prop where
  kept : ∀ {i}, r.keeps i = true →
    s'.queries[r.number i]? = (s.queries[i]?).map (LiveQuery.renumber r.number)
  silent : ∀ {i q}, r.keeps i = false → s.queries[i]? = some q → q.listeners = []
  /-- The queries that are kept come in the same order. -/
  numbers : ((List.range s.queries.length).filter r.keeps).map r.number =
    List.range s'.queries.length
  viewport : s'.viewport = s.viewport
  now : s'.now = s.now
  host : s'.host = s.host

namespace Thins

variable {s s' : Shared σ}

/-- A state lacks the query that will be registered next. -/
theorem leavingOut (s : Shared σ) : (Renumbering.leavingOut s.queries.length).Thins s s where
  kept {i} _ := by
    change s.queries[i]? = (s.queries[i]?).map (LiveQuery.renumber id)
    cases s.queries[i]? <;> simp
  silent {i q} hi hq := by
    have hlt := (List.getElem?_eq_some_iff.mp hq).1
    simp [Renumbering.leavingOut] at hi
    omega
  numbers := by
    change ((List.range s.queries.length).filter (· != s.queries.length)).map id = _
    rw [List.map_id, List.filter_eq_self]
    intro i hi
    simpa using Nat.ne_of_lt (List.mem_range.mp hi)
  viewport := rfl
  now := rfl
  host := rfl

/-- A query that is kept is changed in both states. -/
theorem modifyQuery (h : r.Thins s s') {i : Nat} (hi : r.keeps i = true)
    {f g : LiveQuery σ → LiveQuery σ}
    (hfg : ∀ q, (f q).renumber r.number = g (q.renumber r.number)) :
    r.Thins (s.modifyQuery i f) (s'.modifyQuery (r.number i) g) := by
  refine ⟨fun {j} hj => ?_, fun {j q} hj hq => ?_, ?_, h.viewport, h.now, h.host⟩
  · simp only [Shared.modifyQuery, List.getElem?_modify, h.kept hj]
    by_cases hij : i = j
    · subst hij
      cases s.queries[i]? with
      | none => rfl
      | some q => simp [hfg]
    · have hne : r.number i ≠ r.number j := fun heq => hij (r.injective hi hj heq)
      simp [hij, hne]
  · have hne := ne_of_keeps hi hj
    simp only [Shared.modifyQuery, List.getElem?_modify, hne] at hq
    exact h.silent hj (by simpa using hq)
  · simpa [Shared.modifyQuery] using h.numbers

/-- A query that is left out can be changed, as long as nobody comes to listen to it. -/
theorem modifyQuery_left (h : r.Thins s s') {i : Nat} (hi : r.keeps i = false)
    {f : LiveQuery σ → LiveQuery σ} (hf : ∀ q, (f q).listeners = q.listeners) :
    r.Thins (s.modifyQuery i f) s' := by
  refine ⟨fun {j} hj => ?_, fun {j q} hj hq => ?_, ?_, h.viewport, h.now, h.host⟩
  · simp [Shared.modifyQuery, (ne_of_keeps hj hi).symm, h.kept hj]
  · simp only [Shared.modifyQuery, List.getElem?_modify] at hq
    obtain ⟨q₀, hq₀, rfl⟩ := Option.map_eq_some_iff.mp hq
    have hsilent := h.silent hj hq₀
    split
    · rw [hf, hsilent]
    · exact hsilent
  · simpa [Shared.modifyQuery] using h.numbers

theorem view_eq (h : r.Thins s s') {i : Nat} (hi : r.keeps i = true) :
    (s'.queries[r.number i]?).map LiveQuery.view = (s.queries[i]?).map LiveQuery.view := by
  rw [h.kept hi, Option.map_map]
  exact congrArg (Option.map · _) (funext (LiveQuery.view_mapListeners _))

theorem addListener (h : r.Thins s s') {i : Nat} (hi : r.keeps i = true) (listener : Program σ) :
    (s'.addListener (r.number i) (listener.renumber r.number)).1 = (s.addListener i listener).1 ∧
      r.Thins (s.addListener i listener).2
        (s'.addListener (r.number i) (listener.renumber r.number)).2 := by
  refine ⟨?_, h.modifyQuery hi fun q => q.mapListeners_addListener _ listener⟩
  change (s'.queries[r.number i]?).map LiveQuery.nextSlot = (s.queries[i]?).map LiveQuery.nextSlot
  rw [h.kept hi, Option.map_map]
  exact congrArg (Option.map · _) (funext (LiveQuery.nextSlot_mapListeners _))

theorem removeListener (h : r.Thins s s') {i : Nat} (hi : r.keeps i = true) (slot : Nat) :
    (s'.removeListener (r.number i) slot).1 = (s.removeListener i slot).1 ∧
      r.Thins (s.removeListener i slot).2 (s'.removeListener (r.number i) slot).2 := by
  refine ⟨?_, h.modifyQuery hi fun q => q.mapListeners_removeListener _ slot⟩
  change ((s'.queries[r.number i]?).bind (·.listener? slot)).isSome =
    ((s.queries[i]?).bind (·.listener? slot)).isSome
  rw [h.kept hi]
  cases s.queries[i]? with
  | none => rfl
  | some q => simp [LiveQuery.renumber]

/-- What a pass finds about the queries that are kept is noted in both states. -/
theorem record (h : r.Thins s s') {found found' : Nat → Bool}
    (hfound : ∀ i < s.queries.length, r.keeps i = true → found' (r.number i) = found i) :
    r.Thins (s.record found) (s'.record found') := by
  refine ⟨fun {i} hi => ?_, fun {i q} hi hq => ?_, ?_, h.viewport, h.now, h.host⟩
  · simp only [Shared.record, List.getElem?_mapIdx, h.kept hi, Option.map_map]
    cases hq : s.queries[i]? with
    | none => rfl
    | some q =>
      have hlt := (List.getElem?_eq_some_iff.mp hq).1
      simp only [Option.map_some, Function.comp_apply, hfound i hlt hi]
      rfl
  · simp only [Shared.record, List.getElem?_mapIdx] at hq
    obtain ⟨q₀, hq₀, rfl⟩ := Option.map_eq_some_iff.mp hq
    have hsilent := h.silent hi hq₀
    exact hsilent
  · simpa [Shared.record] using h.numbers

/-- What is added last has the number that comes next. -/
theorem getElem?_concat {α : Type} (l : List α) (a : α) (i : Nat) :
    (l ++ [a])[i]? = if i = l.length then some a else l[i]? := by
  induction l generalizing i with
  | nil => cases i <;> simp
  | cons b l ih =>
    cases i with
    | zero => simp
    | succ i => simpa using ih i

/-- A new query is kept, and gets the number that comes next on either side. -/
theorem append_kept (h : r.Thins s s') (hkept : r.keeps s.queries.length = true)
    (hnumber : r.number s.queries.length = s'.queries.length) (q : LiveQuery σ) :
    r.Thins { s with queries := s.queries ++ [q] }
      { s' with queries := s'.queries ++ [q.renumber r.number] } := by
  refine ⟨fun {i} hi => ?_, fun {i q'} hi hq => ?_, ?_, h.viewport, h.now, h.host⟩
  · -- one number comes next on one side exactly if the other one does on the other side
    have hnext : r.number i = s'.queries.length ↔ i = s.queries.length := by
      rw [← hnumber]
      exact ⟨r.injective hi hkept, congrArg r.number⟩
    simp only [getElem?_concat, hnext]
    split
    · rfl
    · exact h.kept hi
  · simp only [getElem?_concat, if_neg (ne_of_keeps hkept hi).symm] at hq
    exact h.silent hi hq
  · simp [List.range_succ, List.filter_append, hkept, h.numbers, hnumber]

/-- A new query to which nobody listens can be left out. -/
theorem append_left (h : r.Thins s s') (hleft : r.keeps s.queries.length = false)
    {q : LiveQuery σ} (hq : q.listeners = []) :
    r.Thins { s with queries := s.queries ++ [q] } s' := by
  refine ⟨fun {i} hi => ?_, fun {i q'} hi hq' => ?_, ?_, h.viewport, h.now, h.host⟩
  · simp only [getElem?_concat, if_neg (ne_of_keeps hi hleft), h.kept hi]
  · simp only [getElem?_concat] at hq'
    split at hq'
    · obtain rfl := Option.some.inj hq'
      exact hq
    · exact h.silent hi hq'
  · simp [List.range_succ, List.filter_append, hleft, h.numbers]

/-- The queries but the one that is left out are those of the other state. -/
theorem take_queries {i : Nat} (h : (Renumbering.leavingOut i).Thins s s')
    (hlength : s'.queries.length = i) : s.queries.take i = s'.queries := by
  apply List.ext_getElem?
  intro j
  rw [List.getElem?_take]
  split
  next hlt =>
    have hkept : s'.queries[j]? = (s.queries[j]?).map (LiveQuery.renumber id) :=
      h.kept (by simpa [Renumbering.leavingOut] using Nat.ne_of_lt hlt)
    rw [hkept]
    cases s.queries[j]? <;> simp
  next hge => rw [List.getElem?_eq_none (by omega)]

/-- Queries that are numbered anew from 0 on get the number of those that there are. -/
theorem rank_eq {keeps : Nat → Bool} (h : (keeping keeps).Thins s s') :
    rank keeps s.queries.length = s'.queries.length := by
  have hlength := congrArg List.length h.numbers
  simpa [rank, keeping] using hlength

end Thins

/-- A listener that names only queries that are kept does the same under other numbers. -/
theorem thins_run (p : Program σ) : ∀ {s s' : Shared σ}, r.Thins s s' →
    (∀ i ∈ p.names s, r.keeps i = true) →
      ((p.renumber r.number).run s').1 = (p.run s).1 ∧
        r.Thins (p.run s).2 ((p.renumber r.number).run s').2 := by
  induction p with
  | done => exact fun h _ => ⟨rfl, h⟩
  | fail message => exact fun h _ => ⟨rfl, h⟩
  | read next ih =>
    intro s s' h hnames
    rw [Program.renumber, Program.run, Program.run, h.host]
    exact ih s.host h hnames
  | write state next ih =>
    exact fun h hnames => ih ⟨h.kept, h.silent, h.numbers, h.viewport, h.now, rfl⟩ hnames
  | inspect query next ih =>
    intro s s' h hnames
    obtain ⟨hquery, hrest⟩ := List.forall_mem_cons.mp hnames
    rw [Program.renumber, Program.run, Program.run, h.view_eq hquery]
    exact ih _ h hrest
  | addListener query listener next _ ih =>
    intro s s' h hnames
    obtain ⟨hquery, hrest⟩ := List.forall_mem_cons.mp hnames
    obtain ⟨hslot, hadded⟩ := h.addListener hquery listener
    rw [Program.renumber, Program.run, Program.run]
    simp only [hslot]
    exact ih _ hadded hrest
  | removeListener query slot next ih =>
    intro s s' h hnames
    obtain ⟨hquery, hrest⟩ := List.forall_mem_cons.mp hnames
    obtain ⟨hremoved, hremains⟩ := h.removeListener hquery slot
    rw [Program.renumber, Program.run, Program.run]
    simp only [hremoved]
    exact ih _ hremains hrest
  | setWidth width next ih =>
    exact fun h hnames => ih ⟨h.kept, h.silent, h.numbers, rfl, h.now, h.host⟩ hnames
  | setBodyWidth width next ih =>
    intro s s' h hnames
    exact ih ⟨h.kept, h.silent, h.numbers, congrArg (·.withBody width) h.viewport, h.now, h.host⟩
      hnames
  | setClock now next ih =>
    exact fun h hnames => ih ⟨h.kept, h.silent, h.numbers, h.viewport, rfl, h.host⟩ hnames
  | advanceClock time next ih =>
    intro s s' h hnames
    exact ih ⟨h.kept, h.silent, h.numbers, h.viewport, congrArg (· + time) h.now, h.host⟩ hnames

/-! ## Rounds of calls -/

/-- Two rounds differ in the queries that are left out, and in the numbers of the others. -/
structure ThinsRound (r : Renumbering) (a b : Round σ) : Prop where
  shared : r.Thins a.shared b.shared
  failure : b.failure = a.failure
  calls : b.calls = a.calls.map (Call.renumber r.number)

/-- At some moments only queries are named that are kept. -/
def NamesKept (r : Renumbering) (ms : List (Moment σ)) : Prop :=
  ∀ m ∈ ms, ∀ i ∈ m.names, r.keeps i = true

theorem namesKept_append {ms ms' : List (Moment σ)} :
    r.NamesKept (ms ++ ms') ↔ r.NamesKept ms ∧ r.NamesKept ms' := List.forall_mem_append

theorem namesKept_cons {m : Moment σ} {ms : List (Moment σ)} :
    r.NamesKept (m :: ms) ↔ (∀ i ∈ m.names, r.keeps i = true) ∧ r.NamesKept ms :=
  List.forall_mem_cons

namespace ThinsRound

variable {a b : Round σ} {next next' : Shared σ → Round σ}

theorem idle {s s' : Shared σ} (h : r.Thins s s') : r.ThinsRound (.idle s) (.idle s') :=
  ⟨h, rfl, rfl⟩

theorem andThen (h : r.ThinsRound a b)
    (hnext : a.failure = none → r.ThinsRound (next a.shared) (next' b.shared)) :
    r.ThinsRound (a.andThen next) (b.andThen next') := by
  cases hf : a.failure with
  | some failure =>
    rwa [Round.andThen_of_failure hf, Round.andThen_of_failure (h.failure.trans hf)]
  | none =>
    obtain ⟨hshared, hfailure, hcalls⟩ := hnext hf
    rw [Round.andThen_of_ok hf, Round.andThen_of_ok (h.failure.trans hf)]
    refine ⟨hshared, hfailure, ?_⟩
    simp only [h.calls, hcalls, List.map_append]

end ThinsRound

/-- A round that goes on has named what is named in its beginning and in what follows. -/
theorem namesKept_of_andThen {ms ms' : List (Moment σ)} {failure : Option Failure}
    (h : r.NamesKept (ms ++ match failure with
      | some _ => []
      | none => ms')) : r.NamesKept ms ∧ (failure = none → r.NamesKept ms') := by
  obtain ⟨hfirst, hrest⟩ := namesKept_append.mp h
  refine ⟨hfirst, ?_⟩
  rintro rfl
  exact hrest

variable {s s' : Shared σ}

theorem thinsRound_call (h : r.Thins s s') {i : Nat} (hi : r.keeps i = true) {slot : Nat}
    (hnames : r.NamesKept (s.callMoments i slot)) :
    r.ThinsRound (s.call i slot) (s'.call (r.number i) slot) := by
  unfold Shared.callMoments at hnames
  unfold Shared.call
  rw [h.kept hi]
  cases hq : s.queries[i]? with
  | none => exact .idle h
  | some q =>
    simp only [hq, Option.map_some, LiveQuery.renumber, LiveQuery.listener?_mapListeners]
      at hnames ⊢
    cases hl : q.listener? slot with
    | none => exact .idle h
    | some listener =>
      simp only [hl, Option.map_some] at hnames ⊢
      have hfirst := (namesKept_cons.mp hnames).1
      have hlistener : ∀ j ∈ listener.names s, r.keeps j = true := by
        intro j hj
        refine hfirst j ?_
        simpa [Moment.names, Moment.call?, Shared.listenerAt?, hq, hl] using hj
      obtain ⟨hcause, hshared⟩ := thins_run listener h hlistener
      refine ⟨hshared, ?_, ?_⟩
      · simp only [hcause, LiveQuery.media_mapListeners]
      · simp [Call.renumber]

theorem thinsRound_notify {i : Nat} (hi : r.keeps i = true) (slots : List Nat) :
    ∀ {s s' : Shared σ}, r.Thins s s' → r.NamesKept (s.notifyMoments i slots) →
      r.ThinsRound (s.notify i slots) (s'.notify (r.number i) slots) := by
  induction slots with
  | nil => exact fun h _ => .idle h
  | cons slot rest ih =>
    intro s s' h hnames
    obtain ⟨hfirst, hrest⟩ := namesKept_of_andThen hnames
    have hcall := thinsRound_call h hi hfirst
    exact hcall.andThen fun hok => ih hcall.shared (hrest hok)

/-- A query that is kept does the same in both states. -/
theorem thinsRound_settle (h : r.Thins s s') {i : Nat} (hi : r.keeps i = true)
    (hnames : r.NamesKept (s.settleMoments i)) :
    r.ThinsRound (s.settle i) (s'.settle (r.number i)) := by
  unfold Shared.settleMoments at hnames
  unfold Shared.settle
  rw [h.kept hi]
  cases hq : s.queries[i]? with
  | none => exact .idle h
  | some q =>
    simp only [hq, Option.map_some, LiveQuery.renumber, LiveQuery.isChanged_mapListeners,
      LiveQuery.nextSlot_mapListeners] at hnames ⊢
    by_cases hc : q.isChanged = true
    · simp only [hc, if_true] at hnames ⊢
      have hcommit := h.modifyQuery hi (f := LiveQuery.commit) (g := LiveQuery.commit) fun _ => rfl
      obtain ⟨hshared, hfailure, hcalls⟩ :=
        thinsRound_notify hi (List.range q.nextSlot) hcommit (namesKept_cons.mp hnames).2
      exact ⟨hshared, hfailure, hcalls⟩
    · simp only [hc]
      exact .idle h

/-- A query that is left out calls nobody. -/
theorem settle_left (h : r.Thins s s') {i : Nat} (hi : r.keeps i = false) :
    (s.settle i).failure = none ∧ (s.settle i).calls = [] ∧ r.Thins (s.settle i).shared s' := by
  unfold Shared.settle
  cases hq : s.queries[i]? with
  | none => exact ⟨rfl, rfl, h⟩
  | some q =>
    have hslots : List.range q.nextSlot = [] := by
      rw [LiveQuery.nextSlot, h.silent hi hq]
      rfl
    by_cases hc : q.isChanged = true
    · simp only [hc, if_true, hslots]
      exact ⟨rfl, rfl, h.modifyQuery_left hi fun _ => rfl⟩
    · simp only [hc]
      exact ⟨rfl, rfl, h⟩

theorem thinsRound_settleAll (numbers : List Nat) : ∀ {s s' : Shared σ}, r.Thins s s' →
    r.NamesKept (s.settleAllMoments numbers) →
      r.ThinsRound (s.settleAll numbers)
        (s'.settleAll ((numbers.filter r.keeps).map r.number)) := by
  -- Where a query is left out, the first round goes on while the second one stays where it is.
  induction numbers with
  | nil => exact fun h _ => .idle h
  | cons i rest ih =>
    intro s s' h hnames
    obtain ⟨hfirst, hrest⟩ := namesKept_of_andThen hnames
    rw [Shared.settleAll]
    cases hi : r.keeps i with
    | true =>
      rw [List.filter_cons_of_pos hi, List.map_cons, Shared.settleAll]
      have hsettle := thinsRound_settle h hi hfirst
      exact hsettle.andThen fun hok => ih hsettle.shared (hrest hok)
    | false =>
      rw [List.filter_cons_of_neg (by simp [hi])]
      obtain ⟨hok, hcalls, hsettled⟩ := settle_left h hi
      have hlater := ih hsettled (hrest hok)
      rw [Round.andThen_of_ok hok, hcalls, List.nil_append]
      exact ⟨hlater.shared, hlater.failure, hlater.calls⟩

/-- The rounds of a pass go on as before when queries are left out that nobody names. -/
theorem thinsRound_dispatch (h : r.Thins s s')
    (hnames : r.NamesKept (s.settleAllMoments (List.range s.queries.length))) :
    r.ThinsRound s.dispatch s'.dispatch := by
  rw [Shared.dispatch, Shared.dispatch, ← h.numbers]
  exact thinsRound_settleAll _ h hnames

end Renumbering

end MediaQuery
