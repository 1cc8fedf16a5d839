import MediaQuery.Proofs.Live.Settling
import MediaQuery.Proofs.Run.Step

/-!
# Moments of a run

Listeners are called in the middle of operations, and they add and remove listeners while others are
being called. To say what happens to one listener, a run is taken apart as far as it goes: a moment
is one thing that happens to queries or to what listeners can reach, with the state right after it.

`Moves` says what can happen when, without looking at what listeners do or how the engine goes about
it: which calls may follow each other, and what each event does to the state.
-/

namespace MediaQuery

variable {σ : Type}

/-- Something that happens in a run. -/
inductive Event where
  /-- Something that leaves what queries tell and their listeners alone. -/
  | other
  /-- A listener gets a slot of a query. -/
  | added (query slot : Nat)
  /-- The listener in a slot of a query goes away. -/
  | removed (query slot : Nat)
  /-- A query tells something new from now on, and the round of calls for it begins. -/
  | changed (query : Nat)
  /-- A listener is called. -/
  | called (call : Call)
  /-- The listener in a slot of a query, which was called last, fails. -/
  | failed (query slot : Nat)
  /-- The round of calls for a query has come to its end. -/
  | ended (query : Nat)
deriving DecidableEq

namespace Event

/-- What has happened when a listener was to be added to a query and got a slot, or none. -/
def ofSlot (query : Nat) : Option Nat → Event
  | some slot => added query slot
  | none => other

/-- What has happened when a slot was to be emptied and a listener was in it, or none. -/
def ofRemoval (query slot : Nat) : Bool → Event
  | true => removed query slot
  | false => other

/-- Whether an event is one that a listener can bring about while it runs: a listener comes or goes,
or nothing happens to queries. -/
def isByListener : Event → Bool
  | other | added .. | removed .. => true
  | _ => false

theorem isByListener_ofSlot (query : Nat) (slot : Option Nat) :
    (ofSlot query slot).isByListener = true := by
  cases slot <;> rfl

theorem isByListener_ofRemoval (query slot : Nat) (removed : Bool) :
    (ofRemoval query slot removed).isByListener = true := by
  cases removed <;> rfl

end Event

/-- Something that happens, and the state right after it. -/
structure Moment (σ : Type) where
  event : Event
  shared : Shared σ

/-! ## The moments of what runs -/

/-- The moments of a listener while it runs. -/
def Program.moments : Program σ → Shared σ → List (Moment σ)
  | done, _ => []
  | fail _, _ => []
  | read next, s => (next s.host).moments s
  | write state next, s =>
    ⟨.other, { s with host := state }⟩ :: next.moments { s with host := state }
  | inspect query next, s => (next ((s.queries[query]?).map LiveQuery.view)).moments s
  | addListener query listener next, s =>
    let (slot, s) := s.addListener query listener
    ⟨.ofSlot query slot, s⟩ :: (next slot).moments s
  | removeListener query slot next, s =>
    let (removed, s) := s.removeListener query slot
    ⟨.ofRemoval query slot removed, s⟩ :: (next removed).moments s
  | setWidth width next, s => ⟨.other, s.setWidth width⟩ :: next.moments (s.setWidth width)
  | setBodyWidth width next, s =>
    ⟨.other, s.setBodyWidth width⟩ :: next.moments (s.setBodyWidth width)
  | setClock now next, s => ⟨.other, { s with now }⟩ :: next.moments { s with now }
  | advanceClock time next, s =>
    ⟨.other, { s with now := s.now + time }⟩ :: next.moments { s with now := s.now + time }

/-- A listener calls nobody, and makes no query tell anything new. -/
theorem Program.isByListener_moments (program : Program σ) :
    ∀ s : Shared σ, ∀ m ∈ program.moments s, m.event.isByListener = true := by
  induction program with
  | done => exact fun s m hm => absurd hm List.not_mem_nil
  | fail message => exact fun s m hm => absurd hm List.not_mem_nil
  | read next ih => exact fun s => ih s.host s
  | write state next ih => exact fun s => List.forall_mem_cons.mpr ⟨rfl, ih _⟩
  | inspect query next ih => exact fun s => ih _ s
  | addListener query listener next _ ih =>
    exact fun s => List.forall_mem_cons.mpr ⟨Event.isByListener_ofSlot query _, ih _ _⟩
  | removeListener query slot next ih =>
    exact fun s => List.forall_mem_cons.mpr ⟨Event.isByListener_ofRemoval query slot _, ih _ _⟩
  | setWidth width next ih => exact fun s => List.forall_mem_cons.mpr ⟨rfl, ih _⟩
  | setBodyWidth width next ih => exact fun s => List.forall_mem_cons.mpr ⟨rfl, ih _⟩
  | setClock now next ih => exact fun s => List.forall_mem_cons.mpr ⟨rfl, ih _⟩
  | advanceClock time next ih => exact fun s => List.forall_mem_cons.mpr ⟨rfl, ih _⟩

namespace Shared

/-- The moments in which the listener in a slot of a query is called. -/
def callMoments (s : Shared σ) (number slot : Nat) : List (Moment σ) :=
  match s.queries[number]? with
  | none => []
  | some q =>
    match q.listener? slot with
    | none => []
    | some listener =>
      let (cause, s') := listener.run s
      ⟨.called ⟨number, slot, q.view⟩, s⟩ ::
        (listener.moments s ++
          match cause with
          | some _ => [⟨.failed number slot, s'⟩]
          | none => [])

/-- The moments in which the listeners in some slots of a query are called, up to the end of the
round. -/
def notifyMoments (s : Shared σ) (number : Nat) : (slots : List Nat) → List (Moment σ)
  | [] => [⟨.ended number, s⟩]
  | slot :: rest =>
    s.callMoments number slot ++
      match (s.call number slot).failure with
      | some _ => []
      | none => (s.call number slot).shared.notifyMoments number rest

/-- The moments in which a query takes over what a pass found. -/
def settleMoments (s : Shared σ) (number : Nat) : List (Moment σ) :=
  match s.queries[number]? with
  | none => []
  | some q =>
    if q.isChanged then
      let s := s.modifyQuery number LiveQuery.commit
      ⟨.changed number, s⟩ :: s.notifyMoments number (List.range q.nextSlot)
    else []

/-- The moments in which some queries take over what a pass found. -/
def settleAllMoments (s : Shared σ) : (numbers : List Nat) → List (Moment σ)
  | [] => []
  | number :: rest =>
    s.settleMoments number ++
      match (s.settle number).failure with
      | some _ => []
      | none => (s.settle number).shared.settleAllMoments rest

end Shared

/-- The moments of a step. -/
def Step.moments : Step σ → Engine σ → List (Moment σ)
  | register media, e => [⟨.other, (e.register media).shared⟩]
  | pass, e =>
    let s := e.shared.record (e.store.matchesAt e.width)
    ⟨.other, s⟩ :: s.settleAllMoments (List.range s.queries.length)
  | host (.act program), e => program.moments e.shared
  | host (.replaceClock now), e => [⟨.other, (e.withClock now).shared⟩]
  | _, _ => []

/-- The moments of some steps. -/
def momentsOf : List (Step σ) → Engine σ → List (Moment σ)
  | [], _ => []
  | step :: rest, e => step.moments e ++ momentsOf rest (step.run e)

theorem momentsOf_append (steps later : List (Step σ)) :
    ∀ e : Engine σ, momentsOf (steps ++ later) e =
      momentsOf steps e ++ momentsOf later (runSteps steps e) := by
  induction steps with
  | nil => intro e; rfl
  | cons step steps ih =>
    intro e
    rw [List.cons_append, momentsOf, momentsOf, ih, List.append_assoc, runSteps_cons]

/-- The moments of a run. -/
def runMoments (ops : List (Operation σ)) (e : Engine σ) : List (Moment σ) :=
  momentsOf (history ops e) e

/-- A run is what came before one of its moments, this moment, and what came after. -/
theorem exists_moment (ms : List (Moment σ)) (i : Nat) {e : Event}
    (h : (ms.map Moment.event)[i]? = some e) :
    ∃ s₀, ms = ms.take i ++ ⟨e, s₀⟩ :: (ms.drop (i + 1) ++ []) := by
  rw [List.getElem?_map] at h
  obtain ⟨⟨_, s₀⟩, hm, rfl⟩ := Option.map_eq_some_iff.mp h
  obtain ⟨hi, hget⟩ := List.getElem?_eq_some_iff.mp hm
  refine ⟨s₀, ?_⟩
  rw [List.append_nil, ← hget, List.getElem_cons_drop, List.take_append_drop]

/-! ## What can happen when -/

/-- What is left of a round of calls: the listeners of a query in the slots from `next` on and below
`bound`. -/
structure Pending where
  query : Nat
  next : Nat
  bound : Nat

namespace Shared

/-- Between two states, no query tells anything else or has other listeners than before. -/
structure SameListening (s s' : Shared σ) : Prop where
  keeps : ∀ (number : Nat) (q : LiveQuery σ), s.queries[number]? = some q →
    ∃ q' : LiveQuery σ, s'.queries[number]? = some q' ∧ q'.isMatching = q.isMatching ∧
      q'.listeners = q.listeners
  /-- Nobody listens yet to a query that is new. -/
  silent : ∀ (number : Nat) (q' : LiveQuery σ), s.queries[number]? = none →
    s'.queries[number]? = some q' → q'.listeners = []

end Shared

/-- In a state, and with what is left of a round of calls if one is under way, a moment can come
next, and this is then left of the round. -/
inductive Moves : Shared σ → Option Pending → Moment σ → Option Pending → Prop where
  | other {s s' : Shared σ} {p : Option Pending} (h : s.SameListening s') :
    Moves s p ⟨.other, s'⟩ p
  | added {s : Shared σ} {p : Option Pending} {number slot : Nat} {listener : Program σ}
    (h : (s.addListener number listener).1 = some slot) :
    Moves s p ⟨.added number slot, (s.addListener number listener).2⟩ p
  | removed {s : Shared σ} {p : Option Pending} {number slot : Nat}
    (h : (s.removeListener number slot).1 = true) :
    Moves s p ⟨.removed number slot, (s.removeListener number slot).2⟩ p
  /-- Only between rounds a query changes, and then for all listeners that it has. -/
  | changed {s : Shared σ} {number : Nat} {q : LiveQuery σ} (hq : s.queries[number]? = some q)
    (h : q.pass ≠ q.isMatching) :
    Moves s none ⟨.changed number, s.modifyQuery number LiveQuery.commit⟩
      (some ⟨number, 0, q.nextSlot⟩)
  /-- The next listener that is still there is called. -/
  | called {s : Shared σ} {number next slot bound : Nat} {q : LiveQuery σ}
    (hq : s.queries[number]? = some q) (hnext : next ≤ slot) (hbound : slot < bound)
    (hskip : ∀ i, next ≤ i → i < slot → q.listener? i = none) (hslot : q.listener? slot ≠ none) :
    Moves s (some ⟨number, next, bound⟩) ⟨.called ⟨number, slot, q.view⟩, s⟩
      (some ⟨number, slot + 1, bound⟩)
  /-- The listener that was called last ends the round. -/
  | failed {s : Shared σ} {number slot bound : Nat} :
    Moves s (some ⟨number, slot + 1, bound⟩) ⟨.failed number slot, s⟩ none
  /-- The round is over once no listener is left. -/
  | ended {s : Shared σ} {number next bound : Nat} {q : LiveQuery σ}
    (hq : s.queries[number]? = some q)
    (hskip : ∀ i, next ≤ i → i < bound → q.listener? i = none) :
    Moves s (some ⟨number, next, bound⟩) ⟨.ended number, s⟩ none

/-- Moments that follow each other, from a state to a state. -/
inductive Path :
    Shared σ → Option Pending → List (Moment σ) → Shared σ → Option Pending → Prop where
  | nil {s : Shared σ} {p : Option Pending} : Path s p [] s p
  | cons {s s' : Shared σ} {p p' p'' : Option Pending} {m : Moment σ} {rest : List (Moment σ)} :
    Moves s p m p' → Path m.shared p' rest s' p'' → Path s p (m :: rest) s' p''

namespace Path

variable {s s' s'' : Shared σ} {p p' p'' : Option Pending} {ms ms' : List (Moment σ)} {m : Moment σ}

theorem append (h : Path s p ms s' p') (h' : Path s' p' ms' s'' p'') :
    Path s p (ms ++ ms') s'' p'' := by
  induction h with
  | nil => exact h'
  | cons hm _ ih => exact cons hm (ih h')

theorem single (h : Moves s p m p') : Path s p [m] m.shared p' := cons h nil

/-- A path that consists of two parts passes through a state between them. -/
theorem split (h : Path s p (ms ++ ms') s'' p'') :
    ∃ s' p', Path s p ms s' p' ∧ Path s' p' ms' s'' p'' := by
  induction ms generalizing s p with
  | nil => exact ⟨s, p, nil, h⟩
  | cons m rest ih =>
    cases h with
    | cons hm hrest =>
      obtain ⟨s', p', hfirst, hlast⟩ := ih hrest
      exact ⟨s', p', cons hm hfirst, hlast⟩

end Path

end MediaQuery
