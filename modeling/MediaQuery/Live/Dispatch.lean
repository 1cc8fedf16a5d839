import MediaQuery.Live.Query
import MediaQuery.Log

/-!
# Telling listeners

When a pass has found out which queries match, the queries take it over one after the other, in
order of registration, and a query that changes tells its listeners at once. The listeners that are
called are those that were there when the round began and are still there when their turn comes.

The first failure ends everything: later listeners are not called, and later queries do not take
over what the pass found.
-/

namespace MediaQuery

variable {σ : Type}

/-- A call of a listener, and what the listener could see of its query when it was called. -/
structure Call where
  query : Nat
  slot : Nat
  view : QueryView
deriving DecidableEq, Repr

/-- What a round of calls has led to. -/
structure Round (σ : Type) where
  shared : Shared σ
  failure : Option Failure
  /-- The calls that were made, in order. -/
  calls : List Call
  entries : List Log.Entry

namespace Round

/-- No call was made. -/
def idle (shared : Shared σ) : Round σ := ⟨shared, none, [], []⟩

/-- Goes on with another round unless the first one failed. -/
def andThen (r : Round σ) (next : Shared σ → Round σ) : Round σ :=
  match r.failure with
  | some _ => r
  | none =>
    let later := next r.shared
    ⟨later.shared, later.failure, r.calls ++ later.calls, r.entries ++ later.entries⟩

@[simp] theorem andThen_of_failure {r : Round σ} {failure : Failure}
    (h : r.failure = some failure) (next : Shared σ → Round σ) : r.andThen next = r := by
  simp [andThen, h]

@[simp] theorem idle_andThen (shared : Shared σ) (next : Shared σ → Round σ) :
    (idle shared).andThen next = next shared := rfl

@[simp] theorem andThen_idle (r : Round σ) : r.andThen idle = r := by
  unfold andThen
  split
  · rfl
  · next h => cases r; simp_all [idle]

end Round

namespace Shared

/-- Calls the listener in a slot of a query, if it is still there. -/
def call (s : Shared σ) (number : Nat) (slot : Nat) : Round σ :=
  match s.queries[number]? with
  | none => .idle s
  | some q =>
    match q.listener? slot with
    | none => .idle s
    | some listener =>
      let (cause, s) := listener.run s
      ⟨s, cause.map (.listener q.media), [⟨number, slot, q.view⟩], []⟩

/-- Calls the listeners in some slots of a query, in order. -/
def notify (s : Shared σ) (number : Nat) : (slots : List Nat) → Round σ
  | [] => .idle s
  | slot :: rest => (s.call number slot).andThen fun s => s.notify number rest

/-- Lets a query take over what a pass found, and calls its listeners if it changes. -/
def settle (s : Shared σ) (number : Nat) : Round σ :=
  match s.queries[number]? with
  | none => .idle s
  | some q =>
    if q.isChanged then
      let round := (s.modifyQuery number LiveQuery.commit).notify number (List.range q.nextSlot)
      { round with entries := .changed q.media q.pass :: round.entries }
    else .idle s

/-- Lets some queries, in order, take over what a pass found. -/
def settleAll (s : Shared σ) : (numbers : List Nat) → Round σ
  | [] => .idle s
  | number :: rest => (s.settle number).andThen fun s => s.settleAll rest

/-- Lets every query take over what a pass found. -/
def dispatch (s : Shared σ) : Round σ := s.settleAll (List.range s.queries.length)

end Shared

end MediaQuery
