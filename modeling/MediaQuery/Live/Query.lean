import MediaQuery.Condition.Read
import MediaQuery.Failure
import MediaQuery.Text.Quoted
import MediaQuery.Viewport

/-!
# Live queries and their listeners

A live query holds the text of a media query list and whether it matched in the last pass that got
as far as it. Its listeners are kept in slots: a slot, once given out, is never given out again, and
a listener that was removed leaves its slot empty.

A listener is a `Program`: what it does with the queries, the viewport and the clock, and with the
state of its host, step by step. Every program comes to an end; a failure ends it early.
-/

namespace MediaQuery

/-- What a listener can see of a query. -/
structure QueryView where
  media : String
  isMatching : Bool
  listenerCount : Nat
deriving DecidableEq, Repr

/-- The text that shows a query to a reader. -/
def QueryView.text (v : QueryView) : String :=
  "MediaQueryList \x7b media: " ++ Quoted.write v.media ++ ", matches: " ++ toString v.isMatching ++
    ", listeners: " ++ toString v.listenerCount ++ " \x7d"

/-- What a listener does, over host states of type `σ`. A listener can not reach the document: no
step reads it or changes it. -/
inductive Program (σ : Type) where
  | done
  | fail (message : String)
  /-- Looks at the state of the host. -/
  | read (next : σ → Program σ)
  /-- Changes the state of the host. -/
  | write (state : σ) (next : Program σ)
  /-- Looks at a query. -/
  | inspect (query : Nat) (next : Option QueryView → Program σ)
  /-- Adds a listener to a query and goes on with its slot. -/
  | addListener (query : Nat) (listener : Program σ) (next : Option Nat → Program σ)
  /-- Removes the listener in a slot of a query and goes on with whether there was one. -/
  | removeListener (query slot : Nat) (next : Bool → Program σ)
  /-- Makes the viewport as wide as given, root and body alike. -/
  | setWidth (width : Float) (next : Program σ)
  /-- Makes the body as wide as given. -/
  | setBodyWidth (width : Float) (next : Program σ)
  /-- Sets the clock. -/
  | setClock (now : Nat) (next : Program σ)
  /-- Sets the clock forward. -/
  | advanceClock (time : Nat) (next : Program σ)

/-- A live query. -/
structure LiveQuery (σ : Type) where
  media : String
  /-- Whether the query matches, as its listeners were told. -/
  isMatching : Bool
  /-- Whether the query matched in the last pass that got as far as it. -/
  previous : Bool
  /-- Whether the query matches in the pass that is running. -/
  pass : Bool
  listeners : List (Option (Program σ))

namespace LiveQuery

variable {σ : Type}

/-- A query before its first pass. -/
def ofMedia (media : String) : LiveQuery σ := ⟨media, false, false, false, []⟩

/-- The number of listeners. -/
def listenerCount (q : LiveQuery σ) : Nat := (q.listeners.filter Option.isSome).length

/-- What a listener can see of the query. -/
def view (q : LiveQuery σ) : QueryView := ⟨q.media, q.isMatching, q.listenerCount⟩

/-- The listener in a slot. -/
def listener? (q : LiveQuery σ) (slot : Nat) : Option (Program σ) := (q.listeners[slot]?).join

/-- The slot that the next listener gets. -/
def nextSlot (q : LiveQuery σ) : Nat := q.listeners.length

/-- Adds a listener. -/
def addListener (q : LiveQuery σ) (listener : Program σ) : LiveQuery σ :=
  { q with listeners := q.listeners ++ [some listener] }

/-- Empties a slot. -/
def removeListener (q : LiveQuery σ) (slot : Nat) : LiveQuery σ :=
  { q with listeners := q.listeners.set slot none }

/-- Notes what the running pass found. -/
def record (q : LiveQuery σ) (pass : Bool) : LiveQuery σ := { q with pass }

/-- Whether the running pass changes the query. -/
def isChanged (q : LiveQuery σ) : Bool := q.pass != q.previous

/-- Takes over what the running pass found. -/
def commit (q : LiveQuery σ) : LiveQuery σ :=
  { q with isMatching := q.pass, previous := q.pass }

@[simp] theorem nextSlot_addListener (q : LiveQuery σ) (listener : Program σ) :
    (q.addListener listener).nextSlot = q.nextSlot + 1 := by
  simp [addListener, nextSlot]

@[simp] theorem listener?_addListener_self (q : LiveQuery σ) (listener : Program σ) :
    (q.addListener listener).listener? q.nextSlot = some listener := by
  simp [addListener, listener?, nextSlot]

@[simp] theorem nextSlot_removeListener (q : LiveQuery σ) (slot : Nat) :
    (q.removeListener slot).nextSlot = q.nextSlot := by
  simp [removeListener, nextSlot]

end LiveQuery

/-- What listeners can reach: the queries in order of registration, the viewport, the clock and the
state of the host. -/
structure Shared (σ : Type) where
  queries : List (LiveQuery σ)
  viewport : Viewport
  now : Nat
  host : σ

namespace Shared

variable {σ : Type}

/-- Applies a function to a query. -/
def modifyQuery (s : Shared σ) (number : Nat) (f : LiveQuery σ → LiveQuery σ) : Shared σ :=
  { s with queries := s.queries.modify number f }

/-- Adds a listener to a query, and gives its slot. -/
def addListener (s : Shared σ) (number : Nat) (listener : Program σ) : Option Nat × Shared σ :=
  ((s.queries[number]?).map LiveQuery.nextSlot, s.modifyQuery number (·.addListener listener))

/-- Removes the listener in a slot of a query, and says whether there was one. -/
def removeListener (s : Shared σ) (number slot : Nat) : Bool × Shared σ :=
  (((s.queries[number]?).bind (·.listener? slot)).isSome,
    s.modifyQuery number (·.removeListener slot))

/-- The viewport made as wide as given. -/
def setWidth (s : Shared σ) (width : Float) : Shared σ :=
  { s with viewport := Viewport.ofWidth width }

/-- The body made as wide as given. -/
def setBodyWidth (s : Shared σ) (width : Float) : Shared σ :=
  { s with viewport := s.viewport.withBody width }

/-- Notes what a pass found about each query. -/
def record (s : Shared σ) (found : Nat → Bool) : Shared σ :=
  { s with queries := s.queries.mapIdx fun number q => q.record (found number) }

end Shared

/-- Runs a listener. Its failure, if it fails, is the text that it gives. -/
def Program.run {σ : Type} : Program σ → Shared σ → Option String × Shared σ
  | done, s => (none, s)
  | fail message, s => (some message, s)
  | read next, s => (next s.host).run s
  | write state next, s => next.run { s with host := state }
  | inspect query next, s => (next ((s.queries[query]?).map LiveQuery.view)).run s
  | addListener query listener next, s =>
    let (slot, s) := s.addListener query listener
    (next slot).run s
  | removeListener query slot next, s =>
    let (removed, s) := s.removeListener query slot
    (next removed).run s
  | setWidth width next, s => next.run (s.setWidth width)
  | setBodyWidth width next, s => next.run (s.setBodyWidth width)
  | setClock now next, s => next.run { s with now }
  | advanceClock time next, s => next.run { s with now := s.now + time }

end MediaQuery
