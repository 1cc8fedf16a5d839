import MediaQuery.Config
import MediaQuery.Css.Sheet
import MediaQuery.Live.Dispatch
import MediaQuery.Rule.Injection
import MediaQuery.Throttle

/-!
# The engine

An engine applies conditional style rules to one document. A pass measures the viewport, finds the
rules that are active, puts them into the head of the document in the place of what an earlier pass
put there, and then tells the live queries. All of it is done before the listeners are called, so a
listener that fails undoes nothing.

What an operation gives is an `Outcome`: the engine after it, its result or the failure that ended
it, and a report of what was done.
-/

namespace MediaQuery

variable {σ α β : Type}

/-- An engine, over host states of type `σ`. -/
structure Engine (σ : Type) where
  config : Config
  document : Dom.Document
  /-- The style elements that the last pass put into the document. -/
  injected : List Dom.Node
  /-- The live queries, the viewport and the clock. -/
  shared : Shared σ
  store : RuleStore
  throttle : Throttle
  /-- The references of the stylesheets that were asked for. -/
  parsedSheets : List String

/-- What was done in an operation. -/
structure Report where
  entries : List Log.Entry
  calls : List Call
  /-- The references that a source was asked for. -/
  fetched : List String

namespace Report

/-- Nothing was done. -/
def empty : Report := ⟨[], [], []⟩

/-- What was done first, and then. -/
def append (a b : Report) : Report :=
  ⟨a.entries ++ b.entries, a.calls ++ b.calls, a.fetched ++ b.fetched⟩

instance : Append Report := ⟨append⟩

@[simp] theorem entries_append (a b : Report) : (a ++ b).entries = a.entries ++ b.entries := rfl

@[simp] theorem calls_append (a b : Report) : (a ++ b).calls = a.calls ++ b.calls := rfl

@[simp] theorem fetched_append (a b : Report) : (a ++ b).fetched = a.fetched ++ b.fetched := rfl

end Report

/-- What an operation has led to. -/
structure Outcome (σ α : Type) where
  engine : Engine σ
  result : Except Failure α
  report : Report

namespace Outcome

/-- Nothing was done. -/
def pure (engine : Engine σ) (result : α) : Outcome σ α := ⟨engine, .ok result, .empty⟩

/-- The outcome with entries in front of what was done. -/
def logFirst (o : Outcome σ α) (entries : List Log.Entry) : Outcome σ α :=
  { o with report := { o.report with entries := entries ++ o.report.entries } }

/-- The outcome with another result, if it has not failed. -/
def map (f : α → β) (o : Outcome σ α) : Outcome σ β := ⟨o.engine, o.result.map f, o.report⟩

/-- Goes on with another operation unless the first one failed. -/
def andThen (o : Outcome σ α) (next : Engine σ → α → Outcome σ β) : Outcome σ β :=
  match o.result with
  | .error failure => ⟨o.engine, .error failure, o.report⟩
  | .ok result =>
    let later := next o.engine result
    ⟨later.engine, later.result, o.report ++ later.report⟩

@[simp] theorem engine_logFirst (o : Outcome σ α) (entries : List Log.Entry) :
    (o.logFirst entries).engine = o.engine := rfl

@[simp] theorem result_logFirst (o : Outcome σ α) (entries : List Log.Entry) :
    (o.logFirst entries).result = o.result := rfl

@[simp] theorem calls_logFirst (o : Outcome σ α) (entries : List Log.Entry) :
    (o.logFirst entries).report.calls = o.report.calls := rfl

@[simp] theorem engine_map (f : α → β) (o : Outcome σ α) : (o.map f).engine = o.engine := rfl

@[simp] theorem report_map (f : α → β) (o : Outcome σ α) : (o.map f).report = o.report := rfl

theorem andThen_of_ok {o : Outcome σ α} {result : α} (h : o.result = .ok result)
    (next : Engine σ → α → Outcome σ β) :
    (o.andThen next).engine = (next o.engine result).engine ∧
      (o.andThen next).result = (next o.engine result).result := by
  simp [andThen, h]

theorem andThen_of_error {o : Outcome σ α} {failure : Failure} (h : o.result = .error failure)
    (next : Engine σ → α → Outcome σ β) :
    o.andThen next = ⟨o.engine, .error failure, o.report⟩ := by
  simp [andThen, h]

end Outcome

namespace Engine

/-- An engine for a document, before its first pass. -/
def ofDocument (document : Dom.Document) (viewport : Viewport) (now : Nat) (host : σ) :
    Engine σ where
  config := Config.default
  document := document
  injected := []
  shared := ⟨[], viewport, now, host⟩
  store := RuleStore.empty
  throttle := Throttle.ofWindow Config.default.throttleMs
  parsedSheets := []

/-- The engine with other settings. What was put off before is forgotten. -/
def withConfig (e : Engine σ) (config : Config) : Engine σ :=
  { e with config, throttle := Throttle.ofWindow config.throttleMs }

/-- The engine with another clock, which shows the time `now`. -/
def withClock (e : Engine σ) (now : Nat) : Engine σ := { e with shared := { e.shared with now } }

/-- The width that conditions are tested at. -/
def width (e : Engine σ) : Float :=
  e.shared.viewport.effectiveWidth (e.document.mode == .quirks)

/-- The part of a pass before the listeners are called, and what there is to tell about it. -/
def evaluate (e : Engine σ) : Engine σ × List Log.Entry :=
  let width := e.width
  let active := e.store.activeAt width
  let injection := Injection.inject e.document e.injected active
  let e := { e with
    document := injection.document
    injected := injection.injected
    shared := e.shared.record (e.store.matchesAt width)
    throttle := e.throttle.recordRun e.shared.now }
  (e, e.store.testedAt width ++ [.pass width active.buckets.length, injection.entry])

/-- Runs a pass. -/
def apply (e : Engine σ) : Outcome σ Unit :=
  let (e, entries) := e.evaluate
  let round := e.shared.dispatch
  { engine := { e with shared := round.shared }
    result := match round.failure with
      | some failure => .error failure
      | none => .ok ()
    report := ⟨entries ++ round.entries, round.calls, []⟩ }

@[simp] theorem config_apply (e : Engine σ) : e.apply.engine.config = e.config := rfl

@[simp] theorem store_apply (e : Engine σ) : e.apply.engine.store = e.store := rfl

@[simp] theorem parsedSheets_apply (e : Engine σ) :
    e.apply.engine.parsedSheets = e.parsedSheets := rfl

/-- A pass counts as run whether or not a listener fails in it. -/
@[simp] theorem throttle_apply (e : Engine σ) :
    e.apply.engine.throttle = e.throttle.recordRun e.shared.now := rfl

/-- A pass fails exactly when the round of calls at its end does. -/
theorem result_apply_eq_error_iff (e : Engine σ) (failure : Failure) :
    e.apply.result = .error failure ↔ e.evaluate.1.shared.dispatch.failure = some failure := by
  change (match e.evaluate.1.shared.dispatch.failure with
    | some failure => Except.error failure
    | none => .ok ()) = .error failure ↔ _
  split <;> simp_all

/-- Stores the rules of a stylesheet, and gives the descriptors that were added. -/
def storeBlocks (store : RuleStore) (blocks : List MediaBlock) : List Descriptor × RuleStore :=
  blocks.foldl (fun (added, store) block =>
    let (more, store) := store.pushRule (.css block.body) block.conditions
    (added ++ more, store)) ([], store)

/-- Takes in the text of a stylesheet, found at `href` and loaded with a media attribute, and runs a
pass. The result is the descriptors that were added; they stay when a listener fails. -/
def parse (e : Engine σ) (text href : String) (media : Option String) :
    Outcome σ (List Descriptor) :=
  let (added, store) := storeBlocks e.store (MediaBlock.ofSheet text href media)
  let fault := (Css.scan text.toList).2.toList.map Log.Entry.fault
  ((apply { e with store }).map fun _ => added).logFirst (fault ++ [.parsed added.length href])

/-- Registers a live query and runs a pass. The result is its number; the query stays when a
listener fails. -/
def matchMedia (e : Engine σ) (media : String) : Outcome σ Nat :=
  let number := e.shared.queries.length
  let (_, store) := e.store.pushRule (.query number) (Condition.readList media.toList)
  let shared := { e.shared with queries := e.shared.queries ++ [LiveQuery.ofMedia media] }
  (apply { e with store, shared }).map fun _ => number

/-- Takes in that the viewport changed: runs a pass, or puts it off. -/
def onViewportChange (e : Engine σ) : Outcome σ Unit :=
  let (action, throttle) := e.throttle.signal e.shared.now
  let e := { e with throttle }
  match action with
  | .runNow => e.apply
  | .deferred due => (Outcome.pure e ()).logFirst [.deferred due]

/-- When the pass that was put off is due. -/
def nextDeadline (e : Engine σ) : Option Nat := e.throttle.deferred

/-- Runs the pass that was put off, if it is due. The result is whether there was one. -/
def runPending (e : Engine σ) : Outcome σ Bool :=
  if e.throttle.isDue e.shared.now then e.apply.map fun _ => true else .pure e false

end Engine

end MediaQuery
