/-!
# Throttling

A resize that follows a pass too soon does not run another. The first one that is put off sets a
time; all others until then are covered by it. Any pass, for whatever reason it ran, takes the time
back.

Times are milliseconds on a clock of the host's choice.
-/

namespace MediaQuery

/-- What keeps passes apart. Times are numbers without a bound: the sum of a time and a window never
overflows here, as it can where times have 64 bits. -/
structure Throttle where
  /-- How long after a pass a resize is put off. -/
  window : Nat
  /-- When the last pass ran. -/
  lastRun : Option Nat
  /-- When the resize that was put off is due. -/
  deferred : Option Nat
deriving DecidableEq, Repr

/-- What a resize leads to. -/
inductive ResizeAction where
  | runNow
  | deferred (due : Nat)
deriving DecidableEq, Repr

namespace Throttle

/-- Before the first pass. -/
def ofWindow (window : Nat) : Throttle := ⟨window, none, none⟩

/-- Whether a resize at a time follows the last pass too soon. A clock that was set back counts as
no time passed. -/
def isTooSoon (t : Throttle) (now : Nat) : Bool := t.lastRun.any fun last => now - last < t.window

/-- Takes in a resize. -/
def signal (t : Throttle) (now : Nat) : ResizeAction × Throttle :=
  if t.isTooSoon now then
    let due := t.deferred.getD (now + t.window)
    (.deferred due, { t with deferred := some due })
  else (.runNow, t)

/-- Takes in that a pass ran. -/
def recordRun (t : Throttle) (now : Nat) : Throttle :=
  { t with lastRun := some now, deferred := none }

/-- Whether the resize that was put off is due. -/
def isDue (t : Throttle) (now : Nat) : Bool := t.deferred.any (· ≤ now)

@[simp] theorem window_signal (t : Throttle) (now : Nat) : (t.signal now).2.window = t.window := by
  unfold signal
  split <;> rfl

@[simp] theorem lastRun_signal (t : Throttle) (now : Nat) :
    (t.signal now).2.lastRun = t.lastRun := by
  unfold signal
  split <;> rfl

@[simp] theorem window_recordRun (t : Throttle) (now : Nat) : (t.recordRun now).window = t.window :=
  rfl

@[simp] theorem lastRun_recordRun (t : Throttle) (now : Nat) :
    (t.recordRun now).lastRun = some now := rfl

@[simp] theorem deferred_recordRun (t : Throttle) (now : Nat) :
    (t.recordRun now).deferred = none := rfl

end Throttle

end MediaQuery
