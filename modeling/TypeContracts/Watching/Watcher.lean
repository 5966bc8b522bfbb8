/-!
# Watchers

A watcher compares what it sees of the watched files with what it saw last. A change
starts a wait; once the files have stayed as they are for the length of the wait, the
watcher fires, once. A further change starts the wait anew, so that a watcher fires for
a state of the files that has come to rest.
-/

set_option autoImplicit false

namespace TypeContracts

/-- A watcher of states: the state seen last, and when it changed, while that change
waits to be answered. Times are whole numbers, or anything that has differences in an
order. -/
structure Watcher (State : Type) (Time : Type := Int) where
  last : State
  changedAt : Option Time := none
deriving Repr

namespace Watcher

variable {State Time : Type}

/-- A watcher that starts with the given state. -/
def start (state : State) : Watcher State Time := { last := state }

variable [Sub Time] [LE Time] [DecidableLE Time]

/-- The change that waits has rested for the length of a wait. -/
def isDue (watcher : Watcher State Time) (wait now : Time) : Bool :=
  match watcher.changedAt with
  | some changedAt => decide (wait ≤ now - changedAt)
  | none => false

/-- Shows a watcher the state at a time. The answer is whether it fires. -/
def poll [DecidableEq State] (wait : Time) (watcher : Watcher State Time) (seen : State)
    (now : Time) : Bool × Watcher State Time :=
  if seen ≠ watcher.last then (false, { last := seen, changedAt := some now })
  else if watcher.isDue wait now then (true, { watcher with changedAt := none })
  else (false, watcher)

/-- Shows a watcher states one after another, each with its time. The answers are whether
it fires at each. -/
def polls [DecidableEq State] (wait : Time) (watcher : Watcher State Time) :
    List (State × Time) → List Bool × Watcher State Time
  | [] => ([], watcher)
  | (seen, now) :: rest =>
    let (fires, watcher) := watcher.poll wait seen now
    let (others, watcher) := watcher.polls wait rest
    (fires :: others, watcher)

@[simp] theorem last_poll [DecidableEq State] (wait : Time) (watcher : Watcher State Time)
    (seen : State) (now : Time) : (watcher.poll wait seen now).2.last = seen := by
  unfold poll
  split
  · rfl
  next same =>
    have same : seen = watcher.last := by simpa using same
    split <;> simp [same]

end Watcher

end TypeContracts
