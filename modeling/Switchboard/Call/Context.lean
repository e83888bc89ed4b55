import Switchboard.Failure

/-!
# The time of a call

A call may be cancelled and may have a deadline. Work under its guard ends with the first of three
things: the cancellation, the deadline, its own end. Time is counted in milliseconds on a clock that
the guard is told and that it hands back.
-/

namespace Switchboard

/-- Work that takes some time, or never ends, and has an outcome in the end. -/
structure Work (α : Type) where
  takes : Option Nat
  outcome : Outcome α

namespace Work

/-- Work that is done at once. -/
def done {α : Type} (outcome : Outcome α) : Work α := ⟨some 0, outcome⟩

end Work

structure CallContext where
  /-- The instant from which on the call is cancelled. -/
  cancelledAt : Option Nat
  deadline : Option Nat
deriving DecidableEq, Repr

namespace CallContext

/-- The earlier of two instants, either of which may never come. -/
def earlier : Option Nat → Option Nat → Option Nat
  | none, b => b
  | a, none => a
  | some a, some b => some (min a b)

def unbounded : CallContext := ⟨none, none⟩

instance : Inhabited CallContext := ⟨unbounded⟩

def isCancelled (c : CallContext) (now : Nat) : Bool := c.cancelledAt.any (· ≤ now)

/-- The time left before the deadline. -/
def remaining? (c : CallContext) (now : Nat) : Option Nat := c.deadline.map (· - now)

/-- The call with a cancellation at an instant, unless there is one before. -/
def cancelling (c : CallContext) (instant : Nat) : CallContext :=
  { c with cancelledAt := earlier c.cancelledAt (some instant) }

/-- The failure of a call whose deadline has passed. -/
def deadlineExceeded : Failure := .transport "deadline exceeded"

/-- The first thing to happen, where of several at one instant the one listed first counts. -/
def first {α : Type} : List (Option Nat × α) → Option (α × Nat)
  | [] => none
  | (none, _) :: rest => first rest
  | (some t, x) :: rest =>
    match first rest with
    | some (y, u) => if u < t then some (y, u) else some (x, t)
    | none => some (x, t)

/-- What comes of work begun at the instant `now`, and when; nothing if it goes on for ever. -/
def guard {α : Type} (c : CallContext) (now : Nat) (work : Work α) : Option (Outcome α × Nat) :=
  if c.isCancelled now then some (.error .cancelled, now)
  else first [(c.cancelledAt, .error .cancelled),
    (c.deadline.map (max now), .error deadlineExceeded),
    (work.takes.map (now + ·), work.outcome)]

end CallContext

end Switchboard
