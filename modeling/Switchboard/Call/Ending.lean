import Switchboard.Failure

/-!
# How work ends

Work on a call comes to an outcome, or breaks down on the way, or waits for something that never
comes.
-/

namespace Switchboard

inductive Ending (α : Type) where
  | returned (outcome : Outcome α)
  /-- It broke down, with a message. -/
  | crashed (message : String)
  | waiting

/-- What a breakdown says, given the text it carries, if it carries text. -/
def crashMessage (carried : Option String) : String := carried.getD "non-string panic payload"

namespace Ending

variable {α β : Type}

def ofOutcome? : Option (Outcome α) → Ending α
  | none => waiting
  | some outcome => returned outcome

/-- The ending with its outcome changed. -/
def map (f : Outcome α → Outcome β) : Ending α → Ending β
  | returned outcome => returned (f outcome)
  | crashed message => crashed message
  | waiting => waiting

/-- The outcome, a breakdown being an internal failure; nothing if there never is one. -/
def outcome? : Ending α → Option (Outcome α)
  | returned outcome => some outcome
  | crashed message => some (.error (.internal message))
  | waiting => none

/-- The failure, but for one that says no more than that the work was cancelled. -/
def failure? (e : Ending α) : Option Failure :=
  match e.outcome? with
  | some (.error f) => if f.kind = .cancelled then none else some f
  | _ => none

end Ending

end Switchboard
