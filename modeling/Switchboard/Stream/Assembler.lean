import Switchboard.Stream.Event

/-!
# Assembling chunks

The assembler makes numbered chunks of what a stream says. A delta goes out at once as long as there
is no reason for the answer to end. From then on the last chunk is held back, so that deltas and
usage that still arrive go into it, until the stream is declared complete or ends.
-/

namespace Switchboard

structure Assembler where
  id : String
  model : String
  /-- How many chunks there have been. The number has no bound here; a counter of 64 bits goes on
  in the same way for as long as any stream lasts. -/
  sequence : Nat
  usage : Option Usage
  finishReason : Option FinishReason
  /-- What has arrived since there is a reason to end. -/
  trailing : Delta
  /-- The last chunk has been made. -/
  completed : Bool
deriving DecidableEq, Repr

namespace Assembler

def start (id model : String) : Assembler := ⟨id, model, 0, none, none, .empty, false⟩

/-- The next chunk, which is not the last. -/
def nextChunk (a : Assembler) (delta : Delta) : Chunk :=
  ⟨a.id, a.model, a.sequence, delta, false, none, none⟩

/-- The last chunk. -/
def lastChunk (a : Assembler) : Chunk :=
  ⟨a.id, a.model, a.sequence, a.trailing, true, some (a.finishReason.getD .stop), a.usage⟩

/-- The state in which the last chunk has been made. -/
def complete (a : Assembler) : Assembler :=
  { a with sequence := a.sequence + 1, trailing := .empty, completed := true }

/-- What an event makes of the state, and the chunk that goes out, if any does. -/
def step (a : Assembler) (event : StreamEvent) : Assembler × Option Chunk :=
  if a.completed then (a, none)
  else match event with
    | .delta d =>
      if d.isEmpty then (a, none)
      else if a.finishReason.isSome then ({ a with trailing := a.trailing ++ d }, none)
      else ({ a with sequence := a.sequence + 1 }, some (a.nextChunk d))
    | .finish reason => ({ a with finishReason := some reason }, none)
    | .usage u =>
      ({ a with usage := some (match a.usage with
          | some known => known.merge u
          | none => u) }, none)
    | .done => (a.complete, some a.lastChunk)

/-- The failure of a stream that ends without a reason. -/
def cutShort : Failure := .transport "upstream closed the stream before completion"

/-- What the end of the stream makes of the state, and the chunk that goes out, if any does. -/
def close (a : Assembler) : Outcome (Assembler × Option Chunk) :=
  if a.completed then .ok (a, none)
  else if a.finishReason.isNone then .error cutShort
  else .ok (a.complete, some a.lastChunk)

end Assembler

end Switchboard
