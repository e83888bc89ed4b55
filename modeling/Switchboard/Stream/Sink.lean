import Switchboard.Call.Context
import Switchboard.Chat.Response

/-!
# Sinks

A sink takes the chunks of an answer one after the other, or refuses one, which ends the stream. To
take a chunk needs some time, and the call may be cancelled meanwhile.
-/

namespace Switchboard

/-- What a sink does with a chunk. -/
structure Reception where
  refusal : Option Failure
  takes : Nat
  /-- The call is cancelled while the chunk is taken. -/
  cancels : Bool
deriving DecidableEq, Repr

/-- A sink goes by the chunks it has taken and the one it is offered. -/
abbrev Sink := List Chunk → Chunk → Reception

namespace Sink

/-- Takes everything. -/
def all : Sink := fun _ _ => ⟨none, 0, false⟩

/-- Takes so many chunks and refuses the next one. -/
def limited (accepts : Nat) (refusal : Failure) : Sink := fun taken _ =>
  ⟨if accepts ≤ taken.length then some refusal else none, 0, false⟩

/-- The sink, with the call cancelled while chunk number `n` is taken, counting from one. -/
def cancelling (sink : Sink) (n : Nat) : Sink := fun taken chunk =>
  { sink taken chunk with
    cancels := (sink taken chunk).cancels || n ≤ taken.length + 1 }

end Sink

/-- A sink at work: the time, and what it has been offered. -/
structure Intake where
  now : Nat
  context : CallContext
  accepted : List Chunk
  /-- The chunk that was refused. -/
  refused : Option Chunk
deriving DecidableEq, Repr

namespace Intake

def start (context : CallContext) (now : Nat) : Intake := ⟨now, context, [], none⟩

/-- Every chunk the sink was offered. -/
def offered (i : Intake) : List Chunk := i.accepted ++ i.refused.toList

/-- Offers one more chunk. -/
def offer (sink : Sink) (i : Intake) (chunk : Chunk) : Intake × Outcome Unit :=
  let r := sink i.accepted chunk
  match r.refusal with
  | some f => ({ i with refused := some chunk }, .error f)
  | none =>
    let now := i.now + r.takes
    ({ i with
        now
        context := if r.cancels then i.context.cancelling now else i.context
        accepted := i.accepted ++ [chunk] }, .ok ())

/-- Offers a chunk if there is one. -/
def offer? (sink : Sink) (i : Intake) : Option Chunk → Intake × Outcome Unit
  | none => (i, .ok ())
  | some chunk => i.offer sink chunk

end Intake

end Switchboard
