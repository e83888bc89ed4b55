import Switchboard.Dialect.Google.Answer
import Switchboard.Json.Printer
import Switchboard.Json.Reader
import Switchboard.Stream.Event

/-!
# Streams of the content dialect

Each event is a piece of the answer with the shape of a whole one. Calls are numbered through the
stream, so the decoder keeps how many there were. The number has no bound here; a counter of 32 bits
agrees with it in every stream of less than `2 ^ 32` calls.
-/

namespace Switchboard.Google

/-- The delta that a part adds, after `calls` calls, and how many there are then. -/
def partDelta (calls : Nat) (p : Json) : Delta × Nat :=
  match partText? p, partCall? p with
  | some t, _ => (.ofText t, calls)
  | none, some call =>
    (⟨none, [⟨calls, some (callId calls), call.string? "name",
      ((call.member? "args").map Json.render).getD ""⟩]⟩, calls + 1)
  | none, none => (.empty, calls)

/-- The delta that parts add together. -/
def partsDelta (calls : Nat) : List Json → Delta × Nat
  | [] => (.empty, calls)
  | p :: rest =>
    let (delta, calls) := partDelta calls p
    let (more, calls) := partsDelta calls rest
    (delta ++ more, calls)

/-- What a piece says, after `calls` calls, and how many there are then. -/
def pieceEvents (calls : Nat) (piece : Json) : List StreamEvent × Nat :=
  match candidate? piece with
  | some candidate =>
    let (delta, calls) := partsDelta calls (candidateParts candidate)
    (.delta delta ::
      (((candidate.string? "finishReason").map
          fun r => .finish (finishReason (calls != 0) r)).toList
        ++ ((usage? piece).map .usage).toList), calls)
  | none =>
    ((if isBlocked piece then [.finish .contentFilter] else []) ++
      ((usage? piece).map .usage).toList, calls)

/-- The decoder. Its state is how many calls there were. -/
def decoder : Decoder Nat where
  start := 0
  decode calls event :=
    match Json.ofString? event.data with
    | none => .error (.untranslatable "invalid stream chunk: not JSON")
    | some piece => .ok (pieceEvents calls piece)

end Switchboard.Google
