import Switchboard.Dialect.OpenAI.Answer
import Switchboard.Stream.Event
import Switchboard.Text.Blank

/-!
# Streams of the chat completions dialect

Each event holds a piece of the first choice, and may report usage; a last event, which is not JSON,
declares the answer complete.
-/

namespace Switchboard.OpenAI

/-- The data of the event that ends a stream. -/
def doneMark : String := "[DONE]"

/-- A fragment of a tool call, its index being its position unless it says so. -/
def callDelta (position : Nat) (call : Json) : ToolCallDelta :=
  let function := call.get "function"
  { index := (Usage.countIn call "index").getD (min position maxCount)
    id := call.string? "id"
    name := function.string? "name"
    arguments := textIn function "arguments" }

def choiceDelta (choice : Json) : Delta :=
  let delta := choice.get "delta"
  { text := delta.string? "content"
    toolCalls := (((delta.get "tool_calls").arr?).getD []).zipIdx.map
      fun (call, position) => callDelta position call }

/-- What a choice says: always a delta, and at its end a reason. -/
def choiceEvents (choice : Json) : List StreamEvent :=
  .delta (choiceDelta choice) ::
    ((choice.string? "finish_reason").map fun r => .finish (finishReason r)).toList

/-- What a piece of an answer says. -/
def pieceEvents (piece : Json) : Outcome (List StreamEvent) :=
  match piece.member? "error" with
  | some error =>
    .error (.refusal .other none ((error.string? "message").getD "stream error"))
  | none =>
    .ok ((firstChoice? piece).elim [] choiceEvents ++ ((usage? piece).map .usage).toList)

def streamEvents (event : ServerEvent) : Outcome (List StreamEvent) :=
  if Text.trim event.data = doneMark then .ok [.done]
  else match Json.ofString? event.data with
    | none => .error (.untranslatable "invalid stream chunk: not JSON")
    | some piece => pieceEvents piece

def decoder : Decoder Unit := .stateless streamEvents

end Switchboard.OpenAI
