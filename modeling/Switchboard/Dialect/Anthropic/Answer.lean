import Switchboard.Chat.Request
import Switchboard.Chat.Response

/-!
# Answers of the messages dialect

The blocks of an answer are its text, put together, and its tool calls; blocks of any other kind are
passed over.
-/

namespace Switchboard.Anthropic

def finishReason : String → FinishReason
  | "end_turn" | "stop_sequence" => .stop
  | "max_tokens" => .length
  | "tool_use" => .toolCalls
  | "refusal" => .contentFilter
  | _ => .other

/-- The usage an answer reports, if it holds a report; it reports no total. -/
def usage? (j : Json) : Option Usage :=
  let usage := j.get "usage"
  if usage.isObj then
    some (.of (Usage.countIn usage "input_tokens") (Usage.countIn usage "output_tokens") none)
  else none

def textIn (j : Json) (key : String) : String := (j.string? key).getD ""

def blockText? (b : Json) : Option String :=
  if b.string? "type" = some "text" then some (textIn b "text") else none

def blockCall? (b : Json) : Option Part :=
  if b.string? "type" = some "tool_use" then
    some (.toolCall (textIn b "id") (textIn b "name") (b.get "input"))
  else none

/-- The response an answer gives to a request, made at the time `now`. -/
def chatResponse (now : Int) (r : ChatRequest) (answer : Json) : Outcome ChatResponse :=
  match (answer.get "content").arr? with
  | none => .error (.untranslatable "Invalid response format from Anthropic API")
  | some blocks => .ok {
      id := r.requestId
      model := (answer.string? "model").getD r.model
      message := .of .assistant (.assemble (String.join (blocks.filterMap blockText?))
        (blocks.filterMap blockCall?))
      finishReason := ((answer.string? "stop_reason").map finishReason).getD .stop
      usage := usage? answer
      created := now }

end Switchboard.Anthropic
