import Switchboard.Chat.Response
import Switchboard.Dialect.Arguments
import Switchboard.Dialect.FunctionName
import Switchboard.Embedding

/-!
# Answers of the chat completions dialect

Only the first choice of an answer counts. Vectors of an embedding answer are put in the order of
their indices, which have to be all of 0, 1, 2, …
-/

namespace Switchboard.OpenAI

def finishReason : String → FinishReason
  | "stop" => .stop
  | "length" => .length
  | "tool_calls" | "function_call" => .toolCalls
  | "content_filter" => .contentFilter
  | _ => .other

/-- The usage an answer reports, if it holds a report. -/
def usage? (j : Json) : Option Usage :=
  let usage := j.get "usage"
  if usage.isObj then some (.ofJson usage "prompt_tokens" "completion_tokens" "total_tokens")
  else none

def textIn (j : Json) (key : String) : String := (j.string? key).getD ""

def toolCall (call : Json) : Outcome Part :=
  let function := call.get "function"
  let name := textIn function "name"
  if FunctionName.isValid name then
    .ok (.toolCall (textIn call "id") name (Arguments.ofText (textIn function "arguments")))
  else .error (.untranslatable ("The provided function name '" ++ name ++
    "' had invalid characters, it must match this regex [a-zA-Z0-9_-]+"))

def firstChoice? (j : Json) : Option Json := (j.get "choices").item? 0

/-- The response an answer gives to the request `id` for `model`, made at the time `now`. -/
def chatResponse (now : Int) (id model : String) (answer : Json) : Outcome ChatResponse :=
  match firstChoice? answer with
  | none => .error (.untranslatable "response has no choices")
  | some choice => do
    let said := choice.get "message"
    let calls ← (((said.get "tool_calls").arr?).getD []).mapM toolCall
    return {
      id
      model := (answer.string? "model").getD model
      message := .of .assistant (.assemble (textIn said "content") calls)
      finishReason := ((choice.string? "finish_reason").map finishReason).getD .stop
      usage := usage? answer
      created := now }

/-- The failure an answer may hold although its status is success. -/
def failureIn? (answer : Json) : Option Failure :=
  (answer.member? "error").map fun error =>
    .refusal .other none ((error.string? "message").getD error.render)

/-- An entry of an embedding answer with its index, which is its position unless it says so. -/
def indexedVector (position : Nat) (entry : Json) : Outcome (Nat × List Float32) :=
  match Embedding.vector? (entry.get "embedding") with
  | none => .error (.untranslatable "invalid embedding vector: not a list of numbers")
  | some vector => .ok ((entry.get "index").nat?.getD position, vector)

/-- The first index that is not its own position, with that position. -/
def misplaced? (position : Nat) : List Nat → Option (Nat × Nat)
  | [] => none
  | index :: rest => if index = position then misplaced? (position + 1) rest
    else some (index, position)

/-- Vectors in the order of their indices. -/
def ordered (entries : List (Nat × List Float32)) : Outcome (List (List Float32)) :=
  let sorted := entries.mergeSort fun a b => a.1 ≤ b.1
  match misplaced? 0 (sorted.map Prod.fst) with
  | some (index, position) => .error (.untranslatable
      s!"embedding index {index} is duplicated or out of range (expected {position})")
  | none => .ok (sorted.map Prod.snd)

/-- The response an answer gives to an embedding request. -/
def embedResponse (r : EmbedRequest) (answer : Json) : Outcome EmbedResponse :=
  match (answer.get "data").arr? with
  | none => .error (.untranslatable "embedding response has no data")
  | some entries => do
    let indexed ← entries.zipIdx.mapM fun (entry, position) => indexedVector position entry
    let response : EmbedResponse :=
      ⟨r.requestId, r.model, ← ordered indexed, usage? answer⟩
    response.ensureAligned r.contents.length

end Switchboard.OpenAI
