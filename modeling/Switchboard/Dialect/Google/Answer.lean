import Switchboard.Chat.Request
import Switchboard.Chat.Response
import Switchboard.Embedding

/-!
# Answers of the content dialect

Only the first candidate of an answer counts; without one the answer is empty, if it says that the
prompt was blocked. Calls carry no ids here, so they are given some by their number.
-/

namespace Switchboard.Google

/-- Why an answer ended, given whether it has called tools. -/
def finishReason (hasCalls : Bool) : String → FinishReason
  | "STOP" => if hasCalls then .toolCalls else .stop
  | "MAX_TOKENS" => .length
  | "SAFETY" | "RECITATION" | "BLOCKLIST" | "PROHIBITED_CONTENT" | "SPII" => .contentFilter
  | _ => .other

/-- The usage an answer reports, if it holds a report. -/
def usage? (j : Json) : Option Usage :=
  let usage := j.get "usageMetadata"
  if usage.isObj then
    some (.ofJson usage "promptTokenCount" "candidatesTokenCount" "totalTokenCount")
  else none

def candidate? (j : Json) : Option Json := (j.get "candidates").item? 0

/-- Whether an answer says that the prompt was blocked. -/
def isBlocked (j : Json) : Bool := ((j.get "promptFeedback").string? "blockReason").isSome

def candidateParts (candidate : Json) : List Json :=
  (((candidate.get "content").get "parts").arr?).getD []

def partText? (p : Json) : Option String := p.string? "text"

/-- The call a part holds, unless it holds a text. -/
def partCall? (p : Json) : Option Json :=
  if (partText? p).isSome then none else p.member? "functionCall"

/-- The id of the call with number `n`. -/
def callId (n : Nat) : String := s!"call_{n}"

def toolCall (n : Nat) (call : Json) : Part :=
  .toolCall (callId n) ((call.string? "name").getD "") ((call.member? "args").getD (.obj []))

/-- The response an answer gives to a request, made at the time `now`. -/
def chatResponse (now : Int) (r : ChatRequest) (answer : Json) : Outcome ChatResponse :=
  match candidate? answer with
  | none =>
    if isBlocked answer then .ok {
      id := r.requestId
      model := r.model
      message := .of .assistant (.text "")
      finishReason := .contentFilter
      usage := usage? answer
      created := now }
    else .error (.untranslatable "response has no candidates")
  | some candidate =>
    let parts := candidateParts candidate
    let calls := (parts.filterMap partCall?).zipIdx.map fun (call, n) => toolCall n call
    .ok {
      id := r.requestId
      model := (answer.string? "modelVersion").getD r.model
      message := .of .assistant (.assemble (String.join (parts.filterMap partText?)) calls)
      finishReason :=
        ((candidate.string? "finishReason").map (finishReason !calls.isEmpty)).getD .stop
      usage := usage? answer
      created := now }

/-- The response an answer gives to an embedding request. -/
def embedResponse (r : EmbedRequest) (answer : Json) : Outcome EmbedResponse :=
  match (answer.get "embeddings").arr? with
  | none => .error (.untranslatable "embedding response has no embeddings")
  | some entries => do
    let vectors ← entries.mapM fun entry =>
      match Embedding.vector? (entry.get "values") with
      | some vector => .ok vector
      | none => .error (.untranslatable "invalid embedding vector: not a list of numbers")
    let response : EmbedResponse := ⟨r.requestId, r.model, vectors, none⟩
    response.ensureAligned r.contents.length

end Switchboard.Google
