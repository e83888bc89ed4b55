import Switchboard.Chat.Request
import Switchboard.Dialect.Google.Messages
import Switchboard.Dialect.Google.Schema
import Switchboard.Embedding
import Switchboard.Text.Cut

/-!
# Requests of the content dialect

The body of a request for a chat, that of a request for embeddings, and the paths they go to. A
model may be named with or without the directory it is in.
-/

namespace Switchboard.Google

/-- The function that a tool declares; one without properties declares no parameters. -/
def declaration (t : Tool) : Json :=
  .record [("name", some t.name), ("description", some t.description),
    ("parameters", if t.parameters.properties.isEmpty then none
      else some (stripSchema t.parameters.json))]

def tools (ts : List Tool) : Json :=
  .arr [.mkObj [("functionDeclarations", .arr (ts.map declaration))]]

/-- How the answer is to be generated, as far as the caller says. -/
def generation (s : Sampling) : Json :=
  .record [("temperature", s.temperature.map .widened),
    ("maxOutputTokens", s.maxTokens.map .nat), ("topP", s.topP.map .widened),
    ("stopSequences", if s.stop.isEmpty then none else some (.strings s.stop))]

def payload (r : ChatRequest) : Outcome Json := do
  let c ← conversation r.messages
  return .record [
    ("contents", some (.arr (c.turns.map (Turn.json "parts")))),
    ("systemInstruction",
      if c.system.isEmpty then none else some (.mkObj [("parts", .arr c.system)])),
    ("generationConfig",
      if generation r.sampling = .obj [] then none else some (generation r.sampling)),
    ("tools", if r.sampling.tools.isEmpty then none else some (tools r.sampling.tools))]

/-- The directory of models. -/
def modelDirectory : String := "models/"

/-- The name of a model in the directory. -/
def modelName (model : String) : String :=
  modelDirectory ++ String.ofList (Text.dropLeading modelDirectory.toList model.toList)

def chatPath (model : String) : String := "/v1beta/" ++ modelName model ++ ":generateContent"

def streamPath (model : String) : String :=
  "/v1beta/" ++ modelName model ++ ":streamGenerateContent?alt=sse"

def embedPath (model : String) : String :=
  "/v1beta/" ++ modelName model ++ ":batchEmbedContents"

def embedPayload (r : EmbedRequest) : Json :=
  .mkObj [("requests", .arr (r.contents.map fun content =>
    .mkObj [("model", modelName r.model),
      ("content", .mkObj [("parts", .arr [textPart content])])]))]

end Switchboard.Google
