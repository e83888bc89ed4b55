import Switchboard.Chat.Request
import Switchboard.Dialect.Collapse
import Switchboard.Dialect.OpenAI.Messages
import Switchboard.Embedding

/-!
# Requests of the chat completions dialect

The body of a request for a chat, with its content collapsed as the endpoint wants it, and that of a
request for embeddings.
-/

namespace Switchboard.OpenAI

def declaration (t : Tool) : Json :=
  .mkObj [("type", "function"),
    ("function", .mkObj [("name", FunctionName.sanitize t.name),
      ("description", t.description), ("parameters", t.parameters.json)])]

def tools (ts : List Tool) : Outcome (List Json) := Tool.declareDistinct declaration ts

/-- How an answer is to be delivered. -/
inductive Delivery where
  | whole
  /-- In pieces, with or without a report of usage at the end. -/
  | streamed (reportsUsage : Bool)
deriving DecidableEq, Repr

namespace Delivery

def members : Delivery → List (String × Json)
  | whole => []
  | streamed false => [("stream", true)]
  | streamed true => [("stream", true), ("stream_options", .mkObj [("include_usage", true)])]

end Delivery

/-- The payload before anything in it is collapsed. -/
def plainPayload (d : Dialect) (r : ChatRequest) (delivery : Delivery) : Outcome Json := do
  let ms ← messages d r.messages
  let ts ← tools r.sampling.tools
  return .record
    ([("model", some (.str r.model)), ("messages", some (.arr ms)),
      ("temperature", r.sampling.temperature.map .widened),
      ("max_tokens", r.sampling.maxTokens.map .nat),
      ("top_p", r.sampling.topP.map .widened),
      ("stop", if r.sampling.stop.isEmpty then none else some (.strings r.sampling.stop)),
      ("tools", if ts.isEmpty then none else some (.arr ts))] ++
      delivery.members.map fun (k, v) => (k, some v))

def payload (d : Dialect) (c : Collapse) (r : ChatRequest) (delivery : Delivery) :
    Outcome Json := do
  return c.payload (← plainPayload d r delivery)

def embedPayload (r : EmbedRequest) : Json :=
  .mkObj [("model", r.model), ("input", .strings r.contents)]

end Switchboard.OpenAI
