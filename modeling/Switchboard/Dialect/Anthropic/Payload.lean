import Switchboard.Chat.Request
import Switchboard.Dialect.Anthropic.Messages
import Switchboard.Dialect.Collapse

/-!
# Requests of the messages dialect

The body of a request for a chat. A bound on the length of the answer is always given. Collapsing
also reaches the results of tools, which are contents inside the turns.
-/

namespace Switchboard.Anthropic

def declaration (t : Tool) : Json :=
  .mkObj [("name", t.name), ("description", t.description),
    ("input_schema", t.parameters.json)]

def tools (ts : List Tool) : Outcome (List Json) := Tool.declareDistinct declaration ts

/-- A block with the content of a tool's result collapsed. -/
def collapsedResult (b : Json) : Json :=
  if b.string? "type" = some "tool_result" then b.modify "content" Json.collapsed else b

/-- A payload with the results of tools collapsed. -/
def collapseResults (p : Json) : Json :=
  p.modify "messages" (Json.mapItems fun turn =>
    turn.modify "content" (Json.mapItems collapsedResult))

/-- The payload with nothing but the system text collapsed, if that is to be. -/
def plainPayload (collapsesSystem : Bool) (defaultMaxTokens : Nat) (r : ChatRequest)
    (streamed : Bool) : Outcome Json := do
  let c ← conversation r.messages
  let ts ← tools r.sampling.tools
  let system := Json.arr c.system
  return .record [
    ("model", some r.model),
    ("messages", some (.arr (c.turns.map (Turn.json "content")))),
    ("max_tokens", some (.nat (r.sampling.maxTokens.getD defaultMaxTokens))),
    ("system", if c.system.isEmpty then none
      else some (if collapsesSystem then system.collapsed else system)),
    ("temperature", r.sampling.temperature.map .widened),
    ("top_p", r.sampling.topP.map .widened),
    ("stop_sequences",
      if r.sampling.stop.isEmpty then none else some (.strings r.sampling.stop)),
    ("tools", if ts.isEmpty then none else some (.arr ts)),
    ("stream", if streamed then some (.bool true) else none)]

def payload (c : Collapse) (defaultMaxTokens : Nat) (r : ChatRequest) (streamed : Bool) :
    Outcome Json := do
  let p := c.payload (← plainPayload c.system defaultMaxTokens r streamed)
  return if c.tool then collapseResults p else p

end Switchboard.Anthropic
