import Switchboard.Chat.Message
import Switchboard.Dialect.Turns

/-!
# Messages of the messages dialect

System messages go apart; the others become turns of a user and an assistant. Results of tools
travel in the turns of the user.
-/

namespace Switchboard.Anthropic

def textBlock (t : String) : Json := .mkObj [("type", "text"), ("text", t)]

def imageBlock (source : ImageSource) : Json :=
  .mkObj [("type", "image"), ("source", .mkObj (match source with
    | .url url => [("type", "url"), ("url", url)]
    | .base64 mimeType data =>
      [("type", "base64"), ("media_type", mimeType), ("data", data)]))]

def callBlock (id name : String) (arguments : Json) : Json :=
  .mkObj [("type", "tool_use"), ("id", id), ("name", name), ("input", arguments)]

def resultBlock (callId content : String) (isError : Bool) : Json :=
  .record [("type", some "tool_result"), ("tool_use_id", some callId),
    ("content", some (.arr [textBlock content])),
    ("is_error", if isError then some (.bool true) else none)]

/-- The block for a part of a message. -/
def block (role : Role) : Part → Outcome Json
  | .text t => .ok (textBlock t)
  | .image image => do return imageBlock (← image.source)
  | .toolCall id name arguments =>
    if role ≠ .assistant then
      .error (.untranslatable "only assistant messages may contain tool calls")
    else if arguments.isObj then .ok (callBlock id name arguments)
    else .error (.untranslatable
      ("arguments of tool call '" ++ name ++ "' must be a JSON object"))
  | .toolResult callId content isError => .ok (resultBlock callId content isError)

def blocks (m : Message) : Outcome (List Json) :=
  match m.content with
  | .text t =>
    if m.role = .tool then
      .error (.untranslatable ("tool message without tool_result parts: " ++ t))
    else .ok [textBlock t]
  | .parts parts => parts.mapM (block m.role)

/-- The role of the turn that a message goes into; a system message goes into none. -/
def turnRole? : Role → Option String
  | .system => none
  | .user | .tool => some "user"
  | .assistant => some "assistant"

/-- A conversation as it goes over the wire. -/
structure Conversation where
  system : List Json
  turns : List Turn
deriving DecidableEq

/-- A conversation, whether or not it has turns. -/
def translate (ms : List Message) : Outcome Conversation := do
  let translated ← ms.mapM fun m => do return (m.role, ← blocks m)
  return {
    system := (translated.filterMap fun (role, bs) =>
      if role = .system then some bs else none).flatten
    turns := Turn.merge (translated.filterMap fun (role, bs) =>
      (turnRole? role).map fun role => ⟨role, bs⟩) }

/-- A conversation, which needs at least one turn. -/
def conversation (ms : List Message) : Outcome Conversation := do
  let c ← translate ms
  if c.turns.isEmpty then
    .error (.untranslatable "anthropic requires at least one user or assistant message")
  else return c

end Switchboard.Anthropic
