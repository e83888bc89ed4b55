import Switchboard.Chat.Message
import Switchboard.Dialect.Arguments
import Switchboard.Dialect.FunctionName
import Switchboard.Dialect.Turns

/-!
# Messages of the chat completions dialect

A message goes over the wire as one object, except that each result in a message of the tool role is
an object of its own. Each message is translated by itself, so a conversation is refused exactly for
its first message that cannot be said.
-/

namespace Switchboard.OpenAI

/-- What an endpoint takes beyond what all of them take. -/
structure Dialect where
  family : Family
  toolRole : Bool
  images : Bool
deriving DecidableEq, Repr

def textPart (t : String) : Json := .mkObj [("type", "text"), ("text", t)]

/-- The one URL by which an image is named, inline data included. -/
def imageUrl : ImageSource → String
  | .url url => url
  | .base64 mimeType data => "data:" ++ mimeType ++ ";base64," ++ data

def imagePart (source : ImageSource) : Json :=
  .mkObj [("type", "image_url"), ("image_url", .mkObj [("url", imageUrl source)])]

def callEntry (id name : String) (arguments : Json) : Json :=
  .mkObj [("id", id), ("type", "function"),
    ("function", .mkObj [("name", FunctionName.sanitize name),
      ("arguments", Arguments.text arguments)])]

def resultMessage (callId content : String) : Json :=
  .mkObj [("role", Role.tool.name), ("tool_call_id", callId),
    ("content", .arr [textPart content])]

/-- What a part of a message becomes. -/
inductive Entry where
  | content (entry : Json)
  | call (entry : Json)

namespace Entry

def content? : Entry → Option Json
  | content entry => some entry
  | call _ => none

def call? : Entry → Option Json
  | call entry => some entry
  | content _ => none

end Entry

/-- The entry for a part of a message that is not of the tool role. -/
def entry (d : Dialect) (role : Role) : Part → Outcome Entry
  | .text t => .ok (.content (textPart t))
  | .image image =>
    if d.images then do return .content (imagePart (← image.source))
    else .error (.untranslatable (d.family.name ++ " does not accept image content"))
  | .toolCall id name arguments =>
    if role = .assistant then .ok (.call (callEntry id name arguments))
    else .error (.untranslatable "only assistant messages may contain tool calls")
  | .toolResult .. => .error (.untranslatable "tool results must be sent with the tool role")

/-- The message for a part of a message of the tool role. -/
def result : Part → Outcome Json
  | .toolResult callId content _ => .ok (resultMessage callId content)
  | _ => .error (.untranslatable "tool messages may only contain tool_result parts")

/-- A message of parts, where the content may be missing only beside tool calls. -/
def partsMessage (role : Role) (name : Option String) (entries : List Entry) : Json :=
  let content := entries.filterMap Entry.content?
  let calls := entries.filterMap Entry.call?
  .record [("role", some role.name),
    ("content", if content.isEmpty && !calls.isEmpty then none else some (.arr content)),
    ("tool_calls", if calls.isEmpty then none else some (.arr calls)),
    ("name", name.map .str)]

def wireMessages (d : Dialect) (m : Message) : Outcome (List Json) :=
  if m.role = .tool then
    if !d.toolRole then .error (.unsupportedRole d.family.name Role.tool.name)
    else match m.content with
      | .text _ => .error (.untranslatable "tool messages must carry tool_result parts")
      | .parts parts => parts.mapM result
  else match m.content with
    | .text t =>
      .ok [.record [("role", some m.role.name), ("content", some (.str t)),
        ("name", m.name.map .str)]]
    | .parts parts => do return [partsMessage m.role m.name (← parts.mapM (entry d m.role))]

/-- The messages of a conversation as they go over the wire. -/
def messages (d : Dialect) (ms : List Message) : Outcome (List Json) := do
  return (← ms.mapM (wireMessages d)).flatten

end Switchboard.OpenAI
