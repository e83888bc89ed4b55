import Switchboard.Chat.Message
import Switchboard.Dialect.Turns

/-!
# Messages of the content dialect

System messages go apart; the others become turns of a user and a model. The result of a tool is
sent under the tool's name, which is that of the latest call with the result's id.
-/

namespace Switchboard.Google

/-- The media type that the ending of a URL's path tells. -/
def mimeTypeOfUrl? (url : String) : Option String :=
  let path := (url.toList.takeWhile fun c => c ≠ '?' && c ≠ '#').map Char.toLower
  let ending := (path.reverse.takeWhile (· ≠ '.')).reverse
  match String.ofList ending with
  | "png" => some "image/png"
  | "jpg" | "jpeg" => some "image/jpeg"
  | "webp" => some "image/webp"
  | "gif" => some "image/gif"
  | "heic" => some "image/heic"
  | _ => none

def textPart (t : String) : Json := .mkObj [("text", t)]

def imagePart : ImageSource → Outcome Json
  | .base64 mimeType data =>
    .ok (.mkObj [("inlineData", .mkObj [("mimeType", mimeType), ("data", data)])])
  | .url url =>
    match mimeTypeOfUrl? url with
    | some mimeType =>
      .ok (.mkObj [("fileData", .mkObj [("mimeType", mimeType), ("fileUri", url)])])
    | none =>
      .error (.untranslatable ("cannot determine the image type of '" ++ url ++ "'"))

def callPart (name : String) (arguments : Json) : Json :=
  .mkObj [("functionCall", .mkObj [("name", name), ("args", arguments)])]

def resultPart (name content : String) : Json :=
  .mkObj [("functionResponse",
    .mkObj [("name", name), ("response", .mkObj [("content", content)])])]

/-- Calls by id, the latest first. -/
abbrev Calls := List (String × String)

def wirePart (calls : Calls) : Part → Outcome (Json × Calls)
  | .text t => .ok (textPart t, calls)
  | .image image => do return (← imagePart (← image.source), calls)
  | .toolCall id name arguments => .ok (callPart name arguments, (id, name) :: calls)
  | .toolResult callId content _ =>
    match calls.lookup callId with
    | some name => .ok (resultPart name content, calls)
    | none => .error (.untranslatable
        ("tool result '" ++ callId ++ "' does not match any earlier tool call"))

def wireParts (calls : Calls) : List Part → Outcome (List Json × Calls)
  | [] => .ok ([], calls)
  | p :: rest => do
    let (j, calls) ← wirePart calls p
    let (js, calls) ← wireParts calls rest
    return (j :: js, calls)

def messageParts (calls : Calls) (m : Message) : Outcome (List Json × Calls) :=
  match m.content with
  | .text t =>
    if m.role = .tool then
      .error (.untranslatable ("tool message without tool_result parts: " ++ t))
    else .ok ([textPart t], calls)
  | .parts parts => wireParts calls parts

/-- Each message's role and parts, after `calls` have been made. -/
def translateAfter (calls : Calls) : List Message → Outcome (List (Role × List Json))
  | [] => .ok []
  | m :: rest => do
    let (parts, calls) ← messageParts calls m
    return (m.role, parts) :: (← translateAfter calls rest)

/-- The role of the turn that a message goes into; a system message goes into none. -/
def turnRole? : Role → Option String
  | .system => none
  | .user | .tool => some "user"
  | .assistant => some "model"

/-- A conversation as it goes over the wire. -/
structure Conversation where
  system : List Json
  turns : List Turn
deriving DecidableEq

def conversation (ms : List Message) : Outcome Conversation := do
  let translated ← translateAfter [] ms
  return {
    system := (translated.filterMap fun (role, parts) =>
      if role = .system then some parts else none).flatten
    turns := Turn.merge (translated.filterMap fun (role, parts) =>
      (turnRole? role).map fun role => ⟨role, parts⟩) }

end Switchboard.Google
