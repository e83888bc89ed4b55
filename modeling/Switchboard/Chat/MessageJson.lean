import Switchboard.Chat.Message

/-!
# Messages as JSON

How callers write messages, and how messages are written to them. Reading what was written gives the
same message.
-/

namespace Switchboard

open Document

namespace Image

def members (image : Image) : List (String × Option Json) :=
  [("url", image.url.map .str), ("data", image.data.map .str),
    ("mime_type", image.mimeType.map .str)]

def fieldNames : List String := ["url", "data", "mime_type"]

def ofFields (fs : List (String × Document)) : Reading Image := do
  return ⟨← fieldOption "url" string fs, ← fieldOption "data" string fs,
    ← fieldOption "mime_type" string fs⟩

end Image

/-- The four kinds of part, in the order in which a reader numbers them. -/
inductive PartKind where
  | text
  | image
  | toolCall
  | toolResult
deriving DecidableEq, Repr

namespace PartKind

def all : List PartKind := [text, image, toolCall, toolResult]

def name : PartKind → String
  | text => "text"
  | image => "image"
  | toolCall => "tool_call"
  | toolResult => "tool_result"

def ofName? (name : String) : Option PartKind := all.find? fun k => k.name == name

/-- The kind by its name or, where `numbered`, by its number. -/
def read (numbered : Bool) : Document → Reading PartKind
  | .str s => (ofName? s).elim (.error .misfit) .ok
  | .num (.whole n) =>
    if numbered && 0 ≤ n then (all[n.toNat]?).elim (.error .misfit) .ok else .error .misfit
  | d => d.reject

def fieldNames : PartKind → List String
  | text => ["text"]
  | image => Image.fieldNames
  | toolCall => ["id", "name", "arguments"]
  | toolResult => ["tool_call_id", "content", "is_error"]

end PartKind

namespace Part

def json : Part → Json
  | text t => .mkObj [("type", "text"), ("text", t)]
  | image i => .record (("type", some "image") :: i.members)
  | toolCall id name arguments =>
    .mkObj [("type", "tool_call"), ("id", id), ("name", name), ("arguments", arguments)]
  | toolResult callId content isError =>
    .mkObj [("type", "tool_result"), ("tool_call_id", callId), ("content", content),
      ("is_error", isError)]

def ofFields (kind : PartKind) (fs : List (String × Document)) : Reading Part :=
  match kind with
  | .text => do return text (← field "text" string fs)
  | .image => do return image (← Image.ofFields fs)
  | .toolCall => do
    return toolCall (← field "id" string fs) (← field "name" string fs)
      (← field "arguments" value fs)
  | .toolResult => do
    return toolResult (← field "tool_call_id" string fs) (← field "content" string fs)
      (← fieldOr false "is_error" boolean fs)

/-- A part says its kind under `type`, or as the first item of an array. -/
def read (numbered : Bool) (d : Document) : Reading Part := do
  match ← d.held with
  | .obj members =>
    let kind ← field "type" (PartKind.read numbered) members
    ofFields kind (members.filter fun (k, _) => k != "type")
  | .arr (first :: rest) =>
    let kind ← PartKind.read numbered first
    ofFields kind (← fields kind.fieldNames 0 (.arr rest))
  | d => d.reject

end Part

namespace Content

def json : Content → Json
  | text t => t
  | parts ps => .arr (ps.map Part.json)

def read (d : Document) : Reading Content := do
  match ← d.held with
  | .str s => return text s
  | .arr items => misfitOnly do return parts (← readAll (Part.read true) items)
  | _ => .error .misfit

end Content

namespace Message

def json (m : Message) : Json :=
  .record [("role", some m.role.name), ("content", some m.content.json),
    ("name", m.name.map .str)]

def read (d : Document) : Reading Message := do
  let fs ← d.fields ["role", "content", "name"] 1
  return ⟨← field "role" (named Role.ofName?) fs, ← fieldOr default "content" Content.read fs,
    ← fieldOption "name" string fs⟩

end Message

end Switchboard
