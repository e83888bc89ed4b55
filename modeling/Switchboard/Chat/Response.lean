import Switchboard.Chat.MessageJson
import Switchboard.Chat.Usage

/-!
# Chat responses

An answer given at once, and the pieces of an answer that is streamed. The pieces of one answer are
numbered from zero; the last one says why the answer ended and what it cost.
-/

namespace Switchboard

open Document

inductive FinishReason where
  | stop
  | length
  | toolCalls
  | contentFilter
  | other
deriving DecidableEq, Repr

namespace FinishReason

def all : List FinishReason := [stop, length, toolCalls, contentFilter, other]

def name : FinishReason → String
  | stop => "stop"
  | length => "length"
  | toolCalls => "tool_calls"
  | contentFilter => "content_filter"
  | other => "other"

def ofName? (name : String) : Option FinishReason := all.find? fun r => r.name == name

end FinishReason

structure ChatResponse where
  id : String
  model : String
  message : Message
  finishReason : FinishReason
  usage : Option Usage
  /-- When the answer was made, in seconds. -/
  created : Int
deriving DecidableEq

namespace ChatResponse

def json (r : ChatResponse) : Json :=
  .record [("id", some r.id), ("model", some r.model), ("message", some r.message.json),
    ("finish_reason", some r.finishReason.name), ("usage", r.usage.map Usage.json),
    ("created", some (.num (.whole r.created)))]

def read (d : Document) : Reading ChatResponse := do
  let fs ← d.fields ["id", "model", "message", "finish_reason", "usage", "created"] 6
  return ⟨← field "id" string fs, ← field "model" string fs, ← field "message" Message.read fs,
    ← field "finish_reason" (named FinishReason.ofName?) fs, ← fieldOption "usage" Usage.read fs,
    ← field "created" (integer (-Int.pow 2 63) (Int.pow 2 63 - 1)) fs⟩

end ChatResponse

/-- A fragment of the tool call with a given index. -/
structure ToolCallDelta where
  index : Nat
  id : Option String
  name : Option String
  arguments : String
deriving DecidableEq, Repr

namespace ToolCallDelta

def json (t : ToolCallDelta) : Json :=
  .record [("index", some (.nat t.index)), ("id", t.id.map .str), ("name", t.name.map .str),
    ("arguments", if t.arguments.isEmpty then none else some t.arguments)]

def read (d : Document) : Reading ToolCallDelta := do
  let fs ← d.fields ["index", "id", "name", "arguments"] 1
  return ⟨← field "index" nat32 fs, ← fieldOption "id" string fs, ← fieldOption "name" string fs,
    ← fieldOr "" "arguments" string fs⟩

end ToolCallDelta

/-- What one piece of a streamed answer adds. -/
structure Delta where
  text : Option String
  toolCalls : List ToolCallDelta
deriving DecidableEq, Repr

namespace Delta

def empty : Delta := ⟨none, []⟩

instance : Inhabited Delta := ⟨empty⟩

def ofText (text : String) : Delta := ⟨some text, []⟩

/-- It adds nothing. -/
def isEmpty (d : Delta) : Bool := (d.text.getD "").isEmpty && d.toolCalls.isEmpty

/-- One delta after another. -/
def append (d later : Delta) : Delta :=
  { text := match later.text with
      | none => d.text
      | some t => some (d.text.getD "" ++ t)
    toolCalls := d.toolCalls ++ later.toolCalls }

instance : Append Delta := ⟨append⟩

def json (d : Delta) : Json :=
  .record [("text", d.text.map .str),
    ("tool_calls",
      if d.toolCalls.isEmpty then none else some (.arr (d.toolCalls.map ToolCallDelta.json)))]

def read (d : Document) : Reading Delta := do
  let fs ← d.fields ["text", "tool_calls"] 0
  return ⟨← fieldOption "text" string fs, ← fieldOr [] "tool_calls" (list ToolCallDelta.read) fs⟩

end Delta

structure Chunk where
  id : String
  model : String
  sequence : Nat
  delta : Delta
  isFinal : Bool
  finishReason : Option FinishReason
  usage : Option Usage
deriving DecidableEq, Repr

namespace Chunk

def json (c : Chunk) : Json :=
  .record [("id", some c.id), ("model", some c.model), ("sequence", some (.nat c.sequence)),
    ("delta", some c.delta.json), ("is_final", some c.isFinal),
    ("finish_reason", c.finishReason.map fun r => r.name), ("usage", c.usage.map Usage.json)]

def read (d : Document) : Reading Chunk := do
  let fs ← d.fields
    ["id", "model", "sequence", "delta", "is_final", "finish_reason", "usage"] 5
  return ⟨← field "id" string fs, ← field "model" string fs, ← field "sequence" nat64 fs,
    ← field "delta" Delta.read fs, ← field "is_final" boolean fs,
    ← fieldOption "finish_reason" (named FinishReason.ofName?) fs,
    ← fieldOption "usage" Usage.read fs⟩

end Chunk

end Switchboard
