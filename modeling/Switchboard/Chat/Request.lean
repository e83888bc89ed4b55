import Switchboard.Chat.MessageJson
import Switchboard.Chat.Tool
import Switchboard.Text.Blank

/-!
# Chat requests

What a caller asks of a chat model, as it is written and read. Two readings exist: the plain one, in
which roles are spelled exactly, and that of a call over HTTP, in which a role is any text until the
whole request is read, so that an unknown role is reported as such.
-/

namespace Switchboard

open Document

/-- How an answer is to be generated. -/
structure Sampling where
  temperature : Option Float32
  maxTokens : Option Nat
  topP : Option Float32
  stop : List String
  tools : List Tool
deriving DecidableEq

namespace Sampling

def empty : Sampling := ⟨none, none, none, [], []⟩

instance : Inhabited Sampling := ⟨empty⟩

def fieldNames : List String := ["temperature", "max_tokens", "top_p", "stop", "tools"]

def members (s : Sampling) : List (String × Option Json) :=
  [("temperature", s.temperature.map .single),
    ("max_tokens", s.maxTokens.map .nat),
    ("top_p", s.topP.map .single),
    ("stop", if s.stop.isEmpty then none else some (.strings s.stop)),
    ("tools", if s.tools.isEmpty then none else some (.arr (s.tools.map Tool.json)))]

def json (s : Sampling) : Json := .record s.members

def ofFields (fs : List (String × Document)) : Reading Sampling := do
  return ⟨← fieldOption "temperature" single fs, ← fieldOption "max_tokens" nat32 fs,
    ← fieldOption "top_p" single fs, ← fieldOr [] "stop" (list string) fs,
    ← fieldOr [] "tools" (list Tool.read) fs⟩

def read (d : Document) : Reading Sampling := do
  ofFields (← d.fields fieldNames 0)

end Sampling

structure ChatRequest where
  id : Option String
  model : String
  messages : List Message
  sampling : Sampling
  stream : Bool
deriving DecidableEq

namespace ChatRequest

def of (model : String) (messages : List Message) : ChatRequest :=
  ⟨none, model, messages, .empty, false⟩

/-- The id, empty as long as there is none. -/
def requestId (r : ChatRequest) : String := r.id.getD ""

def validate (r : ChatRequest) : Outcome Unit :=
  if Text.blank r.model then .error (.invalidRequest "model id must not be empty")
  else if r.messages.isEmpty then
    .error (.invalidRequest "chat requests need at least one message")
  else .ok ()

def json (r : ChatRequest) : Json :=
  .record (("id", r.id.map Json.str) :: ("model", some (Json.str r.model)) ::
    ("messages", some (Json.arr (r.messages.map Message.json))) ::
    ("stream", some (Json.bool r.stream)) :: r.sampling.members)

/-- The request's own fields, as far as they are read. -/
structure Fields where
  id : Option (Option String)
  model : Option String
  messages : Option (List Message)
  stream : Option Bool

def fieldNames : List String := ["id", "model", "messages", "stream"]

def step (r : Fields) (key : String) (d : Document) : Reading Fields :=
  match key with
  | "id" => do return { r with id := some (← d.optional string) }
  | "model" => do return { r with model := some (← d.string) }
  | "messages" => do return { r with messages := some (← d.list Message.read) }
  | _ => do return { r with stream := some (← d.boolean) }

/-- The request's own fields are read where they stand, and those of the sampling after all of
them. -/
def read (d : Document) : Reading ChatRequest := do
  let ms ← d.members
  let r ← foldMembers fieldNames step (fun d => do let _ ← d.held) []
    ⟨none, none, none, none⟩ ms
  match r.model, r.messages with
  | some model, some messages =>
    return ⟨r.id.getD none, model, messages, ← misfitOnly (Sampling.ofFields ms),
      r.stream.getD false⟩
  | _, _ => .error .misfit

end ChatRequest

/-- A message of a call over HTTP, its role as the caller wrote it. -/
structure MessageBody where
  role : Option String
  content : Option Content
  name : Option (Option String)

namespace MessageBody

def fieldNames : List String := ["role", "content", "name"]

def step (m : MessageBody) (key : String) (d : Document) : Reading MessageBody :=
  match key with
  | "role" => do return { m with role := some (← d.string) }
  | "content" => do return { m with content := some (← Content.read d) }
  | _ => do return { m with name := some (← d.optional string) }

def finish (m : MessageBody) : Reading (String × Content × Option String) :=
  match m.role with
  | none => .error .misfit
  | some role => .ok (role, m.content.getD default, m.name.getD none)

def read : Document → Reading (String × Content × Option String)
  | .obj ms => do
    (← foldMembers fieldNames step skip [] ⟨none, none, none⟩ ms).finish
  | .arr items => do
    let m ← foldMembers fieldNames step skip [] ⟨none, none, none⟩ (fieldNames.zip items)
    let m ← m.finish
    if fieldNames.length < items.length then .error .malformed else .ok m
  | d => d.reject

end MessageBody

/-- A chat request of a call over HTTP, before its roles are known to be roles. -/
structure ChatBody where
  id : Option String
  model : String
  messages : List (String × Content × Option String)
  sampling : Sampling

namespace ChatBody

/-- The fields read so far. -/
structure Fields where
  id : Option (Option String)
  model : Option String
  messages : Option (List (String × Content × Option String))

def fieldNames : List String := ["id", "model", "messages"]

def step (b : Fields) (key : String) (d : Document) : Reading Fields :=
  match key with
  | "id" => do return { b with id := some (← d.optional string) }
  | "model" => do return { b with model := some (← d.string) }
  | _ => do return { b with messages := some (← d.list MessageBody.read) }

/-- Only the fields of the request itself are read where they stand; those of the sampling come
after all of them. -/
def read (d : Document) : Reading ChatBody := do
  let ms ← d.members
  let b ← foldMembers fieldNames step (fun d => do let _ ← d.held) [] ⟨none, none, none⟩ ms
  match b.model, b.messages with
  | some model, some messages =>
    return ⟨b.id.getD none, model, messages, ← misfitOnly (Sampling.ofFields ms)⟩
  | _, _ => .error .misfit

/-- The messages with their roles, up to the first role that is none. -/
def parseRoles : List (String × Content × Option String) → Outcome (List Message)
  | [] => .ok []
  | (role, content, name) :: rest => do
    let role ← Role.parse role
    return ⟨role, content, name⟩ :: (← parseRoles rest)

/-- The request a body asks for. A caller does not choose streaming here. -/
def request (b : ChatBody) : Outcome ChatRequest := do
  return ⟨b.id, b.model, ← parseRoles b.messages, b.sampling, false⟩

end ChatBody

end Switchboard
