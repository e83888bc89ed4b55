import Switchboard.Json.Fields

/-!
# Models

A model is known by its id, the provider family that serves it, and what it can do.
-/

namespace Switchboard

inductive Family where
  | openai
  | anthropic
  | google
  | deepseek
  | internal
deriving DecidableEq, Repr

namespace Family

def all : List Family := [openai, anthropic, google, deepseek, internal]

def name : Family → String
  | openai => "openai"
  | anthropic => "anthropic"
  | google => "google"
  | deepseek => "deepseek"
  | internal => "internal"

def ofName? (name : String) : Option Family := all.find? fun f => f.name == name

theorem ofName?_name (f : Family) : ofName? f.name = some f := by cases f <;> decide

end Family

/-- An operation a provider may or may not offer. -/
inductive Capability where
  | chat
  | chatStream
  | tools
  | embed
deriving DecidableEq, Repr

namespace Capability

def all : List Capability := [chat, chatStream, tools, embed]

def name : Capability → String
  | chat => "chat"
  | chatStream => "chat_stream"
  | tools => "tools"
  | embed => "embed"

def ofName? (name : String) : Option Capability := all.find? fun c => c.name == name

end Capability

/-- What a model can do. -/
structure Capabilities where
  streaming : Bool
  tools : Bool
  embeddings : Bool
deriving DecidableEq, Repr

namespace Capabilities

def ofChat : Capabilities := ⟨true, true, false⟩

def ofEmbedding : Capabilities := ⟨false, false, true⟩

/-- Only an embedding model has no chat. -/
def supports (c : Capabilities) : Capability → Bool
  | .chat => !c.embeddings
  | .chatStream => c.streaming
  | .tools => c.tools
  | .embed => c.embeddings

def json (c : Capabilities) : Json :=
  .mkObj [("streaming", c.streaming), ("tools", c.tools), ("embeddings", c.embeddings)]

def read (d : Document) : Reading Capabilities := do
  let fs ← d.fields ["streaming", "tools", "embeddings"] 3
  return ⟨← Document.field "streaming" Document.boolean fs,
    ← Document.field "tools" Document.boolean fs,
    ← Document.field "embeddings" Document.boolean fs⟩

end Capabilities

structure Model where
  id : String
  displayName : String
  family : Family
  capabilities : Capabilities
deriving DecidableEq, Repr

namespace Model

def chat (id : String) (family : Family) : Model := ⟨id, id, family, .ofChat⟩

def embedding (id : String) (family : Family) : Model := ⟨id, id, family, .ofEmbedding⟩

def called (m : Model) (displayName : String) : Model := { m with displayName }

def json (m : Model) : Json :=
  .mkObj [("id", m.id), ("display_name", m.displayName), ("provider", m.family.name),
    ("capabilities", m.capabilities.json)]

def read (d : Document) : Reading Model := do
  let fs ← d.fields ["id", "display_name", "provider", "capabilities"] 4
  return ⟨← Document.field "id" Document.string fs,
    ← Document.field "display_name" Document.string fs,
    ← Document.field "provider" (Document.named Family.ofName?) fs,
    ← Document.field "capabilities" Capabilities.read fs⟩

end Model

end Switchboard
