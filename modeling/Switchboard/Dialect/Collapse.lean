import Switchboard.Chat.Message

/-!
# Collapsing content

Some endpoints want a content that is one text to be a bare string, each for the roles its flags
name. Only an array of exactly one text part collapses; any other content stays what it is.
-/

namespace Switchboard

/-- For which roles a content of one text becomes a bare string. -/
structure Collapse where
  system : Bool
  user : Bool
  assistant : Bool
  tool : Bool
deriving DecidableEq, Repr

namespace Collapse

def never : Collapse := ⟨false, false, false, false⟩

def always : Collapse := ⟨true, true, true, true⟩

/-- The flags set in either. -/
def union (a b : Collapse) : Collapse :=
  ⟨a.system || b.system, a.user || b.user, a.assistant || b.assistant, a.tool || b.tool⟩

def ofRole (c : Collapse) : Role → Bool
  | .system => c.system
  | .user => c.user
  | .assistant => c.assistant
  | .tool => c.tool

/-- The flag for a role as a payload spells it; what spells no role never collapses. -/
def ofWireRole (c : Collapse) (role : String) : Bool :=
  match Role.parse role with
  | .ok role => c.ofRole role
  | .error _ => false

def json (c : Collapse) : Json :=
  .mkObj [("system", c.system), ("user", c.user), ("assistant", c.assistant), ("tool", c.tool)]

def read (d : Document) : Reading Collapse := do
  let fs ← d.fields ["system", "user", "assistant", "tool"] 0
  return ⟨← Document.fieldOr false "system" Document.boolean fs,
    ← Document.fieldOr false "user" Document.boolean fs,
    ← Document.fieldOr false "assistant" Document.boolean fs,
    ← Document.fieldOr false "tool" Document.boolean fs⟩

end Collapse

namespace Json

/-- The text of an array of exactly one text part. -/
def onlyText? : Json → Option String
  | arr [part] => if part.string? "type" = some "text" then part.string? "text" else none
  | _ => none

/-- A content as a bare string, if it is one text. -/
def collapsed (j : Json) : Json :=
  match j.onlyText? with
  | some t => str t
  | none => j

/-- The object with what it holds under `key` changed by `f`; what lacks the key stays as it is. -/
def modify (key : String) (f : Json → Json) (j : Json) : Json :=
  match j.member? key with
  | some value => j.insert key (f value)
  | none => j

/-- The array with each item changed by `f`; anything else stays as it is. -/
def mapItems (f : Json → Json) : Json → Json
  | arr items => arr (items.map f)
  | j => j

end Json

namespace Collapse

/-- A message of a payload, collapsed if the flag of its role is set. -/
def message (c : Collapse) (m : Json) : Json :=
  match m.string? "role" with
  | some role => if c.ofWireRole role then m.modify "content" Json.collapsed else m
  | none => m

/-- A payload with its messages collapsed. -/
def payload (c : Collapse) (p : Json) : Json := p.modify "messages" (Json.mapItems c.message)

end Collapse

end Switchboard
