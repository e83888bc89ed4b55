import Switchboard.Json.Fields

/-!
# Tools

A tool is a named function with a schema of its parameters. The schema has a type, named properties
and the list of required ones; every other keyword in it, at the top or inside a property, is kept
as it is.
-/

namespace Switchboard

open Document

structure Property where
  type : Option String
  description : Option String
  /-- Every other keyword. -/
  keywords : List (String × Json)
deriving DecidableEq

structure Parameters where
  type : String
  properties : List (String × Property)
  required : List String
  /-- Every other keyword. -/
  keywords : List (String × Json)
deriving DecidableEq

structure Tool where
  name : String
  description : String
  parameters : Parameters
deriving DecidableEq

/-- The members other than those in `names`, as values. -/
def Document.keywords (names : List String) (members : List (String × Document)) :
    Reading (List (String × Json)) := do
  return Members.ofList (← valueMembers (members.filter fun (k, _) => !names.contains k))

namespace Property

def of (type description : String) : Property := ⟨some type, some description, []⟩

def json (p : Property) : Json :=
  .mkObj ([("type", p.type), ("description", p.description)].filterMap
    (fun (k, v) => v.map fun s => (k, Json.str s)) ++ p.keywords)

def read (d : Document) : Reading Property := do
  let ms ← d.members
  return ⟨← fieldOption "type" string ms, ← fieldOption "description" string ms,
    ← Document.keywords ["type", "description"] ms⟩

end Property

namespace Parameters

def empty : Parameters := ⟨"object", [], [], []⟩

instance : Inhabited Parameters := ⟨empty⟩

/-- The parameters with one more property, which may be required. -/
def withProperty (p : Parameters) (name : String) (property : Property) (isRequired : Bool) :
    Parameters :=
  { p with
    required := if isRequired then p.required ++ [name] else p.required
    properties := Members.insert name property p.properties }

/-- The schema as it goes over the wire. -/
def json (p : Parameters) : Json :=
  .mkObj ([("type", Json.str p.type),
    ("properties", .mkObj (p.properties.map fun (name, property) => (name, property.json)))] ++
    (if p.required.isEmpty then [] else [("required", .strings p.required)]) ++ p.keywords)

def readProperties (d : Document) : Reading (List (String × Property)) := do
  return Members.ofList (← go (← d.members))
where
  go : List (String × Document) → Reading (List (String × Property))
    | [] => .ok []
    | (name, d) :: rest => do
      let property ← Property.read d
      return (name, property) :: (← go rest)

def read (d : Document) : Reading Parameters := do
  let ms ← d.members
  return ⟨← fieldOr "object" "type" string ms, ← fieldOr [] "properties" readProperties ms,
    ← fieldOr [] "required" (list string) ms,
    ← Document.keywords ["type", "properties", "required"] ms⟩

end Parameters

namespace Tool

def json (t : Tool) : Json :=
  .mkObj [("name", t.name), ("description", t.description), ("parameters", t.parameters.json)]

def read (d : Document) : Reading Tool := do
  let fs ← d.fields ["name", "description", "parameters"] 1
  return ⟨← field "name" string fs, ← fieldOr "" "description" string fs,
    ← fieldOr .empty "parameters" Parameters.read fs⟩

end Tool

end Switchboard
