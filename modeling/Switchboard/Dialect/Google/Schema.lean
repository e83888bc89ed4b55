import Switchboard.Json.Basic

/-!
# Schemas of the content dialect

Function declarations take only some keywords of a schema. The others are left out of every schema,
wherever one stands: at the root, under a property's name, and under `items`. Names of properties
are no keywords.
-/

namespace Switchboard.Google

def schemaKeywords : List String :=
  ["type", "description", "properties", "required", "items", "enum", "format", "nullable"]

mutual

/-- The schema with no keywords but those that are taken. -/
def stripSchema : Json → Json
  | .obj members => .obj (stripKeywords members)
  | j => j

def stripKeywords : List (String × Json) → List (String × Json)
  | [] => []
  | (key, value) :: rest =>
    if !schemaKeywords.contains key then stripKeywords rest
    else if key == "properties" then (key, stripProperties value) :: stripKeywords rest
    else if key == "items" then (key, stripSchema value) :: stripKeywords rest
    else (key, value) :: stripKeywords rest

def stripProperties : Json → Json
  | .obj properties => .obj (stripEach properties)
  | j => j

def stripEach : List (String × Json) → List (String × Json)
  | [] => []
  | (name, schema) :: rest => (name, stripSchema schema) :: stripEach rest

end

end Switchboard.Google
