import Mathlib.Data.Option.Basic
import Switchboard.Dialect.Google.Schema
import Switchboard.Proofs.Json.Members

/-!
# What is left of a schema

A schema holds schemas, one under the name of each property and one under `items`, and no others
(`schemaAt`). Stripping leaves each of them where it is (`schemaAt_stripSchema`) and takes of each
the keywords that are not taken, but no property's name, and it looks into nothing else
(`stripSchema_strips`).
-/

namespace Switchboard

namespace Json

/-- The keys of an object, in their order. -/
def keys : Json → List String
  | obj members => members.map Prod.fst
  | _ => []

end Json

namespace Google

/-- A step from a schema to one that it holds. -/
inductive SchemaStep where
  | property (name : String)
  | items

/-- The schema that stands in another at the end of a path. -/
def schemaAt : List SchemaStep → Json → Option Json
  | [], j => some j
  | .property name :: path, j => do schemaAt path (← (← j.member? "properties").member? name)
  | .items :: path, j => do schemaAt path (← j.member? "items")

/-- What is left of one schema, whatever becomes of those that it holds. -/
structure Strips (j k : Json) : Prop where
  isObj : k.isObj = j.isObj
  keys : k.keys = j.keys.filter (schemaKeywords.contains ·)
  names : (k.get "properties").keys = (j.get "properties").keys
  /-- An object of properties stays one, also when it holds none. -/
  properties : (k.get "properties").isObj = (j.get "properties").isObj
  /-- What stands under other keywords is no schema. -/
  payload : ∀ key ∈ schemaKeywords, key ≠ "properties" → key ≠ "items" →
    k.member? key = j.member? key
  /-- What is no object is neither a schema nor properties. -/
  plain : ∀ key ∈ schemaKeywords, ∀ v, j.member? key = some v → v.isObj = false →
    k.member? key = some v
  other : j.isObj = false → k = j

/-- What becomes of the value of a keyword. -/
def strippedUnder (key : String) (value : Json) : Json :=
  if key == "properties" then stripProperties value
  else if key == "items" then stripSchema value
  else value

section Keywords

variable {key : String} {value : Json} {rest : List (String × Json)}

theorem stripKeywords_cons_of_mem (h : key ∈ schemaKeywords) :
    stripKeywords ((key, value) :: rest) =
      (key, strippedUnder key value) :: stripKeywords rest := by
  rw [stripKeywords, strippedUnder, if_neg (by simpa using h)]
  split_ifs <;> rfl

theorem stripKeywords_cons_of_not_mem (h : key ∉ schemaKeywords) :
    stripKeywords ((key, value) :: rest) = stripKeywords rest := by
  rw [stripKeywords, if_pos (by simpa using h)]

end Keywords

theorem stripKeywords_eq (members : List (String × Json)) : stripKeywords members =
    (members.filter fun m => schemaKeywords.contains m.1).map
      fun m => (m.1, strippedUnder m.1 m.2) := by
  induction members with
  | nil => rfl
  | cons m rest ih =>
    obtain ⟨key, value⟩ := m
    by_cases hkey : key ∈ schemaKeywords
    · rw [stripKeywords_cons_of_mem hkey, ih, List.filter_cons_of_pos (by simpa using hkey),
        List.map_cons]
    · rw [stripKeywords_cons_of_not_mem hkey, ih, List.filter_cons_of_neg (by simpa using hkey)]

theorem stripEach_eq (properties : List (String × Json)) :
    stripEach properties = properties.map fun m => (m.1, stripSchema m.2) := by
  induction properties with
  | nil => rfl
  | cons m rest ih => rw [stripEach, List.map_cons, ih]

section Members

variable {j : Json} {key name : String}

theorem stripSchema_of_not_isObj (h : j.isObj = false) : stripSchema j = j := by
  cases j <;> first | rfl | cases h

theorem stripProperties_of_not_isObj (h : j.isObj = false) : stripProperties j = j := by
  cases j <;> first | rfl | cases h

theorem member?_stripSchema (j : Json) (key : String) : (stripSchema j).member? key =
    if schemaKeywords.contains key then (j.member? key).map (strippedUnder key) else none := by
  cases j with
  | obj members =>
    rw [stripSchema, Json.member?, stripKeywords_eq, Members.lookup_map,
      Members.lookup_filter (schemaKeywords.contains ·)]
    split_ifs <;> rfl
  | _ => split_ifs <;> rfl

theorem member?_stripProperties (j : Json) (name : String) :
    (stripProperties j).member? name = (j.member? name).map stripSchema := by
  cases j with
  | obj properties =>
    rw [stripProperties, Json.member?, stripEach_eq, Members.lookup_map fun _ => stripSchema]
    rfl
  | _ => rfl

theorem keys_stripSchema (j : Json) :
    (stripSchema j).keys = j.keys.filter (schemaKeywords.contains ·) := by
  cases j with
  | obj members =>
    rw [stripSchema, Json.keys, stripKeywords_eq, List.map_map, Json.keys, List.filter_map]
    rfl
  | _ => rfl

theorem keys_stripProperties (j : Json) : (stripProperties j).keys = j.keys := by
  cases j with
  | obj properties =>
    rw [stripProperties, Json.keys, stripEach_eq, List.map_map]
    rfl
  | _ => rfl

end Members

/-- Stripping leaves every schema where it is. -/
theorem schemaAt_stripSchema : ∀ (path : List SchemaStep) (j : Json),
    schemaAt path (stripSchema j) = (schemaAt path j).map stripSchema
  | [], j => rfl
  | .property name :: path, j => by
    rw [schemaAt, schemaAt, member?_stripSchema]
    cases j.member? "properties" with
    | none => rfl
    | some properties =>
      show ((stripProperties properties).member? name).bind (schemaAt path) =
        ((properties.member? name).bind (schemaAt path)).map stripSchema
      rw [member?_stripProperties]
      cases properties.member? name with
      | none => rfl
      | some schema => exact schemaAt_stripSchema path schema
  | .items :: path, j => by
    rw [schemaAt, schemaAt, member?_stripSchema]
    cases j.member? "items" with
    | none => rfl
    | some items => exact schemaAt_stripSchema path items

/-- What stands under `properties` is stripped as such, if anything does. -/
theorem get_properties_stripSchema (j : Json) :
    (stripSchema j).get "properties" = stripProperties (j.get "properties") := by
  rw [Json.get, Json.get, member?_stripSchema]
  cases j.member? "properties" <;> rfl

theorem strips_stripSchema (j : Json) : Strips j (stripSchema j) where
  isObj := by cases j <;> rfl
  keys := keys_stripSchema j
  names := by rw [get_properties_stripSchema, keys_stripProperties]
  properties := by
    rw [get_properties_stripSchema]
    cases j.get "properties" <;> rfl
  payload key hkey hproperties hitems := by
    have hunder : strippedUnder key = id := funext fun value => by
      simp [strippedUnder, hproperties, hitems]
    rw [member?_stripSchema, if_pos (List.contains_iff_mem.2 hkey), hunder, Option.map_id, id]
  plain key hkey v hv hplain := by
    rw [member?_stripSchema, if_pos (List.contains_iff_mem.2 hkey), hv, Option.map_some,
      strippedUnder, stripProperties_of_not_isObj hplain, stripSchema_of_not_isObj hplain]
    simp
  other := stripSchema_of_not_isObj

mutual

theorem stripSchema_stripSchema : ∀ j : Json, stripSchema (stripSchema j) = stripSchema j
  | .null | .bool _ | .num _ | .str _ | .arr _ => rfl
  | .obj members => congrArg Json.obj (stripKeywords_stripKeywords members)

theorem stripKeywords_stripKeywords : ∀ members : List (String × Json),
    stripKeywords (stripKeywords members) = stripKeywords members
  | [] => rfl
  | (key, value) :: rest => by
    have ih := stripKeywords_stripKeywords rest
    have hvalue : strippedUnder key (strippedUnder key value) = strippedUnder key value := by
      unfold strippedUnder
      split_ifs
      · exact stripProperties_stripProperties value
      · exact stripSchema_stripSchema value
      · rfl
    by_cases hkey : key ∈ schemaKeywords
    · rw [stripKeywords_cons_of_mem hkey, stripKeywords_cons_of_mem hkey, ih, hvalue]
    · rw [stripKeywords_cons_of_not_mem hkey, ih]

theorem stripProperties_stripProperties : ∀ j : Json,
    stripProperties (stripProperties j) = stripProperties j
  | .null | .bool _ | .num _ | .str _ | .arr _ => rfl
  | .obj properties => congrArg Json.obj (stripEach_stripEach properties)

theorem stripEach_stripEach : ∀ properties : List (String × Json),
    stripEach (stripEach properties) = stripEach properties
  | [] => rfl
  | (name, schema) :: rest => by
    rw [stripEach, stripEach, stripSchema_stripSchema schema, stripEach_stripEach rest]

end

/-- Every schema in a schema stays in its place, with the keywords that are taken and with all of
its properties, whatever these are called. Stripping a second time changes nothing. -/
theorem stripSchema_strips (s : Json) :
    (∀ path, Option.Rel Strips (schemaAt path s) (schemaAt path (stripSchema s)))
    ∧ stripSchema (stripSchema s) = stripSchema s := by
  refine ⟨fun path => ?_, stripSchema_stripSchema s⟩
  rw [schemaAt_stripSchema]
  cases schemaAt path s with
  | none => exact .none
  | some j => exact .some (strips_stripSchema j)

-- a property that is called like a keyword that is left out
example : stripSchema (.mkObj [("title", "Song"), ("properties",
      .mkObj [("title", .mkObj [("title", "Name"), ("type", "string")])])]) =
    .mkObj [("properties", .mkObj [("title", .mkObj [("type", "string")])])] := by
  decide +kernel

end Google

end Switchboard
