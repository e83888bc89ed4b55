import Switchboard.Proofs.Chat.Tools
import Switchboard.Proofs.Json.Objects
import Switchboard.Proofs.Provider.Declarations

/-!
# Schemas passed on

A schema of a tool's parameters is read into fields and keywords and written again. What is written
is what was read, except that a type and properties are always said, and that nothing is said where
there is nothing to say (`Parameters.completed`, `schema_passes`). So every keyword of a schema and
of its properties reaches an endpoint as it is.
-/

namespace Switchboard

/-- The schema of a property without what says nothing. -/
def Property.trimmed (j : Json) : Json := (j.dismiss "type" .null).dismiss "description" .null

/-- The schema of parameters with its type and its properties said, and without what says
nothing. -/
def Parameters.completed (j : Json) : Json :=
  (((j.provide "type" "object").provide "properties" (.obj [])).modify "properties"
    (Json.mapMembers Property.trimmed)).dismiss "required" (.arr [])

section Completed

variable {v : Json}

theorem Json.Sorted.trimmed (h : v.Sorted) : (Property.trimmed v).Sorted := h.dismiss.dismiss

theorem Json.Sorted.completed (h : v.Sorted) : (Parameters.completed v).Sorted :=
  h.provide.provide.modify.dismiss

theorem Property.member?_trimmed (v : Json) (key : String) : (trimmed v).member? key =
    if key = "type" then (v.member? "type").filter (· ≠ .null)
    else if key = "description" then (v.member? "description").filter (· ≠ .null)
    else v.member? key := by
  rw [trimmed, Json.member?_dismiss, Json.member?_dismiss, Json.member?_dismiss]
  by_cases htype : key = "type"
  · simp [htype]
  · by_cases hdescription : key = "description"
    · simp [hdescription]
    · simp [htype, hdescription, Ne.symm htype, Ne.symm hdescription]

/-- What a schema holds once it is completed. -/
theorem Parameters.member?_completed (h : v.Sorted) (key : String) : (completed v).member? key =
    if key = "type" then some ((v.member? "type").getD "object")
    else if key = "properties" then
      some (((v.member? "properties").getD (.obj [])).mapMembers Property.trimmed)
    else if key = "required" then (v.member? "required").filter (· ≠ .arr [])
    else v.member? key := by
  rw [completed, Json.member?_dismiss]
  simp only [h.provide.provide.member?_modify, h.provide.member?_provide, h.member?_provide]
  by_cases htype : key = "type"
  · simp [htype]
  · by_cases hproperties : key = "properties"
    · simp [hproperties]
    · by_cases hrequired : key = "required"
      · simp [hrequired]
      · simp [htype, hproperties, hrequired, Ne.symm htype, Ne.symm hproperties,
          Ne.symm hrequired]

theorem Property.member?_json {p : Property} (h : p.WellFormed) (key : String) :
    p.json.member? key =
      if key = "type" then p.type.map .str
      else if key = "description" then p.description.map .str
      else Members.lookup key p.keywords := by
  have hkeys : (p.fields.map Prod.fst).Nodup := by simp [fields]
  have hapart : Keywords (p.fields.map Prod.fst) p.keywords := h
  rw [json_eq_described, Json.member?]
  split_ifs with htype hdescription
  · rw [htype]
    exact Json.lookup_described_of_mem "type" hapart hkeys rfl
  · rw [hdescription]
    exact Json.lookup_described_of_mem "description" hapart hkeys rfl
  · exact Json.lookup_described_of_not_mem hapart hkeys (by simp [fields, htype, hdescription])

theorem Parameters.member?_json {p : Parameters}
    (h : Keywords ["type", "properties", "required"] p.keywords) (key : String) :
    p.json.member? key =
      if key = "type" then some (.str p.type)
      else if key = "properties" then some (.mkObj (p.properties.map fun m => (m.1, m.2.json)))
      else if key = "required" then (some (.strings p.required)).filter (· ≠ .arr [])
      else Members.lookup key p.keywords := by
  have hkeys : (p.fields.map Prod.fst).Nodup := by simp [fields]
  have hapart : Keywords (p.fields.map Prod.fst) p.keywords := h
  rw [json_eq_described, Json.member?]
  split_ifs with htype hproperties hrequired
  · rw [htype]
    exact Json.lookup_described_of_mem "type" hapart hkeys rfl
  · rw [hproperties]
    exact Json.lookup_described_of_mem "properties" hapart hkeys rfl
  · rw [hrequired, Json.lookup_described_of_mem "required" hapart hkeys rfl]
    cases p.required <;> simp [Option.filter, Json.strings]
  · exact Json.lookup_described_of_not_mem hapart hkeys
      (by simp [fields, htype, hproperties, hrequired])

end Completed

open Document

section Reading

variable {d : Document} {j v : Json} {ms : List (String × Document)} {vs : List (String × Json)}

theorem Document.keywords_of_value {names : List String} {keywords : List (String × Json)}
    (hvs : valueMembers ms = .ok vs) (h : Document.keywords names ms = .ok keywords) :
    keywords = (Members.ofList vs).filter fun m => !names.contains m.1 := by
  rw [Document.keywords, valueMembers_filter (fun k => !names.contains k) hvs] at h
  obtain rfl := Except.ok.inj h
  exact Members.ofList_filter fun k => !names.contains k

/-- Every keyword has the value that it had. -/
theorem Document.lookup_keyword {names : List String} {keywords : List (String × Json)}
    {key : String} (hvs : valueMembers ms = .ok vs)
    (h : Document.keywords names ms = .ok keywords) (hkey : key ∉ names) :
    Members.lookup key keywords = (Json.mkObj vs).member? key := by
  rw [keywords_of_value hvs h, Members.lookup_filter (fun k => !names.contains k),
    if_pos (by simpa using hkey)]
  rfl

theorem Document.fieldOption_string_of_value {name : String} {s : Option String}
    (hvs : valueMembers ms = .ok vs) (h : fieldOption name string ms = .ok s) :
    s.map Json.str = ((Json.mkObj vs).member? name).filter (· ≠ .null) := by
  show _ = (Members.lookup name (Members.ofList vs)).filter (· ≠ .null)
  rcases fieldOr_of_value hvs h with ⟨rfl, hnone⟩ | ⟨d, j, hd, hj, hlookup⟩
  · rw [hnone]
    rfl
  · rw [hlookup]
    rcases value_of_optional hd hj with ⟨rfl, rfl⟩ | ⟨y, rfl, hy⟩
    · rfl
    · rw [value_of_string hy hj]
      rfl

/-- A property is written as it was read, without what says nothing. -/
theorem Property.json_of_read {p : Property} (hj : d.value = .ok j) (h : read d = .ok p) :
    p.json = trimmed j := by
  obtain ⟨ms, hms, h⟩ := bind_eq_ok_iff.1 h
  obtain ⟨vs, hvs, rfl⟩ := value_of_members hms hj
  simp only [bind_eq_ok_iff, pure_eq_ok_iff] at h
  obtain ⟨type, htype, description, hdescription, keywords, hkeywords, rfl⟩ := h
  refine Json.Sorted.ext ⟨_, json_eq_described _, Json.ordered_described _ _⟩
    (Json.sorted_mkObj vs).trimmed fun key => ?_
  rw [member?_trimmed, member?_json (keywords_of_read hkeywords)]
  split_ifs with hkey hother
  · exact fieldOption_string_of_value hvs htype
  · exact fieldOption_string_of_value hvs hdescription
  · exact lookup_keyword hvs hkeywords (by simp [hkey, hother])

theorem Parameters.json_of_go : ∀ {ms : List (String × Document)} {vs : List (String × Json)}
    {properties : List (String × Property)}, valueMembers ms = .ok vs →
      readProperties.go ms = .ok properties →
      properties.map (fun m => (m.1, m.2.json)) = vs.map fun m => (m.1, Property.trimmed m.2)
  | [], _, _, hvs, h => by
    obtain rfl := Except.ok.inj hvs
    obtain rfl := Except.ok.inj h
    rfl
  | (name, d) :: ms, _, _, hvs, h => by
    simp only [valueMembers, bind_eq_ok_iff, pure_eq_ok_iff] at hvs
    obtain ⟨j, hj, vs, hvs, rfl⟩ := hvs
    simp only [readProperties.go, bind_eq_ok_iff, pure_eq_ok_iff] at h
    obtain ⟨p, hp, properties, hproperties, rfl⟩ := h
    rw [List.map_cons, List.map_cons, Property.json_of_read hj hp, json_of_go hvs hproperties]

theorem Parameters.json_of_readProperties {properties : List (String × Property)}
    (hj : d.value = .ok j) (h : readProperties d = .ok properties) :
    Json.mkObj (properties.map fun m => (m.1, m.2.json)) = j.mapMembers Property.trimmed := by
  simp only [readProperties, bind_eq_ok_iff, pure_eq_ok_iff] at h
  obtain ⟨ms, hms, read, hread, rfl⟩ := h
  obtain ⟨vs, hvs, rfl⟩ := value_of_members hms hj
  rw [← Members.ofList_map, json_of_go hvs hread, Members.ofList_map, Json.mkObj,
    Members.ofList_of_ordered ((Members.ordered_ofList vs).map fun m => Property.trimmed m.2)]
  rfl

/-- A schema is written as it was read, completed. -/
theorem Parameters.json_of_read {p : Parameters} (hv : d.value = .ok v) (h : read d = .ok p) :
    p.json = completed v := by
  have hwell := wellFormed_of_read h
  obtain ⟨ms, hms, h⟩ := bind_eq_ok_iff.1 h
  obtain ⟨vs, hvs, rfl⟩ := value_of_members hms hv
  simp only [bind_eq_ok_iff, pure_eq_ok_iff] at h
  obtain ⟨type, htype, properties, hproperties, required, hrequired, keywords, hkeywords, rfl⟩ := h
  refine Json.Sorted.ext ⟨_, json_eq_described _, Json.ordered_described _ _⟩
    (Json.sorted_mkObj vs).completed fun key => ?_
  rw [member?_completed (Json.sorted_mkObj vs), member?_json hwell.keywords]
  simp only [Json.mkObj, Json.member?]
  split_ifs with hfirst hsecond hthird
  · rcases fieldOr_of_value hvs htype with ⟨rfl, hnone⟩ | ⟨d, j, hd, hj, hlookup⟩
    · rw [hnone]
      rfl
    · rw [hlookup, value_of_string hd hj]
      rfl
  · rcases fieldOr_of_value hvs hproperties with ⟨rfl, hnone⟩ | ⟨d, j, hd, hj, hlookup⟩
    · rw [hnone]
      rfl
    · rw [hlookup, Option.getD_some, ← json_of_readProperties hj hd]
      rfl
  · rcases fieldOr_of_value hvs hrequired with ⟨rfl, hnone⟩ | ⟨d, j, hd, hj, hlookup⟩
    · rw [hnone]
      simp [Option.filter, Json.strings]
    · rw [hlookup, value_of_list value_of_string hd hj]
      rfl
  · exact lookup_keyword hvs hkeywords (by simp [hfirst, hsecond, hthird])

theorem Parameters.sorted_of_read {p : Parameters} (hv : d.value = .ok v) (h : read d = .ok p) :
    v.Sorted := by
  obtain ⟨ms, hms, -⟩ := bind_eq_ok_iff.1 h
  obtain ⟨vs, -, rfl⟩ := value_of_members hms hv
  exact Json.sorted_mkObj vs

end Reading

/-- A schema that is read is written completed and nothing else about it changes: every keyword that
is not a field, of the schema and of each property, has the value it had. What is written is read
back as the same parameters, and it is what the dialects of chat completions and of messages declare
for a tool with them. -/
theorem schema_passes {d : Document} {v : Json} {p : Parameters} (hv : d.value = .ok v)
    (h : Parameters.read d = .ok p) :
    p.json = Parameters.completed v
    ∧ (∀ key ∉ ["type", "properties", "required"], p.json.member? key = v.member? key)
    ∧ (∀ name j, (v.get "properties").member? name = some j → ∃ k,
      (p.json.get "properties").member? name = some k
        ∧ ∀ key ∉ ["type", "description"], k.member? key = j.member? key)
    ∧ Parameters.read p.json.document = .ok p
    ∧ ∀ (ts : List Tool) (i : Nat) (t : Tool), (ts.map Tool.name).Nodup → ts[i]? = some t →
      t.parameters = p →
      (∃ ds declared function, OpenAI.tools ts = .ok ds ∧ ds[i]? = some declared
        ∧ declared.member? "function" = some function
        ∧ function.member? "parameters" = some (Parameters.completed v))
      ∧ ∃ ds declared, Anthropic.tools ts = .ok ds ∧ ds[i]? = some declared
        ∧ declared.member? "input_schema" = some (Parameters.completed v) := by
  have hjson := Parameters.json_of_read hv h
  have hsorted := Parameters.sorted_of_read hv h
  refine ⟨hjson, fun key hkey => ?_, fun name j hj => ?_,
    Parameters.read_json (Parameters.wellFormed_of_read h), fun ts i t hnames ht hp => ?_⟩
  · simp only [List.mem_cons, List.not_mem_nil, or_false, not_or] at hkey
    rw [hjson, Parameters.member?_completed hsorted, if_neg hkey.1, if_neg hkey.2.1,
      if_neg hkey.2.2]
  · refine ⟨Property.trimmed j, ?_, fun key hkey => ?_⟩
    · obtain ⟨properties, hproperties, hj⟩ := Json.exists_of_member?_get hj
      rw [hjson, Json.get, Parameters.member?_completed hsorted, if_neg (by decide), if_pos rfl,
        hproperties, Option.getD_some, Option.getD_some, Json.member?_mapMembers, hj,
        Option.map_some]
    · simp only [List.mem_cons, List.not_mem_nil, or_false, not_or] at hkey
      rw [Property.member?_trimmed, if_neg hkey.1, if_neg hkey.2]
  · have hschema : t.parameters.json = Parameters.completed v := by rw [hp, hjson]
    obtain ⟨-, function, hfunction, hdescribes⟩ := OpenAI.declares_declaration t
    refine ⟨⟨_, _, function, Tool.declareDistinct_eq_ok_iff.2 ⟨hnames, rfl⟩,
        by rw [List.getElem?_map, ht]; rfl, hfunction, hdescribes.schema.trans (by rw [hschema])⟩,
      _, _, Tool.declareDistinct_eq_ok_iff.2 ⟨hnames, rfl⟩, by rw [List.getElem?_map, ht]; rfl,
      (Anthropic.declares_declaration t).schema.trans (by rw [hschema])⟩

section Units

/-- A schema that leaves out its type, requires nothing, and says more than the fields hold. -/
def unitSchema : Document := .obj [
  ("properties", .obj [
    ("unit", .obj [("enum", .arr [.str "c", .str "f"]), ("description", .null)])]),
  ("required", .arr []), ("additionalProperties", .bool false)]

theorem unit_passes : ∃ v p, unitSchema.value = .ok v ∧ Parameters.read unitSchema = .ok p
    ∧ p.json = Parameters.completed v
    ∧ p.json = .mkObj [("type", "object"), ("additionalProperties", false),
      ("properties", .mkObj [("unit", .mkObj [("enum", .strings ["c", "f"])])])]
    ∧ Parameters.read p.json.document = .ok p
    ∧ ∃ ds declared, Anthropic.tools [⟨"weather", "", p⟩] = .ok ds ∧ ds[0]? = some declared
      ∧ declared.member? "input_schema" = some p.json := by
  have hv : ∃ v, unitSchema.value = .ok v := ⟨_, rfl⟩
  have hp : ∃ p, Parameters.read unitSchema = .ok p := ⟨_, rfl⟩
  obtain ⟨v, hv⟩ := hv
  obtain ⟨p, hp⟩ := hp
  obtain ⟨hjson, -, -, hread, hdeclared⟩ := schema_passes hv hp
  refine ⟨v, p, hv, hp, hjson, ?_, hread, ?_⟩
  · obtain rfl := Except.ok.inj hp
    rfl
  · rw [hjson]
    exact (hdeclared [⟨"weather", "", p⟩] 0 _ (List.nodup_singleton _) rfl rfl).2

end Units

end Switchboard
