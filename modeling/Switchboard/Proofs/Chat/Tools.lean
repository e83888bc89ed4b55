import Switchboard.Chat.Tool
import Switchboard.Proofs.Json.Fields

/-!
# Tools written and read

A schema keeps its own fields and every other keyword in one object. The keywords of a schema that
was read are none of its fields (`Keywords`), so that each field and each keyword is found again
(`Json.lookup_described`), at the top of a schema as in its properties.
-/

namespace Switchboard

open Document

/-- Keywords are in order, none of them twice, and are values in canonical form; none of them is a
field of its own. -/
structure Keywords (names : List String) (keywords : List (String × Json)) : Prop where
  ordered : Members.Ordered keywords
  canonical : ∀ m ∈ keywords, m.2.Canonical
  apart : ∀ m ∈ keywords, m.1 ∉ names

namespace Keywords

variable {names : List String} {keywords : List (String × Json)}

theorem lookup_eq_none (h : Keywords names keywords) {name : String} (hname : name ∈ names) :
    Members.lookup name keywords = none :=
  Members.lookup_eq_none fun hmem => by
    obtain ⟨m, hm, rfl⟩ := List.mem_map.1 hmem
    exact h.apart m hm hname

end Keywords

namespace Document

theorem map_fst_of_valueMembers {ms : List (String × Document)} {vs : List (String × Json)}
    (h : valueMembers ms = .ok vs) : vs.map Prod.fst = ms.map Prod.fst := by
  induction ms generalizing vs with
  | nil =>
    obtain rfl := Except.ok.inj h
    rfl
  | cons m rest ih =>
    simp only [valueMembers, bind_eq_ok_iff, pure_eq_ok_iff] at h
    obtain ⟨j, -, values, hvalues, rfl⟩ := h
    simp [ih hvalues]

theorem keywords_of_read {names : List String} {ms : List (String × Document)}
    {keywords : List (String × Json)} (h : Document.keywords names ms = .ok keywords) :
    Keywords names keywords := by
  obtain ⟨values, hvalues, h⟩ := bind_eq_ok_iff.1 h
  obtain rfl := Except.ok.inj h
  have hcanonical := Json.canonicalMembers_iff.1 (canonical_of_valueMembers hvalues)
  refine ⟨Members.ordered_ofList _, fun m hm => hcanonical m (Members.mem_of_mem_ofList hm),
    fun m hm => ?_⟩
  have hkey := List.mem_map_of_mem (f := Prod.fst) (Members.mem_of_mem_ofList hm)
  rw [map_fst_of_valueMembers hvalues] at hkey
  obtain ⟨m', hm', hsame⟩ := List.mem_map.1 hkey
  have hout := (List.mem_filter.1 hm').2
  rw [← hsame]
  simpa using hout

/-- Every keyword is read where the fields are passed over. -/
theorem keywords_documentMembers {names : List String} {keywords members : List (String × Json)}
    (h : Keywords names keywords) (hmembers : Members.Ordered members)
    (hsame : ∀ key ∉ names, Members.lookup key members = Members.lookup key keywords) :
    Document.keywords names (Json.documentMembers members) = .ok keywords := by
  have hkept : members.filter (fun m => !names.contains m.1) = keywords := by
    refine (hmembers.filter _).ext h.ordered fun key => ?_
    rw [Members.lookup_filter (fun key => !names.contains key)]
    by_cases hkey : key ∈ names
    · simp [hkey, h.lookup_eq_none hkey]
    · simp [hkey, hsame key hkey]
  have hvalues := Json.value_documentMembers (Json.canonicalMembers_iff.2 h.canonical)
  rw [Document.keywords, filter_documentMembers (fun key => !names.contains key), hkept, hvalues]
  show Except.ok (Members.ofList keywords) = _
  rw [Members.ofList_of_ordered h.ordered]

end Document

namespace Json

/-- The members of an object with some fields and keywords beside them. -/
def described (fields : List (String × Option Json)) (keywords : List (String × Json)) :
    List (String × Json) :=
  Members.ofList ((fields.filterMap fun m => m.2.map (m.1, ·)) ++ keywords)

variable {names : List String} {fields : List (String × Option Json)}
  {keywords : List (String × Json)}

theorem ordered_described (fields : List (String × Option Json))
    (keywords : List (String × Json)) : Members.Ordered (described fields keywords) :=
  Members.ordered_ofList _

theorem lookup_described (h : Keywords (fields.map Prod.fst) keywords)
    (hkeys : (fields.map Prod.fst).Nodup) (key : String) :
    Members.lookup key (described fields keywords) =
      ((Members.lookup key fields).join <|> Members.lookup key keywords) := by
  rw [described, Members.lookup_ofList, Members.lookup_append, Members.lookup_present hkeys]
  rw [List.map_append, List.nodup_append]
  refine ⟨Members.nodup_present hkeys, h.ordered.nodup, fun k hk l hl heq => ?_⟩
  obtain ⟨m, hm, rfl⟩ := List.mem_map.1 hk
  obtain ⟨n, hn, rfl⟩ := List.mem_map.1 hl
  obtain ⟨f, hf, hv⟩ := List.mem_filterMap.1 hm
  obtain ⟨j, -, rfl⟩ := Option.map_eq_some_iff.1 hv
  exact h.apart n hn (heq ▸ List.mem_map_of_mem hf)

theorem lookup_described_of_mem (key : String) (h : Keywords (fields.map Prod.fst) keywords)
    (hkeys : (fields.map Prod.fst).Nodup) {v : Option Json}
    (hfield : Members.lookup key fields = some v) :
    Members.lookup key (described fields keywords) = v := by
  have hnone := h.lookup_eq_none (List.mem_map_of_mem (Members.mem_of_lookup hfield))
  rw [lookup_described h hkeys, hfield, hnone]
  cases v <;> rfl

theorem lookup_described_of_not_mem (h : Keywords (fields.map Prod.fst) keywords)
    (hkeys : (fields.map Prod.fst).Nodup) {key : String} (hkey : key ∉ fields.map Prod.fst) :
    Members.lookup key (described fields keywords) = Members.lookup key keywords := by
  rw [lookup_described h hkeys, Members.lookup_eq_none hkey]
  rfl

theorem canonical_described (h : Keywords names keywords)
    (hfields : ∀ m ∈ fields, ∀ j ∈ m.2, j.Canonical) :
    (obj (described fields keywords)).Canonical := by
  refine canonical_mkObj fun m hm => ?_
  rcases List.mem_append.1 hm with hm | hm
  · obtain ⟨f, hf, hv⟩ := List.mem_filterMap.1 hm
    obtain ⟨j, hj, rfl⟩ := Option.map_eq_some_iff.1 hv
    exact hfields f hf j hj
  · exact h.canonical m hm

end Json

namespace Property

def WellFormed (p : Property) : Prop := Keywords ["type", "description"] p.keywords

def fields (p : Property) : List (String × Option Json) :=
  [("type", p.type.map .str), ("description", p.description.map .str)]

theorem json_eq_described (p : Property) : p.json = .obj (Json.described p.fields p.keywords) := by
  obtain ⟨_ | type, _ | description, keywords⟩ := p <;> rfl

theorem canonical_json {p : Property} (h : p.WellFormed) : p.json.Canonical := by
  rw [json_eq_described]
  exact Json.canonical_described h (by simp [fields, Json.Canonical])

theorem read_json {p : Property} (h : p.WellFormed) : read p.json.document = .ok p := by
  have hkeys : (p.fields.map Prod.fst).Nodup := by simp [fields]
  have hapart : Keywords (p.fields.map Prod.fst) p.keywords := h
  have hordered := Json.ordered_described p.fields p.keywords
  have htype := fieldOption_of_lookup "type" string hordered
    (Json.lookup_described_of_mem "type" hapart hkeys rfl)
  have hdescription := fieldOption_of_lookup "description" string hordered
    (Json.lookup_described_of_mem "description" hapart hkeys rfl)
  have hkeywords := keywords_documentMembers hapart hordered fun key hkey =>
    Json.lookup_described_of_not_mem hapart hkeys hkey
  rw [optional_string] at htype hdescription
  rw [json_eq_described, read]
  simp only [bind_eq_ok_iff]
  exact ⟨_, rfl, _, htype, _, hdescription, _, hkeywords, rfl⟩

theorem wellFormed_of_read {d : Document} {p : Property} (h : read d = .ok p) : p.WellFormed := by
  obtain ⟨ms, -, h⟩ := bind_eq_ok_iff.1 h
  simp only [bind_eq_ok_iff, pure_eq_ok_iff] at h
  obtain ⟨type, -, description, -, keywords, hkeywords, rfl⟩ := h
  exact keywords_of_read hkeywords

end Property

namespace Parameters

structure WellFormed (p : Parameters) : Prop where
  ordered : Members.Ordered p.properties
  properties : ∀ m ∈ p.properties, m.2.WellFormed
  keywords : Keywords ["type", "properties", "required"] p.keywords

def fields (p : Parameters) : List (String × Option Json) :=
  [("type", some p.type),
    ("properties", some (.mkObj (p.properties.map fun (name, property) => (name, property.json)))),
    ("required", if p.required.isEmpty then none else some (.strings p.required))]

theorem json_eq_described (p : Parameters) :
    p.json = .obj (Json.described p.fields p.keywords) := by
  obtain ⟨type, properties, _ | ⟨name, names⟩, keywords⟩ := p <;> rfl

theorem canonical_json {p : Parameters} (h : p.WellFormed) : p.json.Canonical := by
  rw [json_eq_described]
  refine Json.canonical_described h.keywords fun m hm j hj => ?_
  simp only [fields, List.mem_cons, List.not_mem_nil, or_false] at hm
  rcases hm with rfl | rfl | rfl
  · obtain rfl := Option.some.inj hj
    trivial
  · obtain rfl := Option.some.inj hj
    refine Json.canonical_mkObj fun m hm => ?_
    obtain ⟨l, hl, rfl⟩ := List.mem_map.1 hm
    exact Property.canonical_json (h.properties l hl)
  · obtain ⟨-, hrequired⟩ := Option.ite_none_left_eq_some.1 hj
    obtain rfl := Option.some.inj hrequired
    exact Json.canonical_strings p.required

theorem go_documentMembers : ∀ {properties : List (String × Property)},
    (∀ m ∈ properties, m.2.WellFormed) →
    readProperties.go (Json.documentMembers (properties.map fun m => (m.1, m.2.json))) =
      .ok properties
  | [], _ => rfl
  | (name, p) :: rest, h => by
    obtain ⟨hp, hrest⟩ := List.forall_mem_cons.1 h
    simp only [List.map_cons, Json.documentMembers, readProperties.go, bind_eq_ok_iff]
    exact ⟨p, Property.read_json hp, rest, go_documentMembers hrest, rfl⟩

theorem readProperties_document {properties : List (String × Property)}
    (hordered : Members.Ordered properties) (h : ∀ m ∈ properties, m.2.WellFormed) :
    readProperties (Json.mkObj (properties.map fun m => (m.1, m.2.json))).document =
      .ok properties := by
  have hmembers := hordered.map fun m => m.2.json
  rw [Json.mkObj, Members.ofList_of_ordered hmembers, readProperties]
  simp only [bind_eq_ok_iff]
  refine ⟨_, rfl, _, go_documentMembers h, ?_⟩
  rw [Members.ofList_of_ordered hordered]
  rfl

theorem read_json {p : Parameters} (h : p.WellFormed) : read p.json.document = .ok p := by
  have hkeys : (p.fields.map Prod.fst).Nodup := by simp [fields]
  have hapart : Keywords (p.fields.map Prod.fst) p.keywords := h.keywords
  have hordered := Json.ordered_described p.fields p.keywords
  have htype := fieldOr_of_lookup "object" "type" string hordered
    (Json.lookup_described_of_mem "type" hapart hkeys rfl)
  have hproperties := fieldOr_of_lookup [] "properties" readProperties hordered
    (Json.lookup_described_of_mem "properties" hapart hkeys rfl)
  have hrequired := fieldOr_of_lookup [] "required" (list string) hordered
    (Json.lookup_described_of_mem "required" hapart hkeys rfl)
  have hkeywords := keywords_documentMembers hapart hordered fun key hkey =>
    Json.lookup_described_of_not_mem hapart hkeys hkey
  rw [Option.elim] at htype
  rw [Option.elim, readProperties_document h.ordered h.properties] at hproperties
  rw [list_strings] at hrequired
  rw [json_eq_described, read]
  simp only [bind_eq_ok_iff]
  exact ⟨_, rfl, _, htype, _, hproperties, _, hrequired, _, hkeywords, rfl⟩

theorem wellFormed_of_go :
    ∀ {ms : List (String × Document)} {properties : List (String × Property)},
      readProperties.go ms = .ok properties → ∀ m ∈ properties, m.2.WellFormed
  | [], _, h => by
    obtain rfl := Except.ok.inj h
    simp
  | (name, d) :: rest, _, h => by
    simp only [readProperties.go, bind_eq_ok_iff, pure_eq_ok_iff] at h
    obtain ⟨property, hproperty, properties, hrest, rfl⟩ := h
    exact List.forall_mem_cons.2
      ⟨Property.wellFormed_of_read hproperty, wellFormed_of_go hrest⟩

theorem wellFormed_of_read {d : Document} {p : Parameters} (h : read d = .ok p) :
    p.WellFormed := by
  obtain ⟨ms, -, h⟩ := bind_eq_ok_iff.1 h
  simp only [bind_eq_ok_iff, pure_eq_ok_iff] at h
  obtain ⟨type, -, properties, hproperties, required, -, keywords, hkeywords, rfl⟩ := h
  rcases exists_read_of_fieldOr hproperties with rfl | ⟨d, hd⟩
  · exact ⟨List.Pairwise.nil, by simp, keywords_of_read hkeywords⟩
  · simp only [readProperties, bind_eq_ok_iff, pure_eq_ok_iff] at hd
    obtain ⟨members, -, read, hread, rfl⟩ := hd
    exact ⟨Members.ordered_ofList _,
      fun m hm => wellFormed_of_go hread m (Members.mem_of_mem_ofList hm),
      keywords_of_read hkeywords⟩

theorem wellFormed_empty : empty.WellFormed :=
  ⟨List.Pairwise.nil, nofun, List.Pairwise.nil, nofun, nofun⟩

end Parameters

namespace Tool

def WellFormed (t : Tool) : Prop := t.parameters.WellFormed

theorem canonical_json {t : Tool} (h : t.WellFormed) : t.json.Canonical :=
  Json.canonical_mkObj (by simp [Json.Canonical, Parameters.canonical_json h])

theorem read_json {t : Tool} (h : t.WellFormed) : read t.json.document = .ok t := by
  have hkeys : (([("name", some (Json.str t.name)),
      ("description", some (Json.str t.description)), ("parameters", some t.parameters.json)] :
        List (String × Option Json)).map Prod.fst).Nodup := by
    simp
  have hname := field_recorded "name" (string) hkeys rfl
  have hdescription :=
    fieldOr_recorded "" "description" string hkeys rfl
  have hparameters := fieldOr_recorded .empty "parameters" (Parameters.read) hkeys rfl
  rw [Option.elim, Parameters.read_json h] at hparameters
  rw [read]
  simp only [bind_eq_ok_iff]
  exact ⟨_, fields_document _ _ _, _, hname, _, hdescription, _, hparameters, rfl⟩

theorem wellFormed_of_read {d : Document} {t : Tool} (h : read d = .ok t) : t.WellFormed := by
  obtain ⟨fs, -, h⟩ := bind_eq_ok_iff.1 h
  simp only [bind_eq_ok_iff, pure_eq_ok_iff] at h
  obtain ⟨name, -, description, -, parameters, hparameters, rfl⟩ := h
  rcases exists_read_of_fieldOr hparameters with rfl | ⟨d, hd⟩
  · exact Parameters.wellFormed_empty
  · exact Parameters.wellFormed_of_read hd

end Tool

end Switchboard
