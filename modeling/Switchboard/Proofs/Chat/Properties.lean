import Switchboard.Proofs.Chat.Schemas

/-!
# Schemas built property by property

A property that is given to a schema takes the place of the one with its name, and its name goes to
the end of what is required if it is marked. Nothing else changes, so after any number of them each
name stands for what it was given last, and what is required are the marked names one after the
other (`holds_built`). A name that is marked twice is required twice, which is all that can be wrong
with the schema (`built_schema`).
-/

namespace Switchboard

/-- The schema of an object: it says so, each of its properties has a schema, and what it requires
are some of them, none twice. -/
structure Json.IsObjectSchema (schema : Json) : Prop where
  type : schema.member? "type" = some (.str "object")
  properties : ∃ members, schema.member? "properties" = some (.obj members)
    ∧ Members.Ordered members ∧ ∀ m ∈ members, m.2.isObj = true
  required : ∀ j, schema.member? "required" = some j → ∃ names, j = .strings names ∧ names ≠ []
    ∧ names.Nodup ∧ ∀ name ∈ names, ((schema.get "properties").member? name).isSome

theorem Json.strings_inj {names more : List String} :
    Json.strings names = .strings more ↔ names = more := by
  rw [Json.strings, Json.strings, Json.arr.injEq]
  exact (List.map_injective_iff.2 fun _ _ => Json.str.inj).eq_iff

namespace Parameters

/-- A property that is given to a schema. -/
structure Addition where
  name : String
  property : Property
  isRequired : Bool

/-- The schema to which properties were given one after the other. -/
def built (additions : List Addition) : Parameters :=
  additions.foldl (fun p a => p.withProperty a.name a.property a.isRequired) empty

/-- A name is given a property, and none after it. -/
def LastGives (additions : List Addition) (name : String) (property : Property) : Prop :=
  ∃ before after isRequired, additions = before ++ ⟨name, property, isRequired⟩ :: after
    ∧ ∀ a ∈ after, a.name ≠ name

/-- The names that are marked, each time they are. -/
def marked (additions : List Addition) : List String :=
  (additions.filter Addition.isRequired).map Addition.name

/-- No name is marked twice. -/
def MarkedOnce (additions : List Addition) : Prop :=
  additions.Pairwise fun a b => a.isRequired = true → b.isRequired = true → a.name ≠ b.name

instance : DecidablePred MarkedOnce := fun _ => inferInstanceAs (Decidable (List.Pairwise ..))

/-- What a schema is after properties were given to it. -/
structure Holds (additions : List Addition) (p : Parameters) : Prop where
  type : p.type = "object"
  keywords : p.keywords = []
  ordered : Members.Ordered p.properties
  lookup : ∀ name property,
    Members.lookup name p.properties = some property ↔ LastGives additions name property
  required : p.required = marked additions

variable {additions : List Addition} {a : Addition} {p : Parameters} {name : String}
  {property : Property}

theorem lastGives_concat_iff : LastGives (additions ++ [a]) name property ↔
    if a.name = name then a.property = property else LastGives additions name property := by
  constructor
  · rintro ⟨before, after, isRequired, hadditions, hafter⟩
    rcases List.eq_nil_or_concat after with rfl | ⟨after, b, rfl⟩
    · obtain ⟨-, ha⟩ := List.append_inj' hadditions rfl
      obtain rfl := List.singleton_inj.1 ha
      simp
    · rw [List.concat_eq_append, ← List.cons_append, ← List.append_assoc] at hadditions
      obtain ⟨hbefore, ha⟩ := List.append_inj' hadditions rfl
      obtain rfl := List.singleton_inj.1 ha
      rw [if_neg (hafter a (by simp))]
      exact ⟨before, after, isRequired, hbefore, fun b hb => hafter b (by simp [hb])⟩
  · split_ifs with hname
    · rintro rfl
      exact ⟨additions, [], a.isRequired, by rw [← hname], nofun⟩
    · rintro ⟨before, after, isRequired, rfl, hafter⟩
      refine ⟨before, after ++ [a], isRequired, by simp, fun b hb => ?_⟩
      rcases List.mem_append.1 hb with hb | hb
      · exact hafter b hb
      · rwa [List.mem_singleton.1 hb]

theorem marked_concat : marked (additions ++ [a]) =
    if a.isRequired then marked additions ++ [a.name] else marked additions := by
  cases hrequired : a.isRequired <;> simp [marked, hrequired]

theorem holds_empty : Holds [] empty where
  type := rfl
  keywords := rfl
  ordered := List.Pairwise.nil
  lookup _ _ := by simp [empty, Members.lookup, LastGives]
  required := rfl

/-- What one more property leaves. -/
theorem Holds.withProperty (h : Holds additions p) (a : Addition) :
    Holds (additions ++ [a]) (p.withProperty a.name a.property a.isRequired) where
  type := h.type
  keywords := h.keywords
  ordered := h.ordered.insert
  lookup name property := by
    rw [lastGives_concat_iff, ← h.lookup, Parameters.withProperty, Members.lookup_insert]
    split_ifs <;> simp
  required := by
    rw [marked_concat, ← h.required]
    rfl

theorem holds_built (additions : List Addition) : Holds additions (built additions) := by
  induction additions using List.reverseRecOn with
  | nil => exact holds_empty
  | append_singleton additions a ih =>
    rw [built, List.foldl_concat]
    exact ih.withProperty a

theorem nodup_marked_iff : (marked additions).Nodup ↔ MarkedOnce additions := by
  rw [marked, List.Nodup, List.pairwise_map, List.pairwise_filter]
  rfl

theorem exists_lastGives_iff :
    (∃ property, LastGives additions name property) ↔ ∃ a ∈ additions, a.name = name := by
  induction additions using List.reverseRecOn with
  | nil => simp [LastGives]
  | append_singleton additions a ih =>
    simp only [lastGives_concat_iff, List.mem_append, List.mem_singleton, or_and_right, exists_or,
      exists_eq_left, ← ih]
    by_cases hname : a.name = name <;> simp [hname]

theorem Holds.mem_keys_iff (h : Holds additions p) :
    name ∈ p.properties.map Prod.fst ↔ ∃ a ∈ additions, a.name = name := by
  rw [Members.mem_keys_iff, Option.isSome_iff_exists, ← exists_lastGives_iff]
  exact exists_congr (h.lookup name)

/-- What is required is a property. -/
theorem Holds.mem_keys_of_required (h : Holds additions p) (hname : name ∈ p.required) :
    name ∈ p.properties.map Prod.fst := by
  rw [h.required] at hname
  obtain ⟨a, ha, rfl⟩ := List.mem_map.1 hname
  exact h.mem_keys_iff.2 ⟨a, List.mem_of_mem_filter ha, rfl⟩

section Schema

variable (h : Holds additions p)

include h

theorem Holds.apart : Keywords ["type", "properties", "required"] p.keywords := by
  rw [h.keywords]
  exact ⟨List.Pairwise.nil, nofun, nofun⟩

theorem Holds.member?_properties : p.json.member? "properties" =
    some (.obj (p.properties.map fun m => (m.1, m.2.json))) := by
  rw [member?_json h.apart, if_neg (by decide), if_pos rfl, Json.mkObj,
    Members.ofList_of_ordered (h.ordered.map fun m => m.2.json)]

theorem Holds.member?_get_properties (name : String) :
    (p.json.get "properties").member? name =
      (Members.lookup name p.properties).map Property.json := by
  rw [Json.get, h.member?_properties, Option.getD_some, Json.member?,
    Members.lookup_map fun _ => Property.json]

/-- The schema that is written under a name is that of the property it was given last. -/
theorem Holds.member?_get_properties_iff {name : String} {j : Json} :
    (p.json.get "properties").member? name = some j ↔
      ∃ property, LastGives additions name property ∧ j = property.json := by
  rw [h.member?_get_properties, Option.map_eq_some_iff]
  exact exists_congr fun property => and_congr (h.lookup name property) eq_comm

theorem Holds.member?_required_iff {j : Json} : p.json.member? "required" = some j ↔
    j = .strings p.required ∧ p.required ≠ [] := by
  rw [member?_json h.apart, if_neg (by decide), if_neg (by decide), if_pos rfl,
    Option.filter_eq_some_iff]
  constructor
  · rintro ⟨hj, hne⟩
    obtain rfl := Option.some.inj hj
    exact ⟨rfl, fun hnone => by simp [hnone, Json.strings] at hne⟩
  · rintro ⟨rfl, hne⟩
    exact ⟨rfl, by simpa [Json.strings] using hne⟩

theorem Holds.isObjectSchema_iff : p.json.IsObjectSchema ↔ MarkedOnce additions := by
  rw [← nodup_marked_iff, ← h.required]
  constructor
  · intro hschema
    by_cases hnone : p.required = []
    · rw [hnone]
      exact List.nodup_nil
    · obtain ⟨names, hnames, -, hnodup, -⟩ :=
        hschema.required _ (h.member?_required_iff.2 ⟨rfl, hnone⟩)
      rwa [Json.strings_inj.1 hnames]
  · intro hnodup
    refine ⟨?_, ⟨_, h.member?_properties, h.ordered.map _, ?_⟩, ?_⟩
    · rw [member?_json h.apart, if_pos rfl, h.type]
    · intro m hm
      obtain ⟨l, -, rfl⟩ := List.mem_map.1 hm
      rfl
    · intro j hj
      obtain ⟨rfl, hne⟩ := h.member?_required_iff.1 hj
      refine ⟨_, rfl, hne, hnodup, fun name hname => ?_⟩
      rw [h.member?_get_properties, Option.isSome_map, ← Members.mem_keys_iff]
      exact h.mem_keys_of_required hname

end Schema

/-- However many properties are given to a schema, also several with one name: its properties are
the names that were given, each with what it was given last, and are written so; what it requires
are the names that were marked, in order, each as often as it was marked, and all of them are
properties. So what is required is without repeats, and the schema that is written is the schema of
an object, exactly if no name was marked twice. -/
theorem built_schema (additions : List Addition) :
    (Members.Ordered (built additions).properties
      ∧ (∀ name, name ∈ (built additions).properties.map Prod.fst ↔
        ∃ a ∈ additions, a.name = name)
      ∧ ∀ name property, Members.lookup name (built additions).properties = some property ↔
        LastGives additions name property)
    ∧ ((built additions).required = marked additions
      ∧ (∀ name ∈ (built additions).required, name ∈ (built additions).properties.map Prod.fst)
      ∧ ((built additions).required.Nodup ↔ MarkedOnce additions))
    ∧ (∀ name j, ((built additions).json.get "properties").member? name = some j ↔
      ∃ property, LastGives additions name property ∧ j = property.json)
    ∧ ((built additions).json.IsObjectSchema ↔ MarkedOnce additions) := by
  have h := holds_built additions
  refine ⟨⟨h.ordered, fun name => h.mem_keys_iff, h.lookup⟩,
    ⟨h.required, fun name => h.mem_keys_of_required, ?_⟩,
    fun name j => h.member?_get_properties_iff, h.isObjectSchema_iff⟩
  rw [h.required, nodup_marked_iff]

section Twice

/-- A place that is given twice, as what must be said both times. -/
def places : List Addition :=
  [⟨"location", .of "string" "The city", true⟩, ⟨"location", .of "object" "The place", true⟩]

theorem places_repeated :
    (built places).required = ["location", "location"] ∧ ¬(built places).required.Nodup
      ∧ ¬(built places).json.IsObjectSchema := by
  have h := holds_built places
  rw [h.isObjectSchema_iff, h.required]
  decide

end Twice

end Parameters

end Switchboard
