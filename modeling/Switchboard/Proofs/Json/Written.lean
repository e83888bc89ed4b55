import Switchboard.Json.Document
import Switchboard.Proofs.Json.Members
import Switchboard.Proofs.Outcome

/-!
# Values written down

A value in canonical form is read back from the document that writes it down
(`Json.value_document`), and every value that is read is in canonical form
(`Document.canonical_of_value`).
-/

namespace Switchboard

namespace Json

theorem documentMembers_eq_map (members : List (String × Json)) :
    documentMembers members = members.map fun m => (m.1, m.2.document) := by
  induction members with
  | nil => rfl
  | cons m rest ih => simp [documentMembers, ih]

theorem canonicalItems_iff {items : List Json} :
    CanonicalItems items ↔ ∀ j ∈ items, j.Canonical := by
  induction items with
  | nil => simp [CanonicalItems]
  | cons j rest ih => simp [CanonicalItems, ih]

theorem canonicalMembers_iff {members : List (String × Json)} :
    CanonicalMembers members ↔ ∀ m ∈ members, m.2.Canonical := by
  induction members with
  | nil => simp [CanonicalMembers]
  | cons m rest ih => simp [CanonicalMembers, ih]

/-- The members of a record. -/
def recorded (members : List (String × Option Json)) : List (String × Json) :=
  Members.ofList (members.filterMap fun (k, v) => v.map (k, ·))

theorem document_record (members : List (String × Option Json)) :
    (record members).document = .obj (documentMembers (recorded members)) :=
  rfl

theorem ordered_recorded (members : List (String × Option Json)) :
    Members.Ordered (recorded members) :=
  Members.ordered_ofList _

theorem lookup_recorded {members : List (String × Option Json)}
    (h : (members.map Prod.fst).Nodup) (key : String) :
    Members.lookup key (recorded members) = (Members.lookup key members).join :=
  (Members.lookup_ofList (Members.nodup_present h)).trans (Members.lookup_present h)

theorem member?_record {members : List (String × Option Json)}
    (h : (members.map Prod.fst).Nodup) (key : String) :
    (record members).member? key = (Members.lookup key members).join :=
  lookup_recorded h key

theorem filter_recorded {members : List (String × Option Json)}
    (h : (members.map Prod.fst).Nodup) (keep : String → Bool) :
    (recorded members).filter (fun m => keep m.1) =
      recorded (members.filter fun m => keep m.1) := by
  have hkept : ((members.filter fun m => keep m.1).map Prod.fst).Nodup :=
    h.sublist (List.filter_sublist.map _)
  refine ((ordered_recorded members).filter _).ext (ordered_recorded _) fun key => ?_
  rw [Members.lookup_filter, lookup_recorded h, lookup_recorded hkept, Members.lookup_filter]
  split_ifs <;> rfl

theorem canonical_mkObj {members : List (String × Json)} (h : ∀ m ∈ members, m.2.Canonical) :
    (mkObj members).Canonical :=
  ⟨Members.ordered_ofList members,
    canonicalMembers_iff.2 fun m hm => h m (Members.mem_of_mem_ofList hm)⟩

theorem canonical_record {members : List (String × Option Json)}
    (h : ∀ m ∈ members, ∀ j ∈ m.2, j.Canonical) : (record members).Canonical := by
  refine canonical_mkObj fun m hm => ?_
  obtain ⟨⟨k, v⟩, hmem, hv⟩ := List.mem_filterMap.1 hm
  obtain ⟨j, rfl, rfl⟩ := Option.map_eq_some_iff.1 hv
  exact h _ hmem j rfl

theorem canonical_arr_map {α : Type} {encode : α → Json} {xs : List α}
    (h : ∀ x ∈ xs, (encode x).Canonical) : (arr (xs.map encode)).Canonical :=
  canonicalItems_iff.2 fun j hj => by
    obtain ⟨x, hx, rfl⟩ := List.mem_map.1 hj
    exact h x hx

theorem canonical_strings (items : List String) : (strings items).Canonical :=
  canonical_arr_map fun _ _ => trivial

mutual

theorem value_document : ∀ {j : Json}, j.Canonical → j.document.value = .ok j
  | null, _ | bool _, _ | num _, _ | str _, _ => rfl
  | arr items, h => by
    simp only [document, Document.value, bind_eq_ok_iff]
    exact ⟨items, value_documentItems h, rfl⟩
  | obj members, h => by
    obtain ⟨hordered, hmembers⟩ := h
    simp only [document, Document.value, bind_eq_ok_iff]
    refine ⟨members, value_documentMembers hmembers, ?_⟩
    rw [mkObj, Members.ofList_of_ordered hordered]
    rfl

theorem value_documentItems : ∀ {items : List Json}, CanonicalItems items →
    Document.valueItems (documentItems items) = .ok items
  | [], _ => rfl
  | j :: rest, h => by
    simp only [documentItems, Document.valueItems, bind_eq_ok_iff]
    exact ⟨j, value_document h.1, rest, value_documentItems h.2, rfl⟩

theorem value_documentMembers : ∀ {members : List (String × Json)}, CanonicalMembers members →
    Document.valueMembers (documentMembers members) = .ok members
  | [], _ => rfl
  | (k, j) :: rest, h => by
    simp only [documentMembers, Document.valueMembers, bind_eq_ok_iff]
    exact ⟨j, value_document h.1, rest, value_documentMembers h.2, rfl⟩

end

end Json

namespace Document

mutual

theorem canonical_of_value : ∀ {d : Document} {j : Json}, d.value = .ok j → j.Canonical
  | null, _, h | bool _, _, h | num _, _, h | str _, _, h => by
    obtain rfl := Except.ok.inj h
    trivial
  | valueless, _, h | keyless _, _, h | broken, _, h => by simp [value] at h
  | arr items, j, h => by
    simp only [value, bind_eq_ok_iff] at h
    obtain ⟨values, hvalues, h⟩ := h
    obtain rfl := Except.ok.inj h
    exact canonical_of_valueItems hvalues
  | obj members, j, h => by
    simp only [value, bind_eq_ok_iff] at h
    obtain ⟨values, hvalues, h⟩ := h
    obtain rfl := Except.ok.inj h
    exact Json.canonical_mkObj (Json.canonicalMembers_iff.1 (canonical_of_valueMembers hvalues))

theorem canonical_of_valueItems : ∀ {items : List Document} {values : List Json},
    valueItems items = .ok values → Json.CanonicalItems values
  | [], _, h => by
    obtain rfl := Except.ok.inj h
    trivial
  | d :: rest, _, h => by
    simp only [valueItems, bind_eq_ok_iff] at h
    obtain ⟨j, hj, values, hvalues, h⟩ := h
    obtain rfl := Except.ok.inj h
    exact ⟨canonical_of_value hj, canonical_of_valueItems hvalues⟩

theorem canonical_of_valueMembers : ∀ {members : List (String × Document)}
    {values : List (String × Json)}, valueMembers members = .ok values →
      Json.CanonicalMembers values
  | [], _, h => by
    obtain rfl := Except.ok.inj h
    trivial
  | (k, d) :: rest, _, h => by
    simp only [valueMembers, bind_eq_ok_iff] at h
    obtain ⟨j, hj, values, hvalues, h⟩ := h
    obtain rfl := Except.ok.inj h
    exact ⟨canonical_of_value hj, canonical_of_valueMembers hvalues⟩

end

theorem held_document {j : Json} (h : j.Canonical) : j.document.held = .ok j.document := by
  rw [held, Json.value_document h]
  rfl

end Document

end Switchboard
