import Switchboard.Dialect.Collapse
import Switchboard.Proofs.Json.Written

/-!
# Objects that are rewritten

What stands under a key of an object may be set, changed, or left out; the other keys keep what they
stand for. Objects whose members are in order are the same if they hold the same
(`Json.Sorted.ext`), so what several rewrites come to is known key by key.
-/

namespace Switchboard

namespace Json

variable {i j v w : Json} {key k : String} {f g : Json → Json}

/-- The members of an object are in order, whatever they hold. -/
def InOrder : Json → Prop
  | obj members => Members.Ordered members
  | _ => True

theorem inOrder_record (members : List (String × Option Json)) : (record members).InOrder :=
  ordered_recorded members

section Insert

theorem member?_insert_of_ne (h : key ≠ k) : (j.insert key v).member? k = j.member? k := by
  cases j with
  | obj members => exact Members.lookup_insert.trans (if_neg h)
  | _ => rfl

theorem member?_insert_self (h : j.member? key = some w) :
    (j.insert key v).member? key = some v := by
  cases j with
  | obj members => exact Members.lookup_insert.trans (if_pos rfl)
  | _ => cases h

theorem insert_insert : (j.insert key w).insert key v = j.insert key v := by
  cases j with
  | obj members => exact congrArg obj Members.insert_insert
  | _ => rfl

/-- What an object in order holds already changes nothing when it is inserted. -/
theorem insert_of_member? (h : j.InOrder) (hv : j.member? key = some v) : j.insert key v = j := by
  cases j with
  | obj members => exact congrArg obj (Members.Ordered.insert_of_lookup h hv)
  | _ => rfl

theorem modify_of_member? (h : j.member? key = some v) : j.modify key f = j.insert key (f v) := by
  rw [modify, h]

theorem modify_of_none (h : j.member? key = none) : j.modify key f = j := by
  rw [modify, h]

theorem member?_modify_of_ne (h : key ≠ k) : (j.modify key f).member? k = j.member? k := by
  unfold modify
  split
  · exact member?_insert_of_ne h
  · rfl

theorem modify_modify : (j.modify key g).modify key f = j.modify key (f ∘ g) := by
  cases hv : j.member? key with
  | none => rw [modify_of_none hv, modify_of_none hv, modify_of_none hv]
  | some v =>
    rw [modify_of_member? hv, modify_of_member? (member?_insert_self hv), insert_insert,
      modify_of_member? hv]
    rfl

theorem modify_id (h : j.InOrder) (hf : ∀ v, j.member? key = some v → f v = v) :
    j.modify key f = j := by
  cases hv : j.member? key with
  | none => exact modify_of_none hv
  | some v => rw [modify_of_member? hv, hf v hv, insert_of_member? h hv]

theorem mapItems_mapItems : (j.mapItems g).mapItems f = j.mapItems (f ∘ g) := by
  cases j with
  | arr items => simp [mapItems]
  | _ => rfl

end Insert

/-- The object without `key`. -/
def erase (key : String) : Json → Json
  | obj members => obj (members.filter fun m => m.1 != key)
  | j => j

/-- The object without `key` if that stands for `value`. -/
def dismiss (j : Json) (key : String) (value : Json) : Json :=
  if j.member? key = some value then j.erase key else j

/-- The object with `value` under `key` if nothing stands there. -/
def provide (j : Json) (key : String) (value : Json) : Json :=
  if j.member? key = none then j.insert key value else j

/-- The object with each thing in it changed by `f`. -/
def mapMembers (f : Json → Json) : Json → Json
  | obj members => obj (members.map fun m => (m.1, f m.2))
  | j => j

/-- An object whose members are in order. -/
def Sorted (j : Json) : Prop := ∃ members, j = obj members ∧ Members.Ordered members

section Sorted

theorem sorted_mkObj (members : List (String × Json)) : (mkObj members).Sorted :=
  ⟨_, rfl, Members.ordered_ofList members⟩

/-- Objects in order are the same if they hold the same. -/
theorem Sorted.ext (hi : i.Sorted) (hj : j.Sorted) (h : ∀ key, i.member? key = j.member? key) :
    i = j := by
  obtain ⟨members, rfl, hmembers⟩ := hi
  obtain ⟨more, rfl, hmore⟩ := hj
  exact congrArg obj (hmembers.ext hmore h)

theorem Sorted.insert (h : j.Sorted) : (j.insert key v).Sorted := by
  obtain ⟨members, rfl, hmembers⟩ := h
  exact ⟨_, rfl, hmembers.insert⟩

theorem Sorted.modify (h : j.Sorted) : (j.modify key f).Sorted := by
  unfold Json.modify
  split
  · exact h.insert
  · exact h

theorem Sorted.provide (h : j.Sorted) : (j.provide key v).Sorted := by
  unfold Json.provide
  split_ifs
  · exact h.insert
  · exact h

theorem Sorted.dismiss (h : j.Sorted) : (j.dismiss key v).Sorted := by
  unfold Json.dismiss
  split_ifs
  · obtain ⟨members, rfl, hmembers⟩ := h
    exact ⟨_, rfl, hmembers.filter _⟩
  · exact h

theorem Sorted.member?_insert (h : j.Sorted) :
    (j.insert key v).member? k = if key = k then some v else j.member? k := by
  obtain ⟨members, rfl, -⟩ := h
  exact Members.lookup_insert

theorem Sorted.member?_modify (h : j.Sorted) : (j.modify key f).member? k =
    if key = k then (j.member? key).map f else j.member? k := by
  unfold Json.modify
  cases hv : j.member? key with
  | none =>
    split_ifs with hk
    · rw [← hk, hv, Option.map_none]
    · rfl
  | some v => rw [h.member?_insert, Option.map_some]

theorem Sorted.member?_provide (h : j.Sorted) : (j.provide key v).member? k =
    if key = k then some ((j.member? key).getD v) else j.member? k := by
  unfold Json.provide
  split_ifs with hnone hk hk
  · rw [h.member?_insert, if_pos hk, hnone, Option.getD_none]
  · rw [h.member?_insert, if_neg hk]
  · obtain ⟨w, hw⟩ := Option.ne_none_iff_exists'.1 hnone
    rw [← hk, hw, Option.getD_some]
  · rfl

theorem Sorted.modify_modify_of_ne (h : j.Sorted) (hk : key ≠ k) :
    (j.modify key f).modify k g = (j.modify k g).modify key f := by
  refine h.modify.modify.ext h.modify.modify fun l => ?_
  rw [h.modify.member?_modify, h.modify.member?_modify, h.member?_modify, h.member?_modify,
    h.member?_modify, h.member?_modify, if_neg hk, if_neg hk.symm]
  split_ifs with hkey hother
  · exact absurd (hother.trans hkey.symm) hk
  all_goals rfl

theorem sorted_record (members : List (String × Option Json)) : (record members).Sorted :=
  ⟨_, rfl, ordered_recorded members⟩

/-- What is under a key of a record is changed where the record is written. -/
theorem modify_record {members : List (String × Option Json)} (h : (members.map Prod.fst).Nodup) :
    (record members).modify key f =
      record (members.map fun m => (m.1, if m.1 = key then m.2.map f else m.2)) := by
  have hkeys : ((members.map fun m => (m.1, if m.1 = key then m.2.map f else m.2)).map
      Prod.fst).Nodup := by
    rwa [List.map_map]
  refine (sorted_record members).modify.ext (sorted_record _) fun k => ?_
  rw [(sorted_record members).member?_modify, member?_record h, member?_record h,
    member?_record hkeys, Members.lookup_map fun name (value : Option Json) =>
      if name = key then value.map f else value]
  by_cases hk : key = k
  · subst hk
    rw [if_pos rfl]
    cases Members.lookup key members <;> simp
  · rw [if_neg hk]
    cases Members.lookup k members <;> simp [Ne.symm hk]

theorem member?_erase : (j.erase key).member? k = if key = k then none else j.member? k := by
  cases j with
  | obj members =>
    rw [erase, member?, Members.lookup_filter (· != key)]
    by_cases hk : key = k
    · simp [hk]
    · simp [hk, Ne.symm hk, member?]
  | _ => split_ifs <;> rfl

theorem member?_dismiss : (j.dismiss key v).member? k =
    if key = k then (j.member? key).filter (· ≠ v) else j.member? k := by
  unfold dismiss
  by_cases hk : key = k
  · subst hk
    cases hw : j.member? key with
    | none => simp [hw]
    | some w => by_cases hwv : w = v <;> simp [hw, hwv, member?_erase, Option.filter]
  · split_ifs <;> simp [hk, member?_erase]

theorem member?_mapMembers : (j.mapMembers f).member? k = (j.member? k).map f := by
  cases j with
  | obj members => exact Members.lookup_map fun _ => f
  | _ => rfl

theorem exists_of_member?_get (h : (j.get key).member? k = some v) :
    ∃ inner, j.member? key = some inner ∧ inner.member? k = some v := by
  rw [get] at h
  cases hinner : j.member? key with
  | none =>
    rw [hinner] at h
    cases h
  | some inner => exact ⟨inner, rfl, by rwa [hinner] at h⟩

end Sorted

end Json

end Switchboard
