import Mathlib.Data.List.Induction
import Mathlib.Data.List.Nodup
import Switchboard.Members

/-!
# What members stand for

Members in order are known by what each key stands for (`Members.Ordered.ext`). Inserting changes
that for one key and keeps the order, so members are put in order without a change to what their
keys stand for, as long as none of these comes twice (`Members.lookup_ofList`), and in whatever
order those of different keys are inserted (`Members.insert_comm`).
-/

namespace Switchboard

namespace Members

variable {α β : Type} {members more : List (String × α)} {m : String × α} {key k : String}
  {value v : α}

theorem lookup_insert : lookup k (insert key value members) =
    if key = k then some value else lookup k members := by
  induction members with
  | nil => rfl
  | cons m rest ih =>
    rw [insert]
    by_cases hlt : key < m.1
    · rw [if_pos hlt]
      rfl
    rw [if_neg hlt]
    by_cases heq : key = m.1
    · by_cases hk : key = k <;> simp [lookup, ← heq, hk]
    · rw [if_neg heq, lookup, lookup, ih]
      by_cases hm : m.1 = k
      · have hk : key ≠ k := fun hk => heq (hk.trans hm.symm)
        rw [if_pos hm, if_pos hm, if_neg hk]
      · rw [if_neg hm, if_neg hm]

theorem lookup_append : lookup k (members ++ more) = (lookup k members <|> lookup k more) := by
  induction members with
  | nil => simp [lookup]
  | cons m rest ih =>
    obtain ⟨l, v⟩ := m
    by_cases h : l = k <;> simp [lookup, h, ih]

theorem mem_keys_iff : k ∈ members.map Prod.fst ↔ (lookup k members).isSome := by
  induction members with
  | nil => simp [lookup]
  | cons m rest ih =>
    rw [List.map_cons, List.mem_cons, lookup, ih]
    by_cases hk : m.1 = k
    · simp [hk]
    · simp [hk, Ne.symm hk]

theorem lookup_eq_none (h : k ∉ members.map Prod.fst) : lookup k members = none := by
  rwa [mem_keys_iff, Option.not_isSome_iff_eq_none] at h

theorem mem_of_lookup (h : lookup k members = some v) : (k, v) ∈ members := by
  induction members with
  | nil => simp [lookup] at h
  | cons m rest ih =>
    rw [lookup] at h
    split_ifs at h with hk
    · obtain rfl := Option.some.inj h
      simp [← hk]
    · exact List.mem_cons_of_mem _ (ih h)

theorem lookup_of_mem (hkeys : (members.map Prod.fst).Nodup) (h : (k, v) ∈ members) :
    lookup k members = some v := by
  induction members with
  | nil => simp at h
  | cons m rest ih =>
    obtain ⟨hm, hrest⟩ := List.nodup_cons.1 hkeys
    rcases List.mem_cons.1 h with rfl | h
    · simp [lookup]
    · have hne : m.1 ≠ k := fun heq => hm (heq ▸ List.mem_map_of_mem h)
      simp [lookup, hne, ih hrest h]

theorem ordered_cons : Ordered (m :: members) ↔ (∀ l ∈ members, m.1 < l.1) ∧ Ordered members :=
  List.pairwise_cons

theorem Ordered.nodup (h : Ordered members) : (members.map Prod.fst).Nodup :=
  List.pairwise_map.2 (h.imp fun {a b} hlt (heq : a.1 = b.1) => String.lt_irrefl b.1 (heq ▸ hlt))

theorem Ordered.filter (h : Ordered members) (p : String × α → Bool) :
    Ordered (members.filter p) :=
  List.Pairwise.filter p h

theorem Ordered.map (h : Ordered members) (f : String × α → β) :
    Ordered (members.map fun m => (m.1, f m)) :=
  List.pairwise_map.2 h

theorem mem_of_mem_insert (h : m ∈ insert key value members) : m = (key, value) ∨ m ∈ members := by
  induction members with
  | nil => exact .inl (List.mem_singleton.1 h)
  | cons l rest ih =>
    rw [insert] at h
    split_ifs at h with hlt heq
    · simpa using h
    · rcases List.mem_cons.1 h with h | h
      · exact .inl h
      · exact .inr (List.mem_cons_of_mem _ h)
    · rcases List.mem_cons.1 h with h | h
      · exact .inr (by simp [h])
      · exact (ih h).imp_right (List.mem_cons_of_mem _)

theorem Ordered.insert (h : Ordered members) : Ordered (insert key value members) := by
  induction members with
  | nil => exact List.pairwise_singleton _ _
  | cons l rest ih =>
    obtain ⟨hfirst, hrest⟩ := ordered_cons.1 h
    rw [Members.insert]
    split_ifs with hlt heq
    · refine ordered_cons.2 ⟨fun m hm => ?_, h⟩
      rcases List.mem_cons.1 hm with rfl | hm
      · exact hlt
      · exact String.lt_trans hlt (hfirst m hm)
    · exact ordered_cons.2 ⟨heq ▸ hfirst, hrest⟩
    · refine ordered_cons.2 ⟨fun m hm => ?_, ih hrest⟩
      rcases mem_of_mem_insert hm with rfl | hm
      · rcases Std.Trichotomous.rel_or_eq_or_rel_swap (r := fun a b : String => a < b)
          (a := key) (b := l.1) with h | h | h
        · exact absurd h hlt
        · exact absurd h heq
        · exact h
      · exact hfirst m hm

theorem ofList_snoc (members : List (String × α)) (m : String × α) :
    ofList (members ++ [m]) = insert m.1 m.2 (ofList members) := by
  simp [ofList]

theorem ordered_ofList (members : List (String × α)) : Ordered (ofList members) := by
  induction members using List.reverseRecOn with
  | nil => exact List.Pairwise.nil
  | append_singleton members m ih =>
    rw [ofList_snoc]
    exact ih.insert

theorem mem_of_mem_ofList (h : m ∈ ofList members) : m ∈ members := by
  induction members using List.reverseRecOn with
  | nil => exact h
  | append_singleton members l ih =>
    rw [ofList_snoc] at h
    rcases mem_of_mem_insert h with rfl | h
    · exact List.mem_append_right _ (List.mem_singleton_self _)
    · exact List.mem_append_left _ (ih h)

/-- Putting members in order leaves what their keys stand for. -/
theorem lookup_ofList (h : (members.map Prod.fst).Nodup) :
    lookup k (ofList members) = lookup k members := by
  induction members using List.reverseRecOn with
  | nil => rfl
  | append_singleton members m ih =>
    rw [List.map_append, List.nodup_append] at h
    obtain ⟨hmembers, -, hdisjoint⟩ := h
    rw [ofList_snoc, lookup_insert, lookup_append, ih hmembers]
    by_cases hk : m.1 = k
    · have hnone : lookup k members = none :=
        lookup_eq_none fun hmem => hdisjoint k hmem m.1 (by simp) hk.symm
      simp [lookup, hk, hnone]
    · simp [lookup, hk]

theorem Ordered.mem_iff (h : Ordered members) : (k, v) ∈ members ↔ lookup k members = some v :=
  ⟨lookup_of_mem h.nodup, mem_of_lookup⟩

/-- Members in order are the same if their keys stand for the same. -/
theorem Ordered.ext (h : Ordered members) (h' : Ordered more)
    (hsame : ∀ k, lookup k members = lookup k more) : members = more := by
  refine List.Perm.eq_of_pairwise (fun a b _ _ hab hba => ?_) h h' ?_
  · exact absurd (String.lt_trans hab hba) (String.lt_irrefl _)
  · refine (List.perm_ext_iff_of_nodup h.nodup.of_map h'.nodup.of_map).2 fun ⟨k, v⟩ => ?_
    rw [h.mem_iff, h'.mem_iff, hsame]

theorem ofList_of_ordered (h : Ordered members) : ofList members = members :=
  (ordered_ofList members).ext h fun _ => lookup_ofList h.nodup

theorem lookup_filter (keep : String → Bool) :
    lookup k (members.filter fun m => keep m.1) = if keep k then lookup k members else none := by
  induction members with
  | nil => simp [lookup]
  | cons m rest ih =>
    by_cases hk : m.1 = k
    · subst hk
      by_cases hkeep : keep m.1 = true
      · simp [lookup, hkeep]
      · simp [hkeep, ih]
    · by_cases hkeep : keep m.1 = true <;> simp [lookup, hkeep, hk, ih]

theorem lookup_map (f : String → α → β) :
    lookup k (members.map fun m => (m.1, f m.1 m.2)) = (lookup k members).map (f k) := by
  induction members with
  | nil => rfl
  | cons m rest ih =>
    by_cases hk : m.1 = k
    · subst hk
      simp [lookup]
    · simp [lookup, hk, ih]

/-- Under one key there stands one thing. -/
theorem Ordered.filter_key (h : Ordered members) (key : String) :
    members.filter (fun m => m.1 == key) = ((lookup key members).map (key, ·)).toList := by
  refine (h.filter _).ext ?_ fun k => ?_
  · cases lookup key members <;> simp [Ordered]
  · rw [lookup_filter (· == key)]
    by_cases hk : k = key
    · subst hk
      cases lookup k members <;> simp [lookup]
    · cases lookup key members <;> simp [lookup, hk, Ne.symm hk]

/-- Of members with one key the last counts. -/
theorem lookup_ofList_reverse (members : List (String × α)) :
    lookup k (ofList members) = lookup k members.reverse := by
  induction members using List.reverseRecOn with
  | nil => rfl
  | append_singleton members m ih =>
    rw [ofList_snoc, lookup_insert, ih, List.reverse_append]
    rfl

theorem ofList_filter (keep : String → Bool) :
    ofList (members.filter fun m => keep m.1) = (ofList members).filter fun m => keep m.1 := by
  refine (ordered_ofList _).ext ((ordered_ofList members).filter _) fun k => ?_
  rw [lookup_filter, lookup_ofList_reverse, lookup_ofList_reverse, ← List.filter_reverse,
    lookup_filter]

theorem ofList_map (f : α → β) :
    ofList (members.map fun m => (m.1, f m.2)) = (ofList members).map fun m => (m.1, f m.2) := by
  refine (ordered_ofList _).ext ((ordered_ofList members).map fun m => f m.2) fun k => ?_
  rw [lookup_map fun _ => f, lookup_ofList_reverse, lookup_ofList_reverse, ← List.map_reverse,
    lookup_map fun _ => f]

theorem nodup_present {members : List (String × Option α)} (h : (members.map Prod.fst).Nodup) :
    ((members.filterMap fun m => m.2.map (m.1, ·)).map Prod.fst).Nodup := by
  induction members with
  | nil => exact List.nodup_nil
  | cons m rest ih =>
    obtain ⟨hm, hrest⟩ := List.nodup_cons.1 h
    obtain ⟨l, _ | v⟩ := m
    · exact ih hrest
    · refine List.nodup_cons.2 ⟨fun hmem => hm ?_, ih hrest⟩
      obtain ⟨p, hp, hl⟩ := List.mem_map.1 hmem
      obtain ⟨⟨k, w⟩, hkw, hw⟩ := List.mem_filterMap.1 hp
      obtain ⟨j, rfl, rfl⟩ := Option.map_eq_some_iff.1 hw
      exact List.mem_map.2 ⟨_, hkw, hl⟩

/-- Of members that may be absent, those that are there. -/
theorem lookup_present {members : List (String × Option α)} (h : (members.map Prod.fst).Nodup) :
    lookup k (members.filterMap fun m => m.2.map (m.1, ·)) = (lookup k members).join := by
  induction members with
  | nil => rfl
  | cons m rest ih =>
    obtain ⟨hm, hrest⟩ := List.nodup_cons.1 h
    obtain ⟨l, _ | v⟩ := m
    · by_cases hk : l = k
      · subst hk
        simp [lookup, ih hrest, lookup_eq_none hm]
      · simp [lookup, hk, ih hrest]
    · by_cases hk : l = k
      · simp [lookup, hk]
      · simp [lookup, hk, ih hrest]

theorem insert_comm_of_lt {l : String} {w : α} (h : key < l) :
    insert key value (insert l w members) = insert l w (insert key value members) := by
  have hne : l ≠ key := fun heq => String.lt_irrefl l (by rw [heq] at h ⊢; exact h)
  have hnot : ¬l < key := fun hlt => String.lt_irrefl l (String.lt_trans hlt h)
  induction members with
  | nil => simp [insert, h, hne, hnot]
  | cons m rest ih =>
    obtain ⟨k, v⟩ := m
    by_cases hlk : l < k
    · simp [insert, hlk, String.lt_trans h hlk, hne, hnot, h]
    · by_cases heq : l = k
      · subst heq
        simp [insert, h, hne, hnot]
      · by_cases hkk : key < k
        · simp [insert, hlk, heq, hkk, hne, hnot]
        · by_cases hkeq : key = k
          · subst hkeq
            simp [insert, hlk, heq]
          · simp [insert, hlk, heq, hkk, hkeq, ih]

/-- Members of different keys are inserted in either order. -/
theorem insert_comm {l : String} {w : α} (h : key ≠ l) :
    insert key value (insert l w members) = insert l w (insert key value members) := by
  rcases Std.Trichotomous.rel_or_eq_or_rel_swap (r := fun a b : String => a < b)
    (a := key) (b := l) with hlt | heq | hlt
  · exact insert_comm_of_lt hlt
  · exact absurd heq h
  · exact (insert_comm_of_lt hlt).symm

theorem insert_insert {w : α} :
    insert key value (insert key w members) = insert key value members := by
  induction members with
  | nil => simp [insert]
  | cons m rest ih =>
    obtain ⟨k, v⟩ := m
    by_cases hlt : key < k
    · simp [insert, hlt]
    · by_cases heq : key = k
      · subst heq
        simp [insert]
      · simp [insert, hlt, heq, ih]

theorem Ordered.insert_of_lookup (h : Ordered members) (hv : lookup key members = some value) :
    Members.insert key value members = members :=
  h.insert.ext h fun k => by
    rw [lookup_insert]
    split_ifs with hk
    · rw [← hk, hv]
    · rfl

/-- A member whose key comes no more counts wherever it stands. -/
theorem ofList_middle (h : key ∉ more.map Prod.fst) :
    ofList (members ++ (key, value) :: more) = insert key value (ofList (members ++ more)) := by
  induction more using List.reverseRecOn with
  | nil => rw [List.append_nil, ofList_snoc]
  | append_singleton more m ih =>
    rw [List.map_append, List.mem_append, not_or] at h
    have hne : m.1 ≠ key := fun heq => h.2 (by simp [heq])
    rw [← List.cons_append, ← List.append_assoc, ofList_snoc, ih h.1, ← List.append_assoc,
      ofList_snoc, insert_comm hne]

end Members

end Switchboard
