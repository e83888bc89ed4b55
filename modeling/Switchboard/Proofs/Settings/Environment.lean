import Switchboard.Proofs.Json.Members
import Switchboard.Settings.Environment

/-!
# Variables that keep apart

Two paths part if they go by different names into one table (`Environment.Apart`). What is stored at
their ends is then stored in either order (`Environment.insertAt_comm`), so a variable whose path
parts from those of all others can be stored last (`Environment.store_middle`). Until then nothing
stands in its way (`Environment.Clear`).
-/

namespace Switchboard

namespace SettingValue

/-- What a table holds; nothing, if it is none. -/
def held (s : SettingValue) : List (String × SettingValue) := s.table?.getD []

@[simp]
theorem held_table (entries : List (String × SettingValue)) : (table entries).held = entries := rfl

end SettingValue

namespace Environment

/-- Two paths part: they go through the same tables up to one that they leave by different names. -/
def Apart : List Step → List Step → Prop
  | .name a :: p, .name b :: q => a ≠ b ∨ Apart p q
  | _, _ => False

instance decidableApart : ∀ p q : List Step, Decidable (Apart p q)
  | .name a :: p, .name b :: q =>
    have := decidableApart p q
    inferInstanceAs (Decidable (a ≠ b ∨ Apart p q))
  | [], _ | .place _ :: _, _ | .name _ :: _, [] | .name _ :: _, .place _ :: _ => isFalse id

variable {p q : List Step} {v w s t : SettingValue} {a b : String}

theorem not_apart_self : ∀ {p : List Step}, ¬Apart p p
  | [] => id
  | .place _ :: _ => id
  | .name _ :: _ => fun h => h.elim (fun hne => hne rfl) not_apart_self

@[simp]
theorem insertAt_nil (v s : SettingValue) : insertAt v [] s = some v := rfl

theorem insertAt_name (a : String) (p : List Step) (v s : SettingValue) :
    insertAt v (.name a :: p) s = (insertAt v p ((Members.lookup a s.held).getD .nil)).map
      fun inner => .table (Members.insert a inner s.held) := by
  rw [insertAt, SettingValue.held]
  cases insertAt v p ((Members.lookup a (s.table?.getD [])).getD .nil) <;> rfl

/-- What is stored twice under one name is stored under it once. -/
theorem insertAt_bind_same (a : String) (p q : List Step) (v w s : SettingValue) :
    (insertAt v (.name a :: p) s).bind (insertAt w (.name a :: q)) =
      ((insertAt v p ((Members.lookup a s.held).getD .nil)).bind (insertAt w q)).map
        fun inner => .table (Members.insert a inner s.held) := by
  rw [insertAt_name]
  rcases insertAt v p ((Members.lookup a s.held).getD .nil) with _ | inner
  · rfl
  · rw [Option.map_some, Option.bind_some, Option.bind_some, insertAt_name]
    simp [Members.lookup_insert, Members.insert_insert]

/-- What is stored under different names is stored under each. -/
theorem insertAt_bind_of_ne (h : a ≠ b) (p q : List Step) (v w s : SettingValue) :
    (insertAt v (.name a :: p) s).bind (insertAt w (.name b :: q)) =
      (insertAt v p ((Members.lookup a s.held).getD .nil)).bind fun x =>
        (insertAt w q ((Members.lookup b s.held).getD .nil)).map fun y =>
          .table (Members.insert b y (Members.insert a x s.held)) := by
  rw [insertAt_name]
  rcases insertAt v p ((Members.lookup a s.held).getD .nil) with _ | x
  · rfl
  · rw [Option.map_some, Option.bind_some, Option.bind_some, insertAt_name]
    simp [Members.lookup_insert, h]

/-- What is stored along paths that part is stored in either order. -/
theorem insertAt_comm : ∀ {p q : List Step}, Apart p q → ∀ s : SettingValue,
    (insertAt v p s).bind (insertAt w q) = (insertAt w q s).bind (insertAt v p)
  | .name a :: p, .name b :: q, h, s => by
    by_cases hab : a = b
    · subst hab
      have hrest : Apart p q := h.resolve_left (not_not.2 rfl)
      rw [insertAt_bind_same, insertAt_bind_same, insertAt_comm hrest]
    · rw [insertAt_bind_of_ne hab, insertAt_bind_of_ne (Ne.symm hab)]
      cases insertAt v p ((Members.lookup a s.held).getD .nil) <;>
        cases insertAt w q ((Members.lookup b s.held).getD .nil) <;>
        simp [Members.insert_comm hab]

/-! ## One variable among others -/

/-- The path of a variable parts from those of others. -/
def KeepsApart (p : List Step) (others : List (String × String)) : Prop :=
  ∀ m ∈ others, ∀ q ∈ pathOf? m.1, Apart p q

instance (p : List Step) (others : List (String × String)) : Decidable (KeepsApart p others) :=
  inferInstanceAs (Decidable (∀ m ∈ others, ∀ q ∈ pathOf? m.1, Apart p q))

variable {name text : String} {before after assigned : List (String × String)}

theorem store_cons (stored : SettingValue) (m : String × String) (rest : List (String × String)) :
    store stored (m :: rest) = (match pathOf? m.1 with
      | some path => insertAt (.ofText m.2) path stored
      | none => some stored).bind fun next => store next rest := by
  obtain ⟨name, text⟩ := m
  rw [store]
  cases pathOf? name <;> rfl

/-- What parts from all that is stored may be stored before it or after it. -/
theorem insertAt_store (h : KeepsApart p assigned) : ∀ s : SettingValue,
    (insertAt v p s).bind (store · assigned) = (store s assigned).bind (insertAt v p) := by
  induction assigned with
  | nil => exact fun s => by simp [store]
  | cons m rest ih =>
    intro s
    obtain ⟨hm, hrest⟩ := List.forall_mem_cons.1 h
    simp only [store_cons]
    rcases hpath : pathOf? m.1 with _ | q
    · exact ih hrest s
    · calc (insertAt v p s).bind (fun x => (insertAt (.ofText m.2) q x).bind (store · rest))
          = ((insertAt v p s).bind (insertAt (.ofText m.2) q)).bind (store · rest) := by
            rw [Option.bind_assoc]
        _ = (insertAt (.ofText m.2) q s).bind fun x => (insertAt v p x).bind (store · rest) := by
            rw [insertAt_comm (hm q hpath), Option.bind_assoc]
        _ = ((insertAt (.ofText m.2) q s).bind (store · rest)).bind (insertAt v p) := by
            simp only [ih hrest, Option.bind_assoc]

/-- A variable whose path parts from those of all others may be stored last. -/
theorem store_insert (hname : pathOf? name = some p) (h : KeepsApart p assigned) :
    ∀ s : SettingValue, store s (Members.insert name text assigned) =
      (store s assigned).bind (insertAt (.ofText text) p) := by
  induction assigned with
  | nil => exact fun s => by simp [Members.insert, store_cons, store, hname]
  | cons m rest ih =>
    intro s
    obtain ⟨hm, hrest⟩ := List.forall_mem_cons.1 h
    rw [Members.insert]
    split_ifs with hlt heq
    · rw [store_cons, hname]
      exact insertAt_store h s
    · exact absurd (hm p (heq ▸ hname)) not_apart_self
    · simp only [store_cons, ih hrest, Option.bind_assoc]

theorem KeepsApart.ofList (h : KeepsApart p assigned) : KeepsApart p (Members.ofList assigned) :=
  fun m hm => h m (Members.mem_of_mem_ofList hm)

theorem store_middle (hname : pathOf? name = some p) (h : KeepsApart p (before ++ after)) :
    ∀ s : SettingValue, store s (Members.ofList (before ++ (name, text) :: after)) =
      (store s (Members.ofList (before ++ after))).bind (insertAt (.ofText text) p) := by
  have hkey : name ∉ after.map Prod.fst := fun hmem => by
    obtain ⟨m, hm, rfl⟩ := List.mem_map.1 hmem
    exact not_apart_self (h m (List.mem_append_right before hm) p hname)
  intro s
  rw [Members.ofList_middle hkey, store_insert hname h.ofList]

/-! ## What stands in the way of a path -/

/-- Nothing stands in the way of a path, nor at its end: as far as it goes it goes through tables,
and what it leads to is not there. -/
def Clear : List Step → Option SettingValue → Prop
  | _, none => True
  | .name a :: p, some (.table entries) => Clear p (Members.lookup a entries)
  | _, some _ => False

theorem clear_none : ∀ p : List Step, Clear p none
  | [] | .name _ :: _ | .place _ :: _ => trivial

theorem Clear.eq_none {stored : Option SettingValue} (h : Clear [] stored) : stored = none := by
  rcases stored with _ | s
  · rfl
  · cases s <;> exact h.elim

/-- What is clear all the way is clear one step further. -/
theorem Clear.lookup {stored : Option SettingValue} (h : Clear (.name a :: p) stored) :
    Clear p (Members.lookup a (stored.getD .nil).held) := by
  rcases stored with _ | s
  · exact clear_none p
  · cases s <;> first | exact h | exact h.elim

/-- What is stored along one path leaves those that part from it clear. -/
theorem clear_insertAt : ∀ {p q : List Step} {stored : Option SettingValue} {t : SettingValue},
    Apart p q → Clear p stored → insertAt w q (stored.getD .nil) = some t → Clear p (some t)
  | .name a :: p, .name b :: q, stored, t, h, hclear, hstored => by
    rw [insertAt_name] at hstored
    obtain ⟨inner, hinner, rfl⟩ := Option.map_eq_some_iff.1 hstored
    have hnext := hclear.lookup
    rw [Clear, Members.lookup_insert]
    split_ifs with hba
    · subst hba
      exact clear_insertAt (h.resolve_left (not_not.2 rfl)) hnext hinner
    · exact hnext

theorem clear_store (h : KeepsApart p assigned) : ∀ {s t : SettingValue}, Clear p (some s) →
    store s assigned = some t → Clear p (some t) := by
  induction assigned with
  | nil =>
    intro s t hs hst
    obtain rfl := Option.some.inj hst
    exact hs
  | cons m rest ih =>
    intro s t hs hst
    obtain ⟨hm, hrest⟩ := List.forall_mem_cons.1 h
    rw [store_cons] at hst
    obtain ⟨next, hnext, hst⟩ := Option.bind_eq_some_iff.1 hst
    refine ih hrest ?_ hst
    rcases hpath : pathOf? m.1 with _ | q <;> rw [hpath] at hnext
    · obtain rfl := Option.some.inj hnext
      exact hs
    · have hstored : insertAt (.ofText m.2) q ((some s).getD .nil) = some next := hnext
      exact clear_insertAt (hm q hpath) hs hstored

variable {entries : List (String × SettingValue)}

/-- What variables store is a table that is clear for a path that parts from theirs. -/
theorem exists_table_of_store (h : KeepsApart (.name a :: p) assigned) {stored : SettingValue}
    (hstored : store (.table []) (Members.ofList assigned) = some stored) :
    ∃ entries, stored = .table entries ∧ Clear (.name a :: p) (some (.table entries)) := by
  have hempty : Clear (.name a :: p) (some (.table [])) := clear_none p
  have hclear := clear_store h.ofList hempty hstored
  cases stored <;> first | exact ⟨_, rfl, hclear⟩ | exact hclear.elim

theorem clear_settings? (h : KeepsApart (.name a :: p) assigned)
    (hsettings : settings? assigned = some entries) :
    Clear (.name a :: p) (some (.table entries)) := by
  obtain ⟨stored, hstored, htable⟩ := Option.bind_eq_some_iff.1 hsettings
  obtain ⟨found, rfl, hclear⟩ := exists_table_of_store h hstored
  obtain rfl := Option.some.inj htable
  exact hclear

/-- A variable whose path parts from those of all others adds its value to what they make. -/
theorem settings?_middle (hname : pathOf? name = some (.name a :: p))
    (h : KeepsApart (.name a :: p) (before ++ after)) :
    settings? (before ++ (name, text) :: after) =
      (settings? (before ++ after)).bind fun entries =>
        (insertAt (.ofText text) (.name a :: p) (.table entries)).bind SettingValue.table? := by
  simp only [settings?, Option.bind_eq_bind, store_middle hname h]
  rcases hstored : store (.table []) (Members.ofList (before ++ after)) with _ | stored
  · rfl
  · obtain ⟨entries, rfl, -⟩ := exists_table_of_store h hstored
    rfl

end Environment

end Switchboard
