import Switchboard.Json.Fields
import Switchboard.Proofs.Json.Written

/-!
# Reading records that were written

A record that was written has each field where its name is looked up, whatever place it was written
in, so every field is read as its value is (`Document.field_recorded` and what follows it). What is
read of a field somewhere was read of some document.

Fields that are read in the order they stand in are set one after the other
(`Document.foldMembers_of_read`), and what each of them keeps holds of the record
(`Document.foldMembers_induction`). Of a document that writes a value down, a field is read of what
the value has under its name (`Document.field?_of_value`).
-/

namespace Switchboard

namespace Document

theorem misfitOnly_eq_ok_iff {α : Type} {reading : Reading α} {x : α} :
    misfitOnly reading = .ok x ↔ reading = .ok x := by
  cases reading <;> simp [misfitOnly]

section Fields

variable {α : Type} {read : Document → Reading α} {name : String} {default x : α}
  {members : List (String × Json)} {ms : List (String × Document)} {v : Option Json} {j : Json}

theorem filter_documentMembers (keep : String → Bool) (members : List (String × Json)) :
    (Json.documentMembers members).filter (fun m => keep m.1) =
      Json.documentMembers (members.filter fun m => keep m.1) := by
  rw [Json.documentMembers_eq_map, Json.documentMembers_eq_map, List.filter_map]
  rfl

theorem field?_of_lookup (h : Members.Ordered members)
    (hlookup : Members.lookup name members = v) :
    field? name read (Json.documentMembers members) =
      v.elim (.ok none) fun j => do return some (← read j.document) := by
  have hfilter : (Json.documentMembers members).filter (fun m => m.1 == name) =
      Json.documentMembers (v.map (name, ·)).toList := by
    rw [filter_documentMembers (· == name), h.filter_key, hlookup]
  unfold field?
  cases v <;> simp [hfilter, Json.documentMembers]

theorem field_of_lookup (h : Members.Ordered members)
    (hlookup : Members.lookup name members = some j) :
    field name read (Json.documentMembers members) = read j.document := by
  rw [field, field?_of_lookup h hlookup, Option.elim]
  cases read j.document <;> rfl

theorem fieldOr_of_lookup (default : α) (name : String) (read : Document → Reading α)
    (h : Members.Ordered members) (hlookup : Members.lookup name members = v) :
    fieldOr default name read (Json.documentMembers members) =
      v.elim (.ok default) fun j => read j.document := by
  rw [fieldOr, field?_of_lookup h hlookup]
  rcases v with _ | j
  · rfl
  · simp only [Option.elim]
    cases read j.document <;> rfl

theorem fieldOption_of_lookup (name : String) (read : Document → Reading α)
    (h : Members.Ordered members) (hlookup : Members.lookup name members = v) :
    fieldOption name read (Json.documentMembers members) =
      v.elim (.ok none) fun j => optional read j.document :=
  fieldOr_of_lookup none name (optional read) h hlookup

/-- In the document of a value every key is a text. -/
theorem fields_document (names : List String) (least : Nat) (members : List (String × Json)) :
    (obj (Json.documentMembers members)).fields names least =
      .ok (Json.documentMembers members) := by
  have hkeyed : ∀ j : Json, j.document.keyed = true := fun j => by cases j <;> rfl
  have hall : (Json.documentMembers members).all (fun m => m.2.keyed) = true := by
    rw [Json.documentMembers_eq_map]
    simp [hkeyed]
  exact if_pos hall

theorem field_recorded (name : String) (read : Document → Reading α)
    {ms : List (String × Option Json)} (hkeys : (ms.map Prod.fst).Nodup)
    (hlookup : Members.lookup name ms = some (some j)) :
    field name read (Json.documentMembers (Json.recorded ms)) = read j.document :=
  field_of_lookup (Json.ordered_recorded ms) (by rw [Json.lookup_recorded hkeys, hlookup]; rfl)

theorem fieldOr_recorded (default : α) (name : String) (read : Document → Reading α)
    {ms : List (String × Option Json)} (hkeys : (ms.map Prod.fst).Nodup)
    (hlookup : Members.lookup name ms = some v) :
    fieldOr default name read (Json.documentMembers (Json.recorded ms)) =
      v.elim (.ok default) fun j => read j.document :=
  fieldOr_of_lookup default name read (Json.ordered_recorded ms)
    (by rw [Json.lookup_recorded hkeys, hlookup]; rfl)

theorem fieldOption_recorded (name : String) (read : Document → Reading α)
    {ms : List (String × Option Json)} (hkeys : (ms.map Prod.fst).Nodup)
    (hlookup : Members.lookup name ms = some v) :
    fieldOption name read (Json.documentMembers (Json.recorded ms)) =
      v.elim (.ok none) fun j => optional read j.document :=
  fieldOr_recorded none name (optional read) hkeys hlookup

theorem exists_read_of_field? (h : field? name read ms = .ok (some x)) : ∃ d, read d = .ok x := by
  unfold field? at h
  split at h
  · simp at h
  · rename_i d _
    obtain ⟨y, hy, h⟩ := bind_eq_ok_iff.1 h
    obtain rfl := Option.some.inj (Except.ok.inj h)
    exact ⟨d, hy⟩
  · simp at h

theorem exists_read_of_field (h : field name read ms = .ok x) : ∃ d, read d = .ok x := by
  obtain ⟨y, hy, h⟩ := bind_eq_ok_iff.1 h
  rcases y with _ | y
  · simp at h
  · obtain rfl := Except.ok.inj h
    exact exists_read_of_field? hy

theorem exists_read_of_fieldOr (h : fieldOr default name read ms = .ok x) :
    x = default ∨ ∃ d, read d = .ok x := by
  obtain ⟨y, hy, h⟩ := bind_eq_ok_iff.1 h
  obtain rfl := Except.ok.inj h
  rcases y with _ | y
  · exact .inl rfl
  · exact .inr (exists_read_of_field? hy)

theorem read_of_optional {d : Document} {x : Option α} (h : optional read d = .ok x) :
    ∀ y ∈ x, read d = .ok y := by
  unfold optional at h
  split at h
  · obtain rfl := Except.ok.inj h
    simp
  · obtain ⟨y, hy, h⟩ := bind_eq_ok_iff.1 h
    obtain rfl := Except.ok.inj h
    simpa using hy

theorem exists_read_of_fieldOption {x : Option α} (h : fieldOption name read ms = .ok x) :
    ∀ y ∈ x, ∃ d, read d = .ok y := by
  rcases exists_read_of_fieldOr h with rfl | ⟨d, hd⟩
  · simp
  · exact fun y hy => ⟨d, read_of_optional hd y hy⟩

theorem exists_read_of_readAll {xs : List α} : ∀ {ds : List Document}, readAll read ds = .ok xs →
    ∀ x ∈ xs, ∃ d, read d = .ok x := by
  induction xs with
  | nil => simp
  | cons x xs ih =>
    rintro (_ | ⟨d, ds⟩) h
    · simp [readAll] at h
    · simp only [readAll, bind_eq_ok_iff, pure_eq_ok_iff] at h
      obtain ⟨y, hy, ys, hys, h⟩ := h
      obtain ⟨rfl, rfl⟩ := List.cons.inj h
      exact List.forall_mem_cons.2 ⟨⟨d, hy⟩, ih hys⟩

theorem exists_read_of_list {d : Document} {xs : List α} (h : list read d = .ok xs) :
    ∀ x ∈ xs, ∃ d, read d = .ok x := by
  unfold list at h
  split at h
  · exact exists_read_of_readAll h
  · cases d <;> simp [reject] at h

theorem readAll_documents {encode : α → Json} {xs : List α}
    (h : ∀ x ∈ xs, read (encode x).document = .ok x) :
    readAll read (Json.documentItems (xs.map encode)) = .ok xs := by
  induction xs with
  | nil => rfl
  | cons x xs ih =>
    obtain ⟨hx, hxs⟩ := List.forall_mem_cons.1 h
    rw [List.map_cons, Json.documentItems, readAll, hx, ih hxs]
    rfl

end Fields

/-! ## Values of one kind -/

theorem optional_string (s : Option String) :
    (s.map Json.str).elim (.ok none) (fun j => optional string j.document) = .ok s := by
  cases s <;> rfl

theorem lt_of_nat32 {d : Document} {n : Nat} (h : nat32 d = .ok n) :
    n < Nat.pow 2 32 := by
  obtain ⟨i, hi, h⟩ := bind_eq_ok_iff.1 h
  obtain rfl := Except.ok.inj h
  unfold integer at hi
  split at hi
  · split_ifs at hi with hbounds
    obtain rfl := Except.ok.inj hi
    rw [Nat.pow_eq]
    have hpow : Int.pow 2 32 = 4294967296 := rfl
    omega
  · cases d <;> simp [reject] at hi

theorem optional_nat32 {n : Option Nat} (h : ∀ k ∈ n, k < Nat.pow 2 32) :
    (n.map Json.nat).elim (.ok none) (fun j => optional nat32 j.document) = .ok n := by
  cases n with
  | none => rfl
  | some k =>
    have hk := h k rfl
    rw [Nat.pow_eq] at hk
    have hpow : Int.pow 2 32 = 4294967296 := rfl
    have hinteger : integer 0 (Int.pow 2 32 - 1) (Json.nat k).document = .ok (k : Int) :=
      if_pos ⟨Int.natCast_nonneg k, by omega⟩
    have hread : nat32 (Json.nat k).document = .ok k := by
      rw [nat32, hinteger]
      rfl
    show (do return some (← nat32 (Json.nat k).document)) = _
    rw [hread]
    rfl

theorem optional_single {x : Option Float32} (h : ∀ y ∈ x, y.isFinite = true) :
    (x.map Json.single).elim (.ok none) (fun j => optional single j.document) = .ok x := by
  cases x with
  | none => rfl
  | some y =>
    rw [Option.map_some, Json.single, if_pos (h y rfl)]
    rfl

/-- A list that is written only if there is something in it. -/
theorem list_unless_empty {α : Type} {read : Document → Reading α} (encode : α → Json)
    {xs : List α} (h : ∀ x ∈ xs, read (encode x).document = .ok x) :
    (if xs.isEmpty then none else some (Json.arr (xs.map encode))).elim (.ok [])
      (fun j => list read j.document) = .ok xs := by
  cases xs with
  | nil => rfl
  | cons x rest => exact readAll_documents h

theorem list_strings (items : List String) :
    (if items.isEmpty then none else some (Json.strings items)).elim (.ok [])
      (fun j => list string j.document) = .ok items :=
  list_unless_empty Json.str fun _ _ => rfl

/-! ## Fields in the order they stand in -/

section Fold

variable {σ : Type} {known : List String} {read : σ → String → Document → Reading σ}
  {other : Document → Reading Unit}

/-- Fields that are read whatever stands before them are set one after the other. -/
theorem foldMembers_of_read (set : String → σ → σ) : ∀ {ms : List (String × Document)}
    {seen : List String} (state : σ), (ms.map Prod.fst).Nodup → (∀ m ∈ ms, m.1 ∉ seen) →
    (∀ m ∈ ms, m.1 ∈ known → ∀ s, read s m.1 m.2 = .ok (set m.1 s)) →
    (∀ m ∈ ms, m.1 ∉ known → other m.2 = .ok ()) →
    foldMembers known read other seen state ms =
      .ok ((ms.map Prod.fst).foldl (fun s key => if key ∈ known then set key s else s) state)
  | [], _, _, _, _, _, _ => rfl
  | (key, d) :: rest, seen, state, hkeys, hseen, hread, hother => by
    obtain ⟨hkey, hrest⟩ := List.nodup_cons.1 hkeys
    obtain ⟨hnew, hseen⟩ := List.forall_mem_cons.1 hseen
    obtain ⟨hset, hread⟩ := List.forall_mem_cons.1 hread
    obtain ⟨hpass, hother⟩ := List.forall_mem_cons.1 hother
    rw [foldMembers, List.map_cons, List.foldl_cons]
    by_cases hknown : key ∈ known
    · have hlater : ∀ m ∈ rest, m.1 ∉ key :: seen := fun m hm hmem => by
        rcases List.mem_cons.1 hmem with heq | hmem
        · exact hkey (List.mem_map.2 ⟨m, hm, heq⟩)
        · exact hseen m hm hmem
      simp only [List.contains_iff_mem, hknown, hnew, if_true, if_false, bind_eq_ok_iff]
      exact ⟨_, hset hknown state, foldMembers_of_read set _ hrest hlater hread hother⟩
    · simp only [List.contains_iff_mem, hknown, if_false, bind_eq_ok_iff]
      exact ⟨_, hpass hknown, foldMembers_of_read set _ hrest hseen hread hother⟩

/-- What every field keeps holds at the end. -/
theorem foldMembers_induction {motive : σ → Prop}
    (hstep : ∀ s key d s', motive s → read s key d = .ok s' → motive s') :
    ∀ {ms : List (String × Document)} {seen : List String} {state last : σ}, motive state →
      foldMembers known read other seen state ms = .ok last → motive last
  | [], _, _, _, h, hlast => by
    obtain rfl := Except.ok.inj hlast
    exact h
  | (key, d) :: rest, seen, state, last, h, hlast => by
    rw [foldMembers] at hlast
    split_ifs at hlast
    · obtain ⟨next, hnext, hlast⟩ := bind_eq_ok_iff.1 hlast
      exact foldMembers_induction hstep (hstep _ _ _ _ h hnext) hlast
    · obtain ⟨_, -, hlast⟩ := bind_eq_ok_iff.1 hlast
      exact foldMembers_induction hstep h hlast

end Fold

/-! ## Fields of a value -/

section Value

variable {α : Type} {read : Document → Reading α} {name : String} {default x : α}
  {ms : List (String × Document)} {vs : List (String × Json)} {d : Document} {j : Json}

theorem valueMembers_filter (keep : String → Bool) (hvs : valueMembers ms = .ok vs) :
    valueMembers (ms.filter fun m => keep m.1) = .ok (vs.filter fun m => keep m.1) := by
  induction ms generalizing vs with
  | nil =>
    obtain rfl := Except.ok.inj hvs
    rfl
  | cons m rest ih =>
    simp only [valueMembers, bind_eq_ok_iff, pure_eq_ok_iff] at hvs
    obtain ⟨j, hj, others, hothers, rfl⟩ := hvs
    by_cases hkeep : keep m.1 = true
    · simp only [List.filter_cons, hkeep, if_true, valueMembers, bind_eq_ok_iff]
      exact ⟨j, hj, _, ih hothers, rfl⟩
    · simp only [List.filter_cons, hkeep]
      exact ih hothers

theorem lookup_of_filter {kept : List (String × Json)} (hvs : valueMembers ms = .ok vs)
    (hkept : valueMembers (ms.filter fun m => m.1 == name) = .ok kept) :
    Members.lookup name (Members.ofList vs) = Members.lookup name (Members.ofList kept) := by
  rw [← Except.ok.inj ((valueMembers_filter (· == name) hvs).symm.trans hkept),
    Members.ofList_filter (· == name), Members.lookup_filter (· == name)]
  simp

/-- A field is read of what stands under its name in the value of the whole. -/
theorem field?_of_value {x : Option α} (hvs : valueMembers ms = .ok vs)
    (h : field? name read ms = .ok x) :
    (x = none ∧ Members.lookup name (Members.ofList vs) = none)
    ∨ ∃ d j y, x = some y ∧ read d = .ok y ∧ d.value = .ok j
      ∧ Members.lookup name (Members.ofList vs) = some j := by
  unfold field? at h
  split at h
  · rename_i hnone
    obtain rfl := Except.ok.inj h
    exact .inl ⟨rfl, lookup_of_filter hvs (by rw [hnone]; rfl)⟩
  · rename_i key d hone
    have hmem : (key, d) ∈ ms.filter fun m => m.1 == name := hone ▸ List.mem_singleton_self _
    have hkey : key = name := by simpa using (List.mem_filter.1 hmem).2
    obtain ⟨y, hy, h⟩ := bind_eq_ok_iff.1 h
    obtain rfl := Except.ok.inj h
    have hkept := valueMembers_filter (· == name) hvs
    simp only [hone, valueMembers, bind_eq_ok_iff, pure_eq_ok_iff] at hkept
    obtain ⟨j, hj, -⟩ := hkept
    refine .inr ⟨d, j, y, rfl, hy, hj, ?_⟩
    have hlookup := lookup_of_filter hvs (by rw [hone, valueMembers, hj, hkey]; rfl)
    exact hlookup.trans (if_pos rfl)
  · cases h

theorem fieldOr_of_value (hvs : valueMembers ms = .ok vs)
    (h : fieldOr default name read ms = .ok x) :
    (x = default ∧ Members.lookup name (Members.ofList vs) = none)
    ∨ ∃ d j, read d = .ok x ∧ d.value = .ok j
      ∧ Members.lookup name (Members.ofList vs) = some j := by
  obtain ⟨y, hy, h⟩ := bind_eq_ok_iff.1 h
  obtain rfl := pure_eq_ok_iff.1 h
  rcases field?_of_value hvs hy with ⟨rfl, hnone⟩ | ⟨d, j, y, rfl, hd, hj, hlookup⟩
  · exact .inl ⟨rfl, hnone⟩
  · exact .inr ⟨d, j, hd, hj, hlookup⟩

theorem value_of_string {s : String} (h : string d = .ok s) (hj : d.value = .ok j) :
    j = .str s := by
  cases d <;> simp [string, reject] at h
  subst h
  exact (Except.ok.inj hj).symm

theorem value_of_optional {x : Option α} (h : optional read d = .ok x) (hj : d.value = .ok j) :
    (x = none ∧ j = .null) ∨ ∃ y, x = some y ∧ read d = .ok y := by
  unfold optional at h
  split at h
  · obtain rfl := Except.ok.inj h
    exact .inl ⟨rfl, (Except.ok.inj hj).symm⟩
  · obtain ⟨y, hy, h⟩ := bind_eq_ok_iff.1 h
    obtain rfl := Except.ok.inj h
    exact .inr ⟨y, rfl, hy⟩

theorem value_of_readAll {encode : α → Json}
    (hread : ∀ {d x j}, read d = .ok x → d.value = .ok j → j = encode x) :
    ∀ {ds : List Document} {js : List Json} {xs : List α},
      readAll read ds = .ok xs → valueItems ds = .ok js → js = xs.map encode
  | [], _, _, h, hjs => by
    obtain rfl := Except.ok.inj h
    exact (Except.ok.inj hjs).symm
  | d :: ds, _, _, h, hjs => by
    simp only [readAll, bind_eq_ok_iff, pure_eq_ok_iff] at h
    obtain ⟨x, hx, xs, hxs, rfl⟩ := h
    simp only [valueItems, bind_eq_ok_iff, pure_eq_ok_iff] at hjs
    obtain ⟨j, hj, js, hjs, rfl⟩ := hjs
    rw [hread hx hj, value_of_readAll hread hxs hjs, List.map_cons]

theorem value_of_list {encode : α → Json} {xs : List α}
    (hread : ∀ {d x j}, read d = .ok x → d.value = .ok j → j = encode x)
    (h : list read d = .ok xs) (hj : d.value = .ok j) : j = .arr (xs.map encode) := by
  unfold list at h
  split at h
  · simp only [value, bind_eq_ok_iff, pure_eq_ok_iff] at hj
    obtain ⟨js, hjs, rfl⟩ := hj
    rw [value_of_readAll hread h hjs]
  · cases d <;> simp [reject] at h

theorem value_of_members (h : d.members = .ok ms) (hj : d.value = .ok j) :
    ∃ vs, valueMembers ms = .ok vs ∧ j = .mkObj vs := by
  unfold members at h
  split at h
  · obtain rfl := Except.ok.inj h
    simp only [value, bind_eq_ok_iff, pure_eq_ok_iff] at hj
    obtain ⟨vs, hvs, rfl⟩ := hj
    exact ⟨vs, hvs, rfl⟩
  · cases d <;> simp [reject] at h

end Value

end Document

end Switchboard
