import Mathlib.Data.List.Perm.Basic

/-!
# Lists of outcomes

What is done to one item after the other comes to a good end if it does so for each of them
(`exists_mapM_eq_ok_iff`), and otherwise fails as it fails for the first that it fails for
(`mapM_eq_error_iff`).
-/

namespace Switchboard

section Bind

variable {ε α β : Type}

theorem bind_eq_ok_iff {x : Except ε α} {f : α → Except ε β} {b : β} :
    x >>= f = .ok b ↔ ∃ a, x = .ok a ∧ f a = .ok b := by
  cases x <;> simp [bind, Except.bind]

theorem bind_eq_error_iff {x : Except ε α} {f : α → Except ε β} {e : ε} :
    x >>= f = .error e ↔ x = .error e ∨ ∃ a, x = .ok a ∧ f a = .error e := by
  cases x <;> simp [bind, Except.bind]

theorem pure_eq_ok_iff {a b : α} : (pure a : Except ε α) = .ok b ↔ a = b := by
  simp [pure, Except.pure]

theorem exists_of_toBool {x : Except ε α} (h : x.toBool = true) : ∃ a, x = .ok a := by
  cases x with
  | error e => exact absurd h (by simp [Except.toBool])
  | ok a => exact ⟨a, rfl⟩

/-- What is looked up in a good outcome can be looked up in what it comes from. -/
theorem toOption_bind_of_eq_ok {x : Except ε α} {a : α} (h : x = .ok a) (f : α → Option β) :
    x.toOption.bind f = f a := by
  rw [h]
  rfl

/-- What is made of an outcome is there if the outcome is. -/
theorem exists_bind_pure_iff {x : Except ε α} {f : α → β} :
    (∃ b, (x >>= fun a => pure (f a)) = .ok b) ↔ ∃ a, x = .ok a := by
  cases x <;> simp [bind, Except.bind, pure, Except.pure]

end Bind

section Each

variable {ε α β : Type} {f : α → Except ε β}

theorem mapM_eq_ok_iff : ∀ {xs : List α} {ys : List β},
    xs.mapM f = .ok ys ↔ List.Forall₂ (fun x y => f x = .ok y) xs ys
  | [], ys => by
    rw [List.mapM_nil, pure_eq_ok_iff, List.forall₂_nil_left_iff]
    exact eq_comm
  | x :: xs, ys => by
    simp only [List.mapM_cons, bind_eq_ok_iff, pure_eq_ok_iff, List.forall₂_cons_left_iff,
      mapM_eq_ok_iff]
    constructor
    · rintro ⟨y, hy, rest, hrest, rfl⟩
      exact ⟨y, rest, hy, hrest, rfl⟩
    · rintro ⟨y, rest, hy, hrest, rfl⟩
      exact ⟨y, hy, rest, hrest, rfl⟩

theorem exists_source_of_mapM {xs : List α} {ys : List β} {y : β} (h : xs.mapM f = .ok ys)
    (hy : y ∈ ys) : ∃ x ∈ xs, f x = .ok y := by
  induction mapM_eq_ok_iff.1 h with
  | nil => simp at hy
  | cons hxy hrest ih =>
    rcases List.mem_cons.1 hy with rfl | hy
    · exact ⟨_, List.mem_cons_self, hxy⟩
    · obtain ⟨x, hx, hf⟩ := ih (mapM_eq_ok_iff.2 hrest) hy
      exact ⟨x, List.mem_cons_of_mem _ hx, hf⟩

theorem exists_result_of_mapM {xs : List α} {ys : List β} {x : α} (h : xs.mapM f = .ok ys)
    (hx : x ∈ xs) : ∃ y ∈ ys, f x = .ok y := by
  induction mapM_eq_ok_iff.1 h with
  | nil => simp at hx
  | cons hxy hrest ih =>
    rcases List.mem_cons.1 hx with rfl | hx
    · exact ⟨_, List.mem_cons_self, hxy⟩
    · obtain ⟨y, hy, hf⟩ := ih (mapM_eq_ok_iff.2 hrest) hx
      exact ⟨y, List.mem_cons_of_mem _ hy, hf⟩

/-- What each result keeps of its source, the results keep of the sources. -/
theorem map_of_mapM {γ : Type} {g : β → γ} {k : α → γ} (hkeep : ∀ x y, f x = .ok y → g y = k x)
    {xs : List α} {ys : List β} (h : xs.mapM f = .ok ys) : ys.map g = xs.map k := by
  induction mapM_eq_ok_iff.1 h with
  | nil => rfl
  | cons hxy hrest ih =>
    rw [List.map_cons, List.map_cons, hkeep _ _ hxy, ih (mapM_eq_ok_iff.2 hrest)]

/-- Items in another order come to the same results in another order. -/
theorem exists_mapM_of_perm {xs xs' : List α} {ys : List β} (hperm : xs.Perm xs')
    (h : xs.mapM f = .ok ys) : ∃ ys', xs'.mapM f = .ok ys' ∧ ys.Perm ys' := by
  obtain ⟨ys', hys', hresults⟩ := List.perm_comp_forall₂ hperm.symm (mapM_eq_ok_iff.1 h)
  exact ⟨ys', mapM_eq_ok_iff.2 hys', hresults.symm⟩

theorem exists_mapM_eq_ok_iff : ∀ {xs : List α},
    (∃ ys, xs.mapM f = .ok ys) ↔ ∀ x ∈ xs, ∃ y, f x = .ok y
  | [] => by simp [List.mapM_nil, pure_eq_ok_iff]
  | x :: xs => by
    rw [List.forall_mem_cons, ← exists_mapM_eq_ok_iff]
    simp only [List.mapM_cons, bind_eq_ok_iff, pure_eq_ok_iff]
    constructor
    · rintro ⟨_, y, hy, ys, hys, rfl⟩
      exact ⟨⟨y, hy⟩, ys, hys⟩
    · rintro ⟨⟨y, hy⟩, ys, hys⟩
      exact ⟨_, y, hy, ys, hys, rfl⟩

theorem mapM_eq_error_iff {e : ε} : ∀ {xs : List α}, xs.mapM f = .error e ↔
    ∃ before x after, xs = before ++ x :: after ∧ (∀ y ∈ before, ∃ b, f y = .ok b)
      ∧ f x = .error e
  | [] => by simp [pure, Except.pure]
  | x :: xs => by
    rw [List.mapM_cons, bind_eq_error_iff]
    constructor
    · rintro (hx | ⟨y, hy, hrest⟩)
      · exact ⟨[], x, xs, rfl, by simp, hx⟩
      · rcases bind_eq_error_iff.1 hrest with hrest | ⟨ys, -, hys⟩
        · obtain ⟨before, z, after, rfl, hbefore, hz⟩ := mapM_eq_error_iff.1 hrest
          exact ⟨x :: before, z, after, rfl, List.forall_mem_cons.2 ⟨⟨y, hy⟩, hbefore⟩, hz⟩
        · simp [pure, Except.pure] at hys
    · rintro ⟨before, z, after, hxs, hbefore, hz⟩
      rcases before with _ | ⟨y, before⟩
      · obtain ⟨rfl, rfl⟩ := List.cons.inj hxs
        exact .inl hz
      · obtain ⟨rfl, rfl⟩ := List.cons.inj hxs
        obtain ⟨⟨b, hb⟩, hbefore⟩ := List.forall_mem_cons.1 hbefore
        refine .inr ⟨b, hb, bind_eq_error_iff.2 (.inl ?_)⟩
        exact mapM_eq_error_iff.2 ⟨before, z, after, rfl, hbefore, hz⟩

end Each

end Switchboard
