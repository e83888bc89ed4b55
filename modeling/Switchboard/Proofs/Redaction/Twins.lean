import Switchboard.Proofs.Redaction

/-!
# Texts that differ in their credentials only

A text is read from left to right, credential by credential, so it has sites where its credentials
stand. Two texts are twins if their sites are the same and nothing is different outside of them.
Reading twins side by side (`Twins.parallel`) shows that their redactions are the same.
-/

namespace Switchboard

namespace Redaction

variable {cs ds s t rest tail : List Char} {c d mark : Char} {i k n : Nat}

theorem Credential.ne_nil (h : Credential s) : s ≠ [] := by
  cases h <;> simp

theorem credential_of_credential? (h : credential? (s ++ rest) = some s.length) :
    Credential s := by
  obtain ⟨t, more, hsplit, hlength, ht, -⟩ := credential?_eq_some_iff.1 h
  obtain ⟨rfl, -⟩ := List.append_inj hsplit hlength.symm
  exact ht

theorem exists_cons_of_credential? (h : credential? (s ++ rest) = some s.length) :
    ∃ c t, s = c :: t ∧ credential? (c :: (t ++ rest)) = some (t.length + 1) := by
  rcases s with _ | ⟨c, t⟩
  · exact absurd rfl (credential_of_credential? h).ne_nil
  · exact ⟨c, t, rfl, h⟩

/-- How a credential is read depends on nothing behind the character that ends it. -/
theorem credential?_congr (h : credential? (s ++ rest) = some s.length)
    (hhead : tail.head? = rest.head?) : credential? (s ++ tail) = some s.length := by
  obtain ⟨t, more, hsplit, hlength, ht, hlongest⟩ := credential?_eq_some_iff.1 h
  obtain ⟨rfl, rfl⟩ := List.append_inj hsplit hlength.symm
  exact credential?_of_longest ht (by rwa [hhead])

/-- A text is read credential by credential, and character by character between them. -/
@[elab_as_elim]
theorem scan_induction {motive : List Char → Prop} (nil : motive [])
    (kept : ∀ c cs, credential? (c :: cs) = none → motive cs → motive (c :: cs))
    (masked : ∀ s cs, credential? (s ++ cs) = some s.length → motive cs → motive (s ++ cs))
    (cs : List Char) : motive cs := by
  fun_induction redactChars cs with
  | case1 => exact nil
  | case2 c cs n hn ih =>
    obtain ⟨s, rest, hsplit, rfl, hs⟩ := credential?_eq_some hn
    rcases s with _ | ⟨d, s⟩
    · cases hs
    · obtain ⟨rfl, rfl⟩ := List.cons.inj hsplit
      exact masked (c :: s) rest hn (by simpa using ih)
  | case3 c cs hnone ih => exact kept c cs hnone ih

theorem redactChars_kept (h : credential? (c :: cs) = none) :
    redactChars (c :: cs) = c :: redactChars cs := by
  rw [redactChars, h]

theorem redactChars_masked (h : credential? (s ++ cs) = some s.length) :
    redactChars (s ++ cs) = mask ++ redactChars cs := by
  obtain ⟨c, t, rfl, hread⟩ := exists_cons_of_credential? h
  rw [List.cons_append, redactChars, hread]
  simp

theorem redactChars_of_credential (h : Credential s) : redactChars s = mask := by
  have hsome : credential? (s ++ []) = some s.length := credential?_of_longest h nofun
  rw [← List.append_nil s, redactChars_masked hsome, redactChars.eq_1, List.append_nil]

theorem redactChars_append_of_not_starts (h : ∀ c ∈ s, ¬Starts c) (cs : List Char) :
    redactChars (s ++ cs) = s ++ redactChars cs := by
  induction s with
  | nil => rfl
  | cons c s ih =>
    obtain ⟨hc, hrest⟩ := List.forall_mem_cons.1 h
    rw [List.cons_append, redactChars_kept (credential?_of_not_starts hc _), ih hrest,
      List.cons_append]

/-- What is before a character that no credential has is redacted on its own. -/
theorem redactChars_append_cons (hmark : Separates mark) (cs rest : List Char) :
    redactChars (cs ++ mark :: rest) = redactChars cs ++ mark :: redactChars rest := by
  induction cs using scan_induction with
  | nil =>
    rw [redactChars.eq_1, List.nil_append, List.nil_append,
      redactChars_kept (credential?_of_not_starts hmark.not_starts rest)]
  | kept c cs hnone ih =>
    have hnone' : credential? (c :: (cs ++ mark :: rest)) = none :=
      (marked_append_cons (c :: cs) rest).credential?_eq_none hmark hnone
    rw [redactChars_kept hnone, List.cons_append, redactChars_kept hnone', ih, List.cons_append]
  | masked s cs hsome ih =>
    have hsome' : credential? (s ++ (cs ++ mark :: rest)) = some s.length := by
      rcases cs with _ | ⟨c, cs⟩
      · refine credential?_of_longest (credential_of_credential? hsome) fun c hc hmore => ?_
        obtain rfl : mark = c := by simpa using hc
        exact hmore.not_mem_of_separates hmark (by simp)
      · exact credential?_congr hsome rfl
    rw [redactChars_masked hsome, List.append_assoc, redactChars_masked hsome', ih,
      List.append_assoc]

/-- Where the credentials of a text stand that starts at place `i`, and how long they are. -/
def sites (i : Nat) : List Char → List (Nat × Nat)
  | [] => []
  | c :: cs =>
    match credential? (c :: cs) with
    | some n => (i, n) :: sites (i + n) (cs.drop (n - 1))
    | none => sites (i + 1) cs
termination_by cs => cs.length
decreasing_by all_goals (simp; try omega)

theorem sites_kept (h : credential? (c :: cs) = none) : sites i (c :: cs) = sites (i + 1) cs := by
  rw [sites, h]

theorem sites_masked (h : credential? (s ++ cs) = some s.length) :
    sites i (s ++ cs) = (i, s.length) :: sites (i + s.length) cs := by
  obtain ⟨c, t, rfl, hread⟩ := exists_cons_of_credential? h
  rw [List.cons_append, sites, hread]
  simp

theorem sites_append_of_not_starts (h : ∀ c ∈ s, ¬Starts c) (i : Nat) (cs : List Char) :
    sites i (s ++ cs) = sites (i + s.length) cs := by
  induction s generalizing i with
  | nil => rfl
  | cons c s ih =>
    obtain ⟨hc, hrest⟩ := List.forall_mem_cons.1 h
    rw [List.cons_append, sites_kept (credential?_of_not_starts hc _), ih hrest, List.length_cons,
      Nat.add_right_comm, Nat.add_assoc]

theorem le_of_mem_sites {site : Nat × Nat} (h : site ∈ sites i cs) : i ≤ site.1 := by
  induction cs using scan_induction generalizing i with
  | nil => simp [sites] at h
  | kept c cs hnone ih =>
    rw [sites_kept hnone] at h
    exact Nat.le_of_succ_le (ih h)
  | masked s cs hsome ih =>
    rw [sites_masked hsome, List.mem_cons] at h
    rcases h with rfl | h
    · exact Nat.le_refl i
    · exact Nat.le_trans (Nat.le_add_right i s.length) (ih h)

theorem mem_sites_iff : (i, n) ∈ sites i cs ↔ credential? cs = some n := by
  induction cs using scan_induction with
  | nil => simp [sites, credential?]
  | kept c cs hnone _ =>
    rw [sites_kept hnone, hnone]
    exact ⟨fun h => absurd (le_of_mem_sites h) (Nat.not_succ_le_self i), by simp⟩
  | masked s cs hsome _ =>
    have hpos := List.length_pos_of_ne_nil (credential_of_credential? hsome).ne_nil
    have hlater : (i, n) ∉ sites (i + s.length) cs := fun h => by
      have hle := le_of_mem_sites h
      simp only at hle
      omega
    rw [sites_masked hsome, hsome, List.mem_cons, or_iff_left hlater]
    simp [eq_comm]

theorem credential?_eq_of_sites (h : sites i ds = sites i cs) : credential? ds = credential? cs :=
  Option.ext fun n => by rw [← mem_sites_iff (i := i), h, mem_sites_iff]

theorem credential_of_mem_sites {site : Nat × Nat} (h : site ∈ sites i cs) :
    Credential ((cs.drop (site.1 - i)).take site.2) := by
  induction cs using scan_induction generalizing i with
  | nil => simp [sites] at h
  | kept c cs hnone ih =>
    rw [sites_kept hnone] at h
    have hle := le_of_mem_sites h
    rw [show site.1 - i = site.1 - (i + 1) + 1 by omega, List.drop_succ_cons]
    exact ih h
  | masked s cs hsome ih =>
    rw [sites_masked hsome] at h
    rcases List.mem_cons.1 h with rfl | h
    · simpa using credential_of_credential? hsome
    · have hle := le_of_mem_sites h
      rw [show site.1 - i = s.length + (site.1 - (i + s.length)) by omega,
        List.drop_length_add_append]
      exact ih h

/-- The credentials stand in the same places, and what is in none of them is the same. -/
structure Twins (cs ds : List Char) : Prop where
  sites_eq : sites 0 ds = sites 0 cs
  getElem?_eq : ∀ k, (∀ site ∈ sites 0 cs, ¬(site.1 ≤ k ∧ k < site.1 + site.2)) → ds[k]? = cs[k]?

/-- Two texts that are read side by side. -/
inductive Parallel : List Char → List Char → Prop
  | nil : Parallel [] []
  | kept {c : Char} {cs ds : List Char} : credential? (c :: cs) = none →
      credential? (c :: ds) = none → Parallel cs ds → Parallel (c :: cs) (c :: ds)
  | masked {s t cs ds : List Char} : credential? (s ++ cs) = some s.length →
      credential? (t ++ ds) = some t.length → t.length = s.length → Parallel cs ds →
      Parallel (s ++ cs) (t ++ ds)

theorem parallel_of_sites (hsites : sites i ds = sites i cs)
    (hsame : ∀ k, (∀ site ∈ sites i cs, ¬(site.1 ≤ i + k ∧ i + k < site.1 + site.2)) →
      ds[k]? = cs[k]?) : Parallel cs ds := by
  have hread := credential?_eq_of_sites hsites
  induction cs using scan_induction generalizing i ds with
  | nil =>
    obtain rfl : ds = [] := by simpa using hsame 0 (by simp [sites])
    exact .nil
  | kept c cs hnone ih =>
    rw [sites_kept hnone] at hsites hsame
    have hhead : ds[0]? = some c := hsame 0 fun site hsite hin => by
      have hle := le_of_mem_sites hsite
      omega
    rcases ds with _ | ⟨d, ds⟩
    · simp at hhead
    obtain rfl : d = c := by simpa using hhead
    have hnone' := hread.trans hnone
    rw [sites_kept hnone'] at hsites
    refine .kept hnone hnone' (ih hsites (fun k hk => ?_) (credential?_eq_of_sites hsites))
    refine hsame (k + 1) fun site hsite hin => hk site hsite ?_
    omega
  | masked s cs hsome ih =>
    rw [sites_masked hsome] at hsites hsame
    obtain ⟨t, ds, rfl, hlength, -, -⟩ := credential?_eq_some_iff.1 (hread.trans hsome)
    have hsome' := (hread.trans hsome).trans (congrArg some hlength.symm)
    rw [sites_masked hsome', hlength] at hsites
    have hrest := (List.cons.inj hsites).2
    refine .masked hsome hsome' hlength (ih hrest (fun k hk => ?_) (credential?_eq_of_sites hrest))
    have hplace := hsame (s.length + k) fun site hsite hin => by
      rcases List.mem_cons.1 hsite with rfl | hsite
      · simp only at hin
        omega
      · exact hk site hsite (by omega)
    rwa [List.getElem?_append_right (by omega), List.getElem?_append_right (by omega), hlength,
      Nat.add_sub_cancel_left] at hplace

theorem Twins.parallel (h : Twins cs ds) : Parallel cs ds :=
  parallel_of_sites h.sites_eq fun k hk => h.getElem?_eq k (by simpa using hk)

theorem Parallel.append_of_not_starts (hs : ∀ c ∈ s, ¬Starts c) (h : Parallel cs ds) :
    Parallel (s ++ cs) (s ++ ds) := by
  induction s with
  | nil => exact h
  | cons c s ih =>
    obtain ⟨hc, hrest⟩ := List.forall_mem_cons.1 hs
    exact .kept (credential?_of_not_starts hc _) (credential?_of_not_starts hc _) (ih hrest)

theorem Parallel.sites_eq (h : Parallel cs ds) (i : Nat) : sites i ds = sites i cs := by
  induction h generalizing i with
  | nil => rfl
  | kept hcs hds _ ih => rw [sites_kept hcs, sites_kept hds, ih]
  | masked hcs hds hlength _ ih => rw [sites_masked hcs, sites_masked hds, hlength, ih]

theorem Parallel.getElem?_eq (h : Parallel cs ds) {i k : Nat}
    (hk : ∀ site ∈ sites i cs, ¬(site.1 ≤ i + k ∧ i + k < site.1 + site.2)) :
    ds[k]? = cs[k]? := by
  induction h generalizing i k with
  | nil => rfl
  | kept hcs _ _ ih =>
    rw [sites_kept hcs] at hk
    rcases k with _ | k
    · rfl
    · exact ih fun site hsite hin => hk site hsite (by omega)
  | @masked s t cs ds hcs _ hlength _ ih =>
    rw [sites_masked hcs] at hk
    have hfirst := hk (i, s.length) (by simp)
    simp only at hfirst
    obtain ⟨j, rfl⟩ : ∃ j, k = s.length + j := ⟨k - s.length, by omega⟩
    rw [List.getElem?_append_right (by omega), List.getElem?_append_right (by omega), hlength,
      Nat.add_sub_cancel_left]
    exact ih fun site hsite hin => hk site (List.mem_cons_of_mem _ hsite) (by omega)

theorem twins_iff_parallel : Twins cs ds ↔ Parallel cs ds := by
  refine ⟨Twins.parallel, fun h => ⟨h.sites_eq 0, fun k hk => ?_⟩⟩
  exact h.getElem?_eq (i := 0) (by simpa using hk)

theorem Parallel.length_eq (h : Parallel cs ds) : ds.length = cs.length := by
  induction h with
  | nil => rfl
  | kept _ _ _ ih => simp [ih]
  | masked _ _ hlength _ ih => simp [ih, hlength]

theorem Parallel.symm (h : Parallel cs ds) : Parallel ds cs := by
  induction h with
  | nil => exact .nil
  | kept hcs hds _ ih => exact .kept hds hcs ih
  | masked hcs hds hlength _ ih => exact .masked hds hcs hlength.symm ih

/-- The whole texts are redacted to the same. -/
theorem Parallel.redactChars_eq (h : Parallel cs ds) : redactChars ds = redactChars cs := by
  induction h with
  | nil => rfl
  | kept hcs hds _ ih => rw [redactChars_kept hcs, redactChars_kept hds, ih]
  | masked hcs hds _ _ ih => rw [redactChars_masked hcs, redactChars_masked hds, ih]

end Redaction

end Switchboard
