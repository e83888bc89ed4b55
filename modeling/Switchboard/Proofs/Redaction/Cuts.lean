import Switchboard.Proofs.Redaction.Twins

/-!
# Redacting the start of a text

The start of a text does not have to be redacted as the text is. A credential that the cut goes
through is none any more if too little of it is left, and dots that are written behind the cut can
go on with a token. What a credential has left before the cut is all that the redacted starts of
twins can differ in (`Parallel.redactChars_take`).
-/

namespace Switchboard

namespace Redaction

variable {cs ds s tail rest : List Char} {c : Char} {i n : Nat}

/-- What the first `n` characters of a text have of a credential that they end in or with. -/
def remnant : Nat → List Char → List Char
  | 0, _ => []
  | _, [] => []
  | n + 1, c :: cs =>
    match credential? (c :: cs) with
    | some m => if n < m then (c :: cs).take (n + 1) else remnant (n + 1 - m) (cs.drop (m - 1))
    | none => remnant n cs
termination_by _ cs => cs.length
decreasing_by all_goals (simp; try omega)

theorem remnant_kept (h : credential? (c :: cs) = none) :
    remnant (n + 1) (c :: cs) = remnant n cs := by
  rw [remnant, h]

theorem remnant_masked (h : credential? (s ++ cs) = some s.length) :
    remnant n (s ++ cs) =
      if n ≤ s.length then s.take n else remnant (n - s.length) cs := by
  obtain ⟨c, t, rfl, hread⟩ := exists_cons_of_credential? h
  rcases n with _ | n
  · simp [remnant]
  · rw [List.cons_append, remnant, hread]
    simp only [List.length_cons, Nat.lt_add_one_iff, Nat.add_le_add_iff_right]
    split_ifs with hn
    · rw [← List.cons_append, List.take_append_of_le_length (by simpa using hn)]
    · simp

@[simp] theorem remnant_nil : remnant n [] = [] := by
  cases n <;> simp [remnant]

@[simp] theorem remnant_zero : remnant 0 cs = [] := by
  simp [remnant]

/-- Where no credential starts before the cut, the texts are the same up to there. -/
theorem Parallel.take_eq (h : Parallel cs ds) {n : Nat}
    (hnone : ∀ k < n, credential? (cs.drop k) = none) :
    ds.take n = cs.take n ∧ remnant n cs = [] ∧ remnant n ds = [] := by
  induction h generalizing n with
  | nil => simp
  | kept hcs hds _ ih =>
    rcases n with _ | n
    · simp
    · have hrest := ih fun k hk => hnone (k + 1) (Nat.succ_lt_succ hk)
      rw [remnant_kept hcs, remnant_kept hds]
      simpa using hrest
  | masked hcs _ _ _ _ =>
    rcases n with _ | n
    · simp
    · have hfirst := hnone 0 (Nat.succ_pos n)
      simp [hcs] at hfirst

/-- Six characters or more at the start of a credential are characters of a token. -/
theorem Credential.six_le_takeWhile (h : Credential s) (rest : List Char) :
    6 ≤ ((s ++ rest).takeWhile isTokenChar).length := by
  have hlong : ∀ {u v : List Char}, (∀ c ∈ u, isTokenChar c = true) → 6 ≤ u.length →
      6 ≤ ((u ++ v).takeWhile isTokenChar).length := fun htoken hlength => by
    rw [List.takeWhile_append_of_pos htoken, List.length_append]
    omega
  cases h with
  | secretKey hleast hok =>
    refine hlong ?_ (by simp; omega)
    simpa using ⟨by decide, by decide, by decide, fun c hc => isTokenChar_of_isKeyChar (hok c hc)⟩
  | apiKey hleast hok =>
    refine hlong ?_ (by simp; omega)
    simpa using ⟨by decide, by decide, by decide, by decide,
      fun c hc => isTokenChar_of_isKeyChar (hok c hc)⟩
  | bearer =>
    rw [← List.cons_append]
    exact hlong (u := ['B', 'e', 'a', 'r', 'e', 'r']) (by simp; decide) (by decide)

theorem credential?_of_short (h : (cs.takeWhile isTokenChar).length < 6) :
    credential? cs = none := by
  by_contra hsome
  obtain ⟨n, hn⟩ := Option.ne_none_iff_exists'.1 hsome
  obtain ⟨s, rest, rfl, -, hs⟩ := credential?_eq_some hn
  exact absurd (hs.six_le_takeWhile rest) (by omega)

theorem credential?_of_append (rest : List Char) (h : credential? (cs ++ rest) = none) :
    credential? cs = none := by
  by_contra hsome
  obtain ⟨n, hn⟩ := Option.ne_none_iff_exists'.1 hsome
  obtain ⟨s, more, rfl, -, hs⟩ := credential?_eq_some hn
  have hfound := credential?_append hs (more ++ rest)
  simp [← List.append_assoc, h] at hfound

/-- If dots behind a text make a credential of what was none, they go on with a token of it. -/
theorem exists_bearer_of_dots (hnone : credential? cs = none)
    (hsome : credential? (cs ++ tail) ≠ none) (hdots : ∀ d ∈ tail, d = '.')
    (hshort : tail.length < 6) : ∃ blanks token,
      cs = ['B', 'e', 'a', 'r', 'e', 'r'] ++ blanks ++ token ∧ blanks ≠ [] ∧
        (∀ d ∈ blanks, Text.isBlank d = true) ∧ (∀ d ∈ token, isTokenChar d = true) := by
  obtain ⟨m, hm⟩ := Option.ne_none_iff_exists'.1 hsome
  obtain ⟨s, rest, hsplit, -, hs⟩ := credential?_eq_some hm
  obtain ⟨dots, rfl, rfl⟩ | ⟨more, rfl, rfl⟩ := List.append_eq_append_iff.1 hsplit
  -- Without any of the dots it would have been one before.
  swap
  · have hbefore := credential?_append hs more
    simp [hnone] at hbefore
  rcases dots with _ | ⟨d, dots⟩
  · have hbefore := credential?_append hs []
    simp [hnone] at hbefore
  obtain rfl : d = '.' := hdots d (by simp)
  have hmem : '.' ∈ cs ++ '.' :: dots := by simp
  generalize hwhole : cs ++ '.' :: dots = whole at hs hmem
  cases hs with
  | secretKey _ hok =>
    have hkey : isKeyChar '.' = true := hok '.' (by simpa using hmem)
    exact absurd hkey (by decide)
  | apiKey _ hok =>
    have hkey : isKeyChar '.' = true := hok '.' (by simpa using hmem)
    exact absurd hkey (by decide)
  | @bearer blanks token hne hblank hleast hok =>
    have hwhole : cs ++ '.' :: dots = ['B', 'e', 'a', 'r', 'e', 'r'] ++ blanks ++ token := by
      simpa using hwhole
    obtain ⟨more, -, hmore⟩ | ⟨first, rfl, rfl⟩ := List.append_eq_append_iff.1 hwhole
    · have hlength := congrArg List.length hmore
      simp only [List.length_append, List.length_cons] at hlength hshort
      omega
    · exact ⟨blanks, first, rfl, hne, hblank, fun d hd => hok d (by simp [hd])⟩

theorem length_takeWhile_lt_six {blanks : List Char} (hne : blanks ≠ [])
    (hblank : ∀ d ∈ blanks, Text.isBlank d = true)
    (hnone : credential? (['B', 'e', 'a', 'r', 'e', 'r'] ++ blanks ++ rest) = none) :
    (rest.takeWhile isTokenChar).length < 6 := by
  by_contra hlong
  have hcredential : Credential
      ('B' :: 'e' :: 'a' :: 'r' :: 'e' :: 'r' :: (blanks ++ rest.takeWhile isTokenChar)) :=
    .bearer hne hblank (by omega) fun d hd => List.mem_takeWhile_imp hd
  have hfound := credential?_append hcredential (rest.dropWhile isTokenChar)
  simp only [List.cons_append, List.append_assoc, List.takeWhile_append_dropWhile] at hfound
  simp only [List.cons_append, List.nil_append] at hnone
  simp [hnone] at hfound

/-- If the dots behind a cut make a credential of what was none, no credential starts from there to
the cut: a token has come to six characters with the dots and had not before. -/
theorem credential?_drop_eq_none (hnone : credential? (c :: cs) = none)
    (hsome : credential? (c :: (cs.take n ++ tail)) ≠ none) (hdots : ∀ d ∈ tail, d = '.')
    (hshort : tail.length < 6) (hn : tail ≠ [] → n ≤ cs.length) :
    ∀ k < n, credential? (cs.drop k) = none := by
  have hcut : credential? (c :: cs.take n) = none :=
    credential?_of_append (cs.drop n) (by simpa using hnone)
  have hn : n ≤ cs.length := hn fun htail => by simp [htail, hcut] at hsome
  obtain ⟨blanks, token, hbearer, hne, hblank, hok⟩ :=
    exists_bearer_of_dots hcut hsome hdots hshort
  obtain ⟨rfl, htake⟩ : c = 'B' ∧ cs.take n = ['e', 'a', 'r', 'e', 'r'] ++ blanks ++ token :=
    List.cons.inj hbearer
  generalize hleft : cs.drop n = left
  have hcs : cs = ['e', 'a', 'r', 'e', 'r'] ++ blanks ++ (token ++ left) := by
    rw [← List.take_append_drop n cs, hleft, htake]
    simp
  have hlength : n = 5 + blanks.length + token.length := by
    have hlength := congrArg List.length htake
    simp only [List.length_take, List.length_append, List.length_cons, List.length_nil] at hlength
    omega
  have hrun : ((token ++ left).takeWhile isTokenChar).length < 6 :=
    length_takeWhile_lt_six hne hblank (by simpa [hcs] using hnone)
  have hstart : ∀ d ∈ ['e', 'a', 'r', 'e', 'r'] ++ blanks, ¬Starts d := fun d hd hstarts => by
    simp only [Starts, List.mem_cons, List.not_mem_nil, or_false] at hstarts
    rcases List.mem_append.1 hd with hd | hd
    · rcases hstarts with rfl | rfl | rfl <;> simp at hd
    · rcases hstarts with rfl | rfl | rfl <;> exact absurd (hblank _ hd) (by decide)
  intro k hk
  generalize hfirst : ['e', 'a', 'r', 'e', 'r'] ++ blanks = first at hcs hstart
  have hfirst : first.length = 5 + blanks.length := by
    rw [← hfirst]
    simp
    omega
  rw [hcs]
  by_cases hbefore : k < first.length
  · rw [List.drop_append_of_le_length (by omega), List.drop_eq_getElem_cons hbefore,
      List.cons_append]
    exact credential?_of_not_starts (hstart _ (List.getElem_mem hbefore)) _
  · obtain ⟨j, rfl⟩ : ∃ j, k = first.length + j := ⟨k - first.length, by omega⟩
    rw [List.drop_length_add_append, List.drop_append_of_le_length (by omega)]
    apply credential?_of_short
    rw [List.takeWhile_append_of_pos hok, List.length_append] at hrun
    rw [List.takeWhile_append_of_pos fun d hd => hok d (List.mem_of_mem_drop hd),
      List.length_append, List.length_drop]
    omega

theorem credential?_take (h : credential? (s ++ cs) = some s.length) (hpos : 0 < n)
    (hn : tail ≠ [] → n ≤ cs.length) :
    credential? (s ++ (cs.take n ++ tail)) = some s.length := by
  refine credential?_congr h ?_
  rcases cs with _ | ⟨c, cs⟩
  · obtain rfl : tail = [] := by
      by_contra htail
      exact absurd (hn htail) (by simp; omega)
    simp
  · obtain ⟨m, rfl⟩ : ∃ m, n = m + 1 := ⟨n - 1, by omega⟩
    simp

/-- The start of a text, with dots behind it to tell that it is not all, is redacted to the same as
that of its twin if what a credential has left there is, and only then. -/
theorem Parallel.redactChars_take (h : Parallel cs ds) (hdots : ∀ d ∈ tail, d = '.')
    (hshort : tail.length < 6) {n : Nat} (hn : tail ≠ [] → n ≤ cs.length) :
    redactChars (ds.take n ++ tail) = redactChars (cs.take n ++ tail) ↔
      redactChars (remnant n ds ++ tail) = redactChars (remnant n cs ++ tail) := by
  induction h generalizing n with
  | nil => simp
  | @kept c cs ds hcs hds hrest ih =>
    rcases n with _ | n
    · simp
    have hn : tail ≠ [] → n ≤ cs.length := fun htail => by simpa using hn htail
    rw [remnant_kept hcs, remnant_kept hds, List.take_succ_cons, List.take_succ_cons,
      List.cons_append, List.cons_append]
    by_cases hread : credential? (c :: (cs.take n ++ tail)) = none ∧
        credential? (c :: (ds.take n ++ tail)) = none
    · rw [redactChars_kept hread.1, redactChars_kept hread.2, List.cons_inj_right, ih hn]
    -- Otherwise the dots belong to a credential, and what is before the cut is the same.
    · have htake : ds.take n = cs.take n ∧ remnant n cs = [] ∧ remnant n ds = [] := by
        rcases Classical.not_and_iff_not_or_not.1 hread with hread | hread
        · exact hrest.take_eq (credential?_drop_eq_none hcs hread hdots hshort hn)
        · obtain ⟨htake, hds', hcs'⟩ := hrest.symm.take_eq
            (credential?_drop_eq_none hds hread hdots hshort (by rwa [hrest.length_eq]))
          exact ⟨htake.symm, hcs', hds'⟩
      rw [htake.1, htake.2.1, htake.2.2]
      simp
  | @masked s t cs ds hcs hds hlength hrest ih =>
    rw [remnant_masked hcs, remnant_masked hds, hlength]
    split_ifs with hcut
    · rw [List.take_append_of_le_length hcut, List.take_append_of_le_length (by omega)]
    · obtain ⟨m, rfl⟩ : ∃ m, n = s.length + m := ⟨n - s.length, by omega⟩
      have hpos : 0 < m := by omega
      have hn : tail ≠ [] → m ≤ cs.length := fun htail => by simpa using hn htail
      rw [Nat.add_sub_cancel_left, List.take_length_add_append, ← hlength,
        List.take_length_add_append, List.append_assoc, List.append_assoc,
        redactChars_masked (credential?_take hcs hpos hn),
        redactChars_masked (credential?_take hds hpos (by rwa [hrest.length_eq])),
        List.append_right_inj, ih hn]

theorem remnant_of_mem_sites {site : Nat × Nat} (h : site ∈ sites i cs) (hfirst : site.1 < i + n)
    (hlast : i + n ≤ site.1 + site.2) : remnant n cs = (cs.take n).drop (site.1 - i) := by
  induction cs using scan_induction generalizing i n with
  | nil => simp [sites] at h
  | kept c cs hnone ih =>
    rw [sites_kept hnone] at h
    have hle := le_of_mem_sites h
    obtain ⟨m, rfl⟩ : ∃ m, n = m + 1 := ⟨n - 1, by omega⟩
    obtain ⟨j, hj⟩ : ∃ j, site.1 = i + 1 + j := ⟨site.1 - (i + 1), by omega⟩
    rw [remnant_kept hnone, ih h (by omega) (by omega), hj, Nat.add_sub_cancel_left,
      show i + 1 + j - i = j + 1 by omega]
    rfl
  | masked s cs hsome ih =>
    rw [sites_masked hsome] at h
    rw [remnant_masked hsome]
    rcases List.mem_cons.1 h with rfl | h
    · simp only at hlast
      rw [if_pos (by omega), Nat.sub_self, List.drop_zero,
        List.take_append_of_le_length (by omega)]
    · have hle := le_of_mem_sites h
      obtain ⟨m, rfl⟩ : ∃ m, n = s.length + m := ⟨n - s.length, by omega⟩
      obtain ⟨j, hj⟩ : ∃ j, site.1 = i + s.length + j := ⟨site.1 - (i + s.length), by omega⟩
      rw [if_neg (by omega), Nat.add_sub_cancel_left, ih h (by omega) (by omega), hj,
        Nat.add_sub_cancel_left, List.take_length_add_append,
        show i + s.length + j - i = s.length + j by omega, List.drop_length_add_append]

theorem remnant_eq_nil (h : ∀ site ∈ sites i cs, ¬(site.1 < i + n ∧ i + n ≤ site.1 + site.2)) :
    remnant n cs = [] := by
  induction cs using scan_induction generalizing i n with
  | nil => simp
  | kept c cs hnone ih =>
    rcases n with _ | n
    · simp
    rw [sites_kept hnone] at h
    rw [remnant_kept hnone]
    exact ih fun site hsite hin => h site hsite (by omega)
  | masked s cs hsome ih =>
    rw [sites_masked hsome] at h
    rw [remnant_masked hsome]
    split_ifs with hn
    · have hfirst := h (i, s.length) (by simp)
      simp only at hfirst
      obtain rfl : n = 0 := by omega
      simp
    · exact ih fun site hsite hin => h site (List.mem_cons_of_mem _ hsite) (by omega)

end Redaction

end Switchboard
