import Mathlib.Data.List.Basic
import Mathlib.Data.List.Induction
import Switchboard.Chat.Usage

/-!
# Reports of usage laid over each other

However many reports there are, the counts are the last ones that were reported. So is the total as
long as one of the two counts is unknown; once both are known it is their sum, unless the very last
report gives a total. `overlaid_overlays` says so of reports that are read from JSON.
-/

namespace Switchboard

namespace Usage

/-- What reports come to, each laid over those before it. -/
def overlaid (input output total : String) (first : Json) (later : List Json) : Usage :=
  (later.map (ofJson · input output total)).foldl merge (ofJson first input output total)

/-- The report gives a count under the key, however great. -/
def Gives (key : String) (report : Json) : Prop := (report.get key).nat?.isSome

/-- The last count that reports give under a key, brought into range. -/
def lastGiven (key : String) (reports : List Json) : Option Nat :=
  (reports.filterMap fun report => (report.get key).nat?).getLast?.map (min · maxCount)

/-- How a usage goes by the reports it was made of. A total stands as long as no count comes after
it, and gives way to the sum of the counts where one does. -/
structure Overlays (input output total : String) (reports : List Json) (u : Usage) : Prop where
  input_last : u.input = lastGiven input reports
  output_last : u.output = lastGiven output reports
  total_stands : ∀ before report after n, reports = before ++ report :: after →
    (report.get total).nat? = some n →
    (∀ r ∈ after, ¬Gives input r ∧ ¬Gives output r ∧ ¬Gives total r) →
    (after = [] ∨ u.input = none ∨ u.output = none) → u.total = some (min n maxCount)
  total_derived : ∀ a b, u.input = some a → u.output = some b →
    (∀ before report after, reports = before ++ report :: after → Gives total report →
      ∃ r ∈ after, Gives input r ∨ Gives output r) → u.total = some (addCounts a b)
  fits : ∀ n, u.input = some n ∨ u.output = some n ∨ u.total = some n → n ≤ maxCount

section Merge

variable {known : Usage} {a b t : Option Nat}

theorem merge_of_unknown : merge ⟨none, none, none⟩ (of a b t) = of a b t := by
  cases a <;> cases b <;> cases t <;> rfl

theorem total_merge_of_known {x y : Nat} (hx : (known.merge (of a b t)).input = some x)
    (hy : (known.merge (of a b t)).output = some y) :
    (known.merge (of a b t)).total = (t <|> some (addCounts x y)) := by
  obtain ⟨i, o, k⟩ := known
  cases t <;> cases a <;> cases b <;> simp_all [merge, of]

theorem total_merge_of_unknown (h : (known.merge (of a b t)).input = none
    ∨ (known.merge (of a b t)).output = none) :
    (known.merge (of a b t)).total = (t <|> known.total) := by
  obtain ⟨i, o, k⟩ := known
  cases t <;> cases a <;> cases b <;> cases i <;> cases o <;> simp_all [merge, of]

/-- A report that is laid over itself changes nothing. -/
theorem merge_merge_of : (known.merge (of a b t)).merge (of a b t) = known.merge (of a b t) := by
  obtain ⟨i, o, k⟩ := known
  cases t <;> cases a <;> cases b <;> cases i <;> cases o <;> rfl

/-- A report without counts leaves what is known, if the total goes with the counts. -/
theorem merge_of_silent (h : ∀ x y, known.input = some x → known.output = some y →
    known.total = some (addCounts x y)) : known.merge (of none none none) = known := by
  obtain ⟨_ | i, _ | o, k⟩ := known <;> simp_all [merge, of]

end Merge

section Reports

variable {input output total key : String} {report : Json} {reports : List Json}

theorem countIn_eq_none (h : ¬Gives key report) : countIn report key = none := by
  rw [countIn, Option.not_isSome_iff_eq_none.1 h, Option.map_none]

theorem countIn_le {n : Nat} (h : countIn report key = some n) : n ≤ maxCount := by
  obtain ⟨m, -, rfl⟩ := Option.map_eq_some_iff.1 h
  exact Nat.min_le_right m maxCount

theorem lastGiven_concat (key : String) (reports : List Json) (report : Json) :
    lastGiven key (reports ++ [report]) = (countIn report key <|> lastGiven key reports) := by
  unfold lastGiven countIn
  rw [List.filterMap_append]
  cases h : (report.get key).nat? <;> simp [h]

theorem lastGiven_le {n : Nat} (h : lastGiven key reports = some n) : n ≤ maxCount := by
  obtain ⟨m, -, rfl⟩ := Option.map_eq_some_iff.1 h
  exact Nat.min_le_right m maxCount

theorem lastGiven_append_cons {after : List Json} {n : Nat} (before : List Json)
    (hreport : (report.get key).nat? = some n) (hafter : ∀ r ∈ after, ¬Gives key r) :
    lastGiven key (before ++ report :: after) = some (min n maxCount) := by
  have hnone : after.filterMap (fun r => (r.get key).nat?) = [] :=
    List.filterMap_eq_nil_iff.2 fun r hr => Option.not_isSome_iff_eq_none.1 (hafter r hr)
  simp [lastGiven, hreport, hnone]

/-- What any number of reports come to, none at all included. -/
def gathered (input output total : String) (reports : List Json) : Usage :=
  (reports.map (ofJson · input output total)).foldl merge ⟨none, none, none⟩

theorem overlaid_eq_gathered (input output total : String) (first : Json) (later : List Json) :
    overlaid input output total first later = gathered input output total (first :: later) := by
  rw [gathered, List.map_cons, List.foldl_cons, ofJson, merge_of_unknown]
  rfl

theorem gathered_concat (input output total : String) (reports : List Json) (report : Json) :
    gathered input output total (reports ++ [report]) =
      (gathered input output total reports).merge (ofJson report input output total) := by
  simp [gathered]

theorem input_gathered (input output total : String) (reports : List Json) :
    (gathered input output total reports).input = lastGiven input reports := by
  induction reports using List.reverseRecOn with
  | nil => rfl
  | append_singleton reports report ih =>
    rw [gathered_concat, lastGiven_concat, ← ih]
    rfl

theorem output_gathered (input output total : String) (reports : List Json) :
    (gathered input output total reports).output = lastGiven output reports := by
  induction reports using List.reverseRecOn with
  | nil => rfl
  | append_singleton reports report ih =>
    rw [gathered_concat, lastGiven_concat, ← ih]
    rfl

theorem total_gathered_of_unknown (h : (gathered input output total reports).input = none
    ∨ (gathered input output total reports).output = none) :
    (gathered input output total reports).total = lastGiven total reports := by
  induction reports using List.reverseRecOn with
  | nil => rfl
  | append_singleton reports report ih =>
    have hbefore : (gathered input output total reports).input = none
        ∨ (gathered input output total reports).output = none := by
      rw [input_gathered, output_gathered] at h ⊢
      rw [lastGiven_concat, lastGiven_concat] at h
      simp only [Option.orElse_eq_orElse, Option.orElse_eq_or, Option.or_eq_none_iff] at h
      exact h.imp And.right And.right
    rw [gathered_concat] at h ⊢
    rw [lastGiven_concat, ← ih hbefore]
    exact total_merge_of_unknown h

theorem total_gathered_of_known {a b : Nat}
    (ha : (gathered input output total (reports ++ [report])).input = some a)
    (hb : (gathered input output total (reports ++ [report])).output = some b) :
    (gathered input output total (reports ++ [report])).total =
      (countIn report total <|> some (addCounts a b)) := by
  rw [gathered_concat] at ha hb ⊢
  exact total_merge_of_known ha hb

theorem known_of_not {u : Usage} (h : ¬(u.input = none ∨ u.output = none)) :
    ∃ a b, u.input = some a ∧ u.output = some b := by
  obtain ⟨hi, ho⟩ := not_or.1 h
  obtain ⟨a, ha⟩ := Option.ne_none_iff_exists'.1 hi
  obtain ⟨b, hb⟩ := Option.ne_none_iff_exists'.1 ho
  exact ⟨a, b, ha, hb⟩

theorem total_stands_gathered {before after : List Json} {n : Nat}
    (hreport : (report.get total).nat? = some n)
    (hafter : ∀ r ∈ after, ¬Gives total r)
    (hlast : after = [] ∨ (gathered input output total (before ++ report :: after)).input = none
      ∨ (gathered input output total (before ++ report :: after)).output = none) :
    (gathered input output total (before ++ report :: after)).total = some (min n maxCount) := by
  have hstands := lastGiven_append_cons before hreport hafter
  by_cases hunknown : (gathered input output total (before ++ report :: after)).input = none
      ∨ (gathered input output total (before ++ report :: after)).output = none
  · rw [total_gathered_of_unknown hunknown, hstands]
  · -- with both counts known only the very last report can set the total
    obtain rfl := hlast.resolve_right hunknown
    obtain ⟨a, b, ha, hb⟩ := known_of_not hunknown
    rw [total_gathered_of_known ha hb, countIn, hreport]
    rfl

theorem total_derived_gathered {a b : Nat}
    (ha : (gathered input output total reports).input = some a)
    (hb : (gathered input output total reports).output = some b)
    (h : ∀ before report after, reports = before ++ report :: after → Gives total report →
      ∃ r ∈ after, Gives input r ∨ Gives output r) :
    (gathered input output total reports).total = some (addCounts a b) := by
  rcases List.eq_nil_or_concat' reports with rfl | ⟨before, report, rfl⟩
  · cases ha
  have hsilent : ¬Gives total report := fun hgives => by
    obtain ⟨_, hr, -⟩ := h before report [] rfl hgives
    cases hr
  rw [total_gathered_of_known ha hb, countIn_eq_none hsilent]
  rfl

theorem total_gathered_le {n : Nat}
    (h : (gathered input output total reports).total = some n) : n ≤ maxCount := by
  by_cases hunknown : (gathered input output total reports).input = none
      ∨ (gathered input output total reports).output = none
  · rw [total_gathered_of_unknown hunknown] at h
    exact lastGiven_le h
  · obtain ⟨a, b, ha, hb⟩ := known_of_not hunknown
    rcases List.eq_nil_or_concat' reports with rfl | ⟨before, report, rfl⟩
    · cases ha
    rw [total_gathered_of_known ha hb] at h
    rcases hreport : countIn report total with _ | m <;> rw [hreport] at h <;> cases h
    · exact Nat.min_le_right _ _
    · exact countIn_le hreport

end Reports

/-- Reports that are laid over each other leave the last of each count. A total stands until another
report follows; then, once both counts are known, it is their sum. -/
theorem overlaid_overlays (input output total : String) (first : Json) (later : List Json) :
    Overlays input output total (first :: later) (overlaid input output total first later)
    ∧ (∀ (known : Usage) (report : Json), (∀ a b, known.input = some a → known.output = some b →
        known.total = some (addCounts a b)) →
      ¬Gives input report → ¬Gives output report → ¬Gives total report →
        known.merge (ofJson report input output total) = known)
    ∧ ∀ (known : Usage) (report : Json), (known.merge (ofJson report input output total)).merge
        (ofJson report input output total) = known.merge (ofJson report input output total) := by
  refine ⟨?_, fun known report hknown hinput houtput htotal => ?_, fun _ _ => merge_merge_of⟩
  · rw [overlaid_eq_gathered]
    exact {
      input_last := input_gathered ..
      output_last := output_gathered ..
      total_stands := fun before report after n hreports hreport hafter hlast => by
        rw [hreports] at hlast ⊢
        exact total_stands_gathered hreport (fun r hr => (hafter r hr).2.2) hlast
      total_derived := fun a b ha hb h => total_derived_gathered ha hb h
      fits := fun n h => by
        rw [input_gathered, output_gathered] at h
        rcases h with h | h | h
        · exact lastGiven_le h
        · exact lastGiven_le h
        · exact total_gathered_le h }
  · rw [ofJson, countIn_eq_none hinput, countIn_eq_none houtput, countIn_eq_none htotal]
    exact merge_of_silent hknown

section Counted

/-- A report as the chat completions dialect writes it. -/
def counted (prompt completion total : Option Nat) : Json :=
  .record [("prompt_tokens", prompt.map .nat), ("completion_tokens", completion.map .nat),
    ("total_tokens", total.map .nat)]

/-- What such reports come to. -/
def counting (first : Json) (later : List Json) : Usage :=
  overlaid "prompt_tokens" "completion_tokens" "total_tokens" first later

/-- A prompt beyond the greatest count, and a total. The total stands while the completion is
unknown, and gives way to the sum, which is beyond the greatest count, when the completion is
reported. -/
theorem counted_overlaid :
    (counting (counted (some 5000000000) none none)
      [counted none none (some 7), counted none none none]).total = some 7
    ∧ (counting (counted (some 5000000000) none none)
      [counted none none (some 7), counted none (some 3) none]).total = some 4294967295
    ∧ merge ⟨some 1, some 2, some 3⟩ (ofJson (.obj []) "prompt_tokens" "completion_tokens"
      "total_tokens") = ⟨some 1, some 2, some 3⟩ := by
  obtain ⟨hsilent, hunchanged, -⟩ := overlaid_overlays "prompt_tokens" "completion_tokens"
    "total_tokens" (counted (some 5000000000) none none)
    [counted none none (some 7), counted none none none]
  obtain ⟨hcompleted, -⟩ := overlaid_overlays "prompt_tokens" "completion_tokens" "total_tokens"
    (counted (some 5000000000) none none) [counted none none (some 7), counted none (some 3) none]
  refine ⟨?_, ?_, hunchanged _ _ (by rintro _ _ ⟨⟩ ⟨⟩; rfl) nofun nofun nofun⟩
  · exact hsilent.total_stands [counted (some 5000000000) none none] _ _ 7 rfl rfl
      (List.forall_mem_singleton.2 ⟨nofun, nofun, nofun⟩) (.inr (.inr rfl))
  · refine hcompleted.total_derived 4294967295 3 rfl rfl
      fun before report after hreports htotal => ?_
    rcases before with _ | ⟨_, _ | ⟨_, _ | ⟨_, before⟩⟩⟩
    · cases hreports
      cases htotal
    · cases hreports
      exact ⟨_, List.mem_singleton_self _, .inr rfl⟩
    · cases hreports
      cases htotal
    · simp at hreports

/-- A report without counts makes another total of one that was reported together with both
counts. -/
theorem counted_total_lost :
    (∀ key, ¬Gives key (.obj []))
    ∧ counting (counted (some 5) (some 3) (some 100)) [] = ⟨some 5, some 3, some 100⟩
    ∧ counting (counted (some 5) (some 3) (some 100)) [.obj []] = ⟨some 5, some 3, some 8⟩ :=
  ⟨nofun, rfl, rfl⟩

end Counted

end Usage

end Switchboard
