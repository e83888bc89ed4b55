import Mathlib.Data.List.TakeWhile
import Switchboard.Proofs.Json.Numerals
import Switchboard.Text.Blank

/-!
# How JSON text starts

The first character that is not a space tells what kind of value a text holds, and only few
characters do (`Document.opens`). None of them is blank, so a blank text holds no value
(`Json.not_blank`), and a text that holds one keeps its start when it is trimmed
(`Json.exists_opens`).
-/

namespace Switchboard

theorem Text.trimStart_of_blank {s : String} (h : Text.blank s = true) :
    Text.trimStart s.toList = [] := by
  have hall : ∀ c ∈ s.toList, Text.isBlank c = true := by simpa [Text.blank] using h
  exact List.dropWhile_eq_nil_iff.2 hall

namespace Document

/-- Whether a value may start with the character. -/
def opens (c : Char) : Bool :=
  c == '[' || c == '{' || c == '"' || c == 'n' || c == 't' || c == 'f' || c == '-' || c.isDigit

theorem isBlank_of_isSpace {c : Char} (h : isSpace c = true) : Text.isBlank c = true := by
  simp only [isSpace, Bool.or_eq_true, beq_iff_eq] at h
  rcases h with ((rfl | rfl) | rfl) | rfl <;> decide

theorem not_isBlank_of_isDigit {c : Char} (h : c.isDigit = true) : Text.isBlank c = false := by
  have hlow : 48 ≤ c.toNat := by
    simp only [Char.isDigit, Bool.and_eq_true, decide_eq_true_eq] at h
    exact h.1
  have hhigh : c.toNat ≤ 57 := by
    simp only [Char.isDigit, Bool.and_eq_true, decide_eq_true_eq] at h
    exact h.2
  simp only [Text.isBlank, Bool.or_eq_false_iff, Bool.and_eq_false_iff, decide_eq_false_iff_not,
    beq_eq_false_iff_ne]
  omega

theorem not_isBlank_of_opens {c : Char} (h : opens c = true) : Text.isBlank c = false := by
  simp only [opens, Bool.or_eq_true, beq_iff_eq] at h
  rcases h with ((((((rfl | rfl) | rfl) | rfl) | rfl) | rfl) | rfl) | h
  iterate 7 decide
  exact not_isBlank_of_isDigit h

theorem scanNumeral_of_not_opens {c : Char} (h : opens c = false) (cs : List Char) :
    Json.scanNumeral (c :: cs) = none := by
  by_contra hsome
  obtain ⟨⟨m, left⟩, hscan⟩ := Option.ne_none_iff_exists'.1 hsome
  obtain ⟨d, tail, heq, hd⟩ := Json.scanNumeral_head hscan
  obtain rfl := (List.cons.inj heq).1
  rcases hd with rfl | hd
  · simp [opens] at h
  · simp [opens, hd] at h

/-- Where no value starts, none is read. -/
theorem read_of_not_opens {c : Char} (h : opens c = false) :
    ∀ (fuel room : Nat) (cs : List Char), read fuel room (c :: cs) = (broken, none)
  | 0, _, _ => by rw [read.eq_1]
  | fuel + 1, room, cs => by
    have hnumeral := scanNumeral_of_not_opens h cs
    simp only [opens, Bool.or_eq_false_iff, beq_eq_false_iff_ne] at h
    obtain ⟨⟨⟨⟨⟨⟨⟨hsquare, hcurly⟩, hquote⟩, hn⟩, ht⟩, hf⟩, -⟩, -⟩ := h
    rw [read.eq_6 _ _ _ (fun _ heq => hsquare (List.cons.inj heq).1)
      (fun _ heq => hcurly (List.cons.inj heq).1)]
    unfold readScalar
    split
    · rename_i heq
      exact absurd (List.cons.inj heq).1 hquote
    · rename_i heq
      exact absurd (List.cons.inj heq).1 hn
    · rename_i heq
      exact absurd (List.cons.inj heq).1 ht
    · rename_i heq
      exact absurd (List.cons.inj heq).1 hf
    · rw [hnumeral]

theorem read_nil : ∀ fuel room : Nat, read fuel room [] = (broken, none)
  | 0, _ => by rw [read.eq_1]
  | fuel + 1, room => by
    rw [read.eq_6 _ _ _ (by simp) (by simp)]
    rfl

/-- An array whose first item does not start as a value does is broken. -/
theorem read_square_of_not_opens {c : Char} (h : opens c = false) (hspace : isSpace c = false)
    (hend : c ≠ ']') (fuel room : Nat) (cs : List Char) :
    (read fuel (room + 1) ('[' :: c :: cs)).2 = none := by
  rcases fuel with _ | fuel
  · rw [read.eq_1]
  have hskip : skipSpace (c :: cs) = c :: cs := List.dropWhile_cons_of_neg (by simp [hspace])
  rw [read.eq_3, hskip]
  split
  · rename_i heq
    exact absurd (List.cons.inj heq).1 hend
  · rcases fuel with _ | fuel
    · simp [readItems]
    · simp [readItems, read_of_not_opens h]

end Document

namespace Json

open Document

variable {s : String} {j : Json}

/-- What stands first in a text that holds a value, whether its blanks are trimmed or its spaces
skipped. -/
theorem exists_opens (h : ofString? s = some j) :
    ∃ c cs, opens c = true ∧ skipSpace s.toList = c :: cs ∧ Text.trimStart s.toList = c :: cs := by
  have hsome : (ofChars? s.toList).isSome = true := by
    unfold ofString? parse? at h
    rcases hd : ofChars? s.toList with _ | d
    · simp [hd] at h
    · rfl
  have htrim : Text.trimStart s.toList = Text.trimStart (skipSpace s.toList) := by
    unfold Text.trimStart skipSpace
    induction s.toList with
    | nil => rfl
    | cons c cs ih =>
      by_cases hc : isSpace c = true
      · rw [List.dropWhile_cons_of_pos hc, ← ih,
          List.dropWhile_cons_of_pos (isBlank_of_isSpace hc)]
      · rw [List.dropWhile_cons_of_neg hc]
  rcases hskip : skipSpace s.toList with _ | ⟨c, cs⟩
  · simp [ofChars?, atStart, hskip, read_nil] at hsome
  have hc : opens c = true := by
    by_contra hc
    have hc : opens c = false := by simpa using hc
    simp [ofChars?, atStart, hskip, read_of_not_opens hc] at hsome
  refine ⟨c, cs, hc, rfl, ?_⟩
  rw [htrim, hskip]
  exact List.dropWhile_cons_of_neg (by simp [not_isBlank_of_opens hc])

/-- A text that starts as an array does, but whose first item does not start as a value does, holds
no value. -/
theorem ofString?_of_square {c : Char} {cs : List Char} (hc : opens c = false)
    (hspace : isSpace c = false) (hend : c ≠ ']') (hs : skipSpace s.toList = '[' :: c :: cs) :
    ofString? s = none := by
  have hstart : (atStart s.toList).2 = none := by
    rw [atStart, hs]
    exact read_square_of_not_opens hc hspace hend _ (maxDepth - 1) cs
  have hnone : ofChars? s.toList = none := by
    unfold ofChars?
    rcases hread : atStart s.toList with ⟨d, _ | rest⟩
    · rfl
    · rw [hread] at hstart
      exact absurd hstart (by simp)
  rw [ofString?, parse?, hnone]

/-- A blank text holds no value. -/
theorem not_blank (h : ofString? s = some j) : Text.blank s = false := by
  obtain ⟨c, cs, -, -, htrim⟩ := exists_opens h
  by_contra hblank
  rw [Text.trimStart_of_blank (by simpa using hblank)] at htrim
  exact absurd htrim (by simp)

end Json

end Switchboard
