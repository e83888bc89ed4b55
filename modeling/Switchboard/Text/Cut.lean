/-!
# Cutting texts

Splitting a text at every occurrence of a character, and cutting it at the first occurrence of a
mark.
-/

namespace Switchboard.Text

/-- The pieces between the occurrences of `sep`, one more than there are of them. -/
def splitOn (sep : Char) : List Char → List (List Char)
  | [] => [[]]
  | c :: cs =>
    match splitOn sep cs with
    | [] => [[c]]
    | piece :: pieces =>
      if c == sep then [] :: piece :: pieces else (c :: piece) :: pieces

/-- What stands before and after the first place where `mark` stands. -/
def cutAt (mark : List Char) : List Char → Option (List Char × List Char)
  | [] => if mark.isEmpty then some ([], []) else none
  | c :: cs =>
    if mark.isPrefixOf (c :: cs) then some ([], (c :: cs).drop mark.length)
    else (cutAt mark cs).map fun (before, after) => (c :: before, after)

/-- The rest of a text that starts with `mark`. -/
def after? (mark text : String) : Option String :=
  if mark.toList.isPrefixOf text.toList then
    some (String.ofList (text.toList.drop mark.toList.length))
  else none

theorem after?_eq_some_iff {mark text rest : String} :
    after? mark text = some rest ↔ text = mark ++ rest := by
  constructor
  · intro h
    unfold after? at h
    split at h
    · rename_i hmark
      obtain ⟨more, hmore⟩ := List.isPrefixOf_iff_prefix.1 hmark
      rw [← hmore, List.drop_left] at h
      rw [← Option.some.inj h, ← String.toList_inj, String.toList_append, String.toList_ofList,
        hmore]
    · simp at h
  · rintro rfl
    simp [after?, String.toList_append]

/-- A text without any of the marks it starts with, one after the other. -/
def dropLeading (mark text : List Char) : List Char := go text.length text
where
  go : Nat → List Char → List Char
    | 0, text => text
    | fuel + 1, text =>
      if !mark.isEmpty && mark.isPrefixOf text then go fuel (text.drop mark.length) else text

/-- `text` with every occurrence of `mark` written as `instead`, from left to right. -/
def replaceAll (mark instead : List Char) (text : List Char) : List Char :=
  go text.length text
where
  go : Nat → List Char → List Char
    | 0, text => text
    | fuel + 1, text =>
      match cutAt mark text with
      | none => text
      | some (before, after) => before ++ instead ++ go fuel after

/-- Whether `mark` stands anywhere in `text`. -/
def contains (mark text : String) : Bool := (cutAt mark.toList text.toList).isSome

end Switchboard.Text
