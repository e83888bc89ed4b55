import Switchboard.Text.CombiningClass
import Switchboard.Text.Decomposition

/-!
# The normal form of a text

Texts that say the same have one normal form: every character is taken apart, the marks after a
character are put in the order of their classes, and what can be put together again is.
-/

namespace Switchboard.Text

/-- A text, last character first, with a mark put after it, before the marks of greater classes. -/
def putMark (c : Char) : List Char → List Char
  | [] => [c]
  | d :: before =>
    if 0 < combiningClass c && combiningClass c < combiningClass d then d :: putMark c before
    else c :: d :: before

/-- A text with the marks after each character in the order of their classes. Marks of one class
stay in the order they are in. -/
def inOrder (cs : List Char) : List Char :=
  (cs.foldl (fun before c => putMark c before) []).reverse

/-- A text put together after a base, if there is one, and the marks that stand by themselves after
it, last first. A character joins the base unless something of its class or a greater one is
between them. -/
def putTogether : Option Char → List Char → List Char → List Char
  | base, marks, [] => base.toList ++ marks.reverse
  | none, marks, c :: cs =>
    if combiningClass c = 0 then marks.reverse ++ putTogether (some c) [] cs
    else putTogether none (c :: marks) cs
  | some base, marks, c :: cs =>
    let isApart := marks.head?.any fun m => combiningClass c ≤ combiningClass m
    match if isApart then none else composed? base c with
    | some whole => putTogether (some whole) marks cs
    | none =>
      if combiningClass c = 0 then base :: (marks.reverse ++ putTogether (some c) [] cs)
      else putTogether (some base) (c :: marks) cs

/-- The normal form of a text. ASCII is in normal form. -/
def normal (cs : List Char) : List Char :=
  if cs.all isAscii then cs else putTogether none [] (inOrder (cs.flatMap decomposed))

end Switchboard.Text
