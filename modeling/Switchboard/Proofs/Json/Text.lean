import Switchboard.Proofs.Json.Start
import Switchboard.Proofs.Json.Written

/-!
# JSON text read back

What is written of a string, an array or an object is read back wherever it stands, once the
numbers in it are read back from their own texts, and nothing goes on with a number that stands by
itself (`Json.read_chars`). So a value in canonical form is read back from its text when it is not
too deep (`Json.ofString?_render_of_legible`), and all its numbers are read back when they are
integers that fit 64 bits (`Json.ofString?_render`).
-/

namespace Switchboard

namespace Document

open Json

section Strings

variable {before rest : List Char} {whole : Bool}

theorem hex?_digitChar : ∀ n < 16, hex? (Nat.digitChar n) = some n := by decide

theorem scanString_escaped {letter c : Char} (h : escaped? letter = some c) (hu : letter ≠ 'u') :
    scanString before whole ('\\' :: letter :: rest) = scanString (c :: before) whole rest := by
  simp [scanString, h, hu]

theorem scanString_control {c : Char} (h : c.toNat < 0x20) : scanString before whole
      ('\\' :: 'u' :: '0' :: '0' :: Nat.digitChar (c.toNat / 16) :: Nat.digitChar (c.toNat % 16)
        :: rest) =
    scanString (c :: before) whole rest := by
  have hhigh := hex?_digitChar (c.toNat / 16) (by omega)
  have hlow := hex?_digitChar (c.toNat % 16) (by omega)
  have hhex : hex4? '0' '0' (Nat.digitChar (c.toNat / 16)) (Nat.digitChar (c.toNat % 16)) =
      some c.toNat := by
    simp only [hex4?, show hex? '0' = some 0 from rfl, hhigh, hlow, Option.bind_eq_bind,
      Option.bind_some, Option.pure_def]
    congr 1
    omega
  have hnotLow : isLowSurrogate c.toNat = false := by
    simp [isLowSurrogate]
    omega
  have hnotHigh : isHighSurrogate c.toNat = false := by
    simp [isHighSurrogate]
    omega
  rw [scanString, hhex]
  simp [hnotLow, hnotHigh]

theorem scanString_escapeChar (c : Char) : scanString before whole (escapeChar c ++ rest) =
    scanString (c :: before) whole rest := by
  unfold escapeChar
  split_ifs with hquote hslash hn hr ht hb hf hcontrol
  · obtain rfl := beq_iff_eq.1 hquote
    exact scanString_escaped rfl (by decide)
  · obtain rfl := beq_iff_eq.1 hslash
    exact scanString_escaped rfl (by decide)
  · obtain rfl := beq_iff_eq.1 hn
    exact scanString_escaped rfl (by decide)
  · obtain rfl := beq_iff_eq.1 hr
    exact scanString_escaped rfl (by decide)
  · obtain rfl := beq_iff_eq.1 ht
    exact scanString_escaped rfl (by decide)
  · obtain rfl : c = '\x08' := Char.toNat_inj.1 (beq_iff_eq.1 hb)
    exact scanString_escaped rfl (by decide)
  · obtain rfl : c = '\x0c' := Char.toNat_inj.1 (beq_iff_eq.1 hf)
    exact scanString_escaped rfl (by decide)
  · exact scanString_control hcontrol
  · have hquote : c ≠ '"' := by simpa using hquote
    have hslash : c ≠ '\\' := by simpa using hslash
    rw [List.singleton_append, scanString]
    · simp [hcontrol, hslash]
    all_goals simp [hquote, hslash]

theorem scanString_escape (cs : List Char) :
    scanString before whole (cs.flatMap escapeChar ++ '"' :: rest) =
      some (if whole then some (String.ofList (before.reverse ++ cs)) else none, rest) := by
  induction cs generalizing before with
  | nil => simp [scanString]
  | cons c cs ih =>
    rw [List.flatMap_cons, List.append_assoc, scanString_escapeChar, ih]
    simp

theorem readScalar_stringChars (s : String) :
    readScalar (stringChars s ++ rest) = (.str s, some rest) := by
  simp [stringChars, readScalar, scanString_escape]

end Strings

section Steps

variable {fuel room : Nat} {c : Char} {cs rest : List Char} {d : Document} {items : List Document}
  {members : List (String × Document)} {key : String}

theorem skipSpace_of_not_space (h : isSpace c = false) : skipSpace (c :: cs) = c :: cs :=
  List.dropWhile_cons_of_neg (by simp [h])

theorem skipSpace_of_opens (h : opens c = true) : skipSpace (c :: cs) = c :: cs := by
  refine skipSpace_of_not_space ?_
  by_contra hspace
  have hblank := isBlank_of_isSpace (c := c) (by simpa using hspace)
  rw [not_isBlank_of_opens h] at hblank
  simp at hblank

theorem read_scalar (hsquare : c ≠ '[') (hcurly : c ≠ '{') :
    read (fuel + 1) room (c :: cs) = readScalar (c :: cs) :=
  read.eq_6 _ _ _ (fun _ h => hsquare (List.cons.inj h).1) fun _ h => hcurly (List.cons.inj h).1

theorem read_numberChars {n : Number} (h : n.Legible) (hrest : Stops rest) :
    read (fuel + 1) room (numberChars n ++ rest) = (.num n, some rest) := by
  obtain ⟨m, hscan, hvalue⟩ := h
  obtain ⟨c, cs, hcs, hc⟩ := scanNumeral_head hscan
  have hne : ∀ d, d ≠ '-' → d.isDigit = false → c ≠ d := by
    rintro d hminus hdigit rfl
    simp [hminus, hdigit] at hc
  have hscan := scanNumeral_append hrest hscan
  rw [hcs, List.cons_append] at hscan ⊢
  -- a digit or a minus starts nothing but a number
  rw [read_scalar (hne _ (by decide) rfl) (hne _ (by decide) rfl), readScalar.eq_5, hscan]
  · simp [hvalue]
  all_goals
    rintro _ h
    exact hne _ (by decide) rfl (List.cons.inj h).1

theorem read_square_nil :
    read (fuel + 1) (room + 1) ('[' :: ']' :: rest) = (arr [], some rest) :=
  read.eq_3 ..

theorem read_curly_nil :
    read (fuel + 1) (room + 1) ('{' :: '}' :: rest) = (obj [], some rest) :=
  read.eq_5 ..

theorem readItems_last (h : read fuel room cs = (d, some (']' :: rest))) :
    readItems (fuel + 1) room items cs = (arr (items.reverse ++ [d]), some rest) := by
  have hend : skipSpace (']' :: rest) = ']' :: rest := skipSpace_of_not_space rfl
  simp [readItems, h, hend]

theorem readItems_comma (h : read fuel room cs = (d, some (',' :: rest)))
    (hrest : skipSpace rest = rest) :
    readItems (fuel + 1) room items cs = readItems fuel room (d :: items) rest := by
  have hcomma : skipSpace (',' :: rest) = ',' :: rest := skipSpace_of_not_space rfl
  simp [readItems, h, hcomma, hrest]

theorem readMembers_last (hcs : skipSpace cs = cs)
    (h : read fuel room cs = (d, some ('}' :: rest))) :
    readMembers (fuel + 1) room members (stringChars key ++ ':' :: cs) =
      (obj (members.reverse ++ [(key, d)]), some rest) := by
  have hcolon : skipSpace (':' :: cs) = ':' :: cs := skipSpace_of_not_space rfl
  have hend : skipSpace ('}' :: rest) = '}' :: rest := skipSpace_of_not_space rfl
  simp [readMembers, stringChars, scanString_escape, hcolon, hcs, h, hend, member]

theorem readMembers_comma (hcs : skipSpace cs = cs)
    (h : read fuel room cs = (d, some (',' :: rest))) (hrest : skipSpace rest = rest) :
    readMembers (fuel + 1) room members (stringChars key ++ ':' :: cs) =
      readMembers fuel room ((key, d) :: members) rest := by
  have hcolon : skipSpace (':' :: cs) = ':' :: cs := skipSpace_of_not_space rfl
  have hcomma : skipSpace (',' :: rest) = ',' :: rest := skipSpace_of_not_space rfl
  simp [readMembers, stringChars, scanString_escape, hcolon, hcs, h, hcomma, hrest, member]

end Steps

end Document

namespace Json

open Document

mutual

/-- Every number in the value is an integer of 64 bits, signed or unsigned. -/
def Integral : Json → Prop
  | null | bool _ | str _ => True
  | num (.whole n) => -(Nat.pow 2 63) ≤ n ∧ n ≤ maxSignificand
  | num (.real _) | num (.single _) => False
  | arr items => IntegralItems items
  | obj members => IntegralMembers members

def IntegralItems : List Json → Prop
  | [] => True
  | j :: rest => Integral j ∧ IntegralItems rest

def IntegralMembers : List (String × Json) → Prop
  | [] => True
  | (_, j) :: rest => Integral j ∧ IntegralMembers rest

end

mutual

/-- The numbers in a value. -/
def numbers : Json → List Number
  | null | bool _ | str _ => []
  | num n => [n]
  | arr items => numbersItems items
  | obj members => numbersMembers members

def numbersItems : List Json → List Number
  | [] => []
  | j :: rest => numbers j ++ numbersItems rest

def numbersMembers : List (String × Json) → List Number
  | [] => []
  | (_, j) :: rest => numbers j ++ numbersMembers rest

end

theorem mem_numbersItems {items : List Json} {n : Number} :
    n ∈ numbersItems items ↔ ∃ j ∈ items, n ∈ j.numbers := by
  induction items with
  | nil => simp [numbersItems]
  | cons j rest ih => simp [numbersItems, ih]

theorem mem_numbersMembers {members : List (String × Json)} {n : Number} :
    n ∈ numbersMembers members ↔ ∃ m ∈ members, n ∈ m.2.numbers := by
  induction members with
  | nil => simp [numbersMembers]
  | cons m rest ih => simp [numbersMembers, ih]

/-- Every number in the value is what its own text is read as. -/
def Legible (j : Json) : Prop := ∀ n ∈ j.numbers, n.Legible

theorem legible_arr {items : List Json} : (arr items).Legible ↔ ∀ j ∈ items, j.Legible := by
  simp only [Legible, numbers, mem_numbersItems]
  exact ⟨fun h j hj n hn => h n ⟨j, hj, hn⟩, fun h n ⟨j, hj, hn⟩ => h j hj n hn⟩

theorem legible_obj {members : List (String × Json)} :
    (obj members).Legible ↔ ∀ m ∈ members, m.2.Legible := by
  simp only [Legible, numbers, mem_numbersMembers]
  exact ⟨fun h m hm n hn => h n ⟨m, hm, hn⟩, fun h n ⟨m, hm, hn⟩ => h m hm n hn⟩

mutual

theorem Integral.legible : ∀ {j : Json}, j.Integral → j.Legible
  | null, _ | bool _, _ | str _, _ => nofun
  | num (.whole n), h => by simpa [Legible, numbers] using Number.legible_whole h.1 h.2
  | arr _, h => legible_arr.2 (IntegralItems.legible h)
  | obj _, h => legible_obj.2 (IntegralMembers.legible h)

theorem IntegralItems.legible : ∀ {items : List Json}, IntegralItems items →
    ∀ j ∈ items, j.Legible
  | [], _ => nofun
  | _ :: _, h => List.forall_mem_cons.2 ⟨Integral.legible h.1, IntegralItems.legible h.2⟩

theorem IntegralMembers.legible : ∀ {members : List (String × Json)}, IntegralMembers members →
    ∀ m ∈ members, m.2.Legible
  | [], _ => nofun
  | (_, _) :: _, h => List.forall_mem_cons.2 ⟨Integral.legible h.1, IntegralMembers.legible h.2⟩

end

section Documents

variable {fuel room : Nat} {rest : List Char}

theorem chars_head : ∀ {j : Json}, j.Legible → ∃ c cs, j.chars = c :: cs ∧ opens c = true
  | null, _ => ⟨'n', _, rfl, rfl⟩
  | bool true, _ => ⟨'t', _, rfl, rfl⟩
  | bool false, _ => ⟨'f', _, rfl, rfl⟩
  | str _, _ => ⟨'"', _, rfl, rfl⟩
  | arr _, _ => ⟨'[', _, rfl, rfl⟩
  | obj _, _ => ⟨'{', _, rfl, rfl⟩
  | num n, h => by
    obtain ⟨m, hscan, -⟩ := h n List.mem_cons_self
    obtain ⟨c, cs, hcs, hc⟩ := scanNumeral_head hscan
    refine ⟨c, cs, hcs, ?_⟩
    rcases hc with rfl | hc
    · rfl
    · simp [opens, hc]

theorem skipSpace_chars {j : Json} (h : j.Legible) :
    skipSpace (j.chars ++ rest) = j.chars ++ rest := by
  obtain ⟨c, cs, hcs, hc⟩ := chars_head h
  rw [hcs, List.cons_append, skipSpace_of_opens hc]

theorem skipSpace_itemsChars {j : Json} (h : j.Legible) (items : List Json) :
    skipSpace (itemsChars (j :: items) ++ rest) = itemsChars (j :: items) ++ rest := by
  rw [itemsChars, List.append_assoc, skipSpace_chars h]

theorem skipSpace_membersChars (m : String × Json) (members : List (String × Json)) :
    skipSpace (membersChars (m :: members) ++ rest) = membersChars (m :: members) ++ rest :=
  skipSpace_of_opens rfl

theorem moreItemsChars_cons (j : Json) (items : List Json) :
    moreItemsChars (j :: items) = ',' :: itemsChars (j :: items) := by
  rw [moreItemsChars, itemsChars]

theorem moreMembersChars_cons (m : String × Json) (members : List (String × Json)) :
    moreMembersChars (m :: members) = ',' :: membersChars (m :: members) := by
  rw [moreMembersChars, membersChars]

theorem stops_moreItemsChars (items : List Json) : Stops (moreItemsChars items ++ rest) := by
  cases items <;> exact ⟨rfl, by decide, by decide, by decide⟩

theorem stops_moreMembersChars (members : List (String × Json)) :
    Stops (moreMembersChars members ++ rest) := by
  cases members <;> exact ⟨rfl, by decide, by decide, by decide⟩

/-- An array that does not end at once is read by its items. -/
theorem read_square {j : Json} (h : j.Legible) (items : List Json) :
    read (fuel + 1) (room + 1) ('[' :: (itemsChars (j :: items) ++ rest)) =
      readItems fuel room [] (itemsChars (j :: items) ++ rest) := by
  obtain ⟨c, cs, hcs, hc⟩ := chars_head h
  rw [read.eq_3, skipSpace_itemsChars h]
  simp only [itemsChars, hcs, List.cons_append]
  split
  · rename_i heq
    obtain rfl := (List.cons.inj heq).1
    simp [opens] at hc
  · rfl

theorem read_curly (m : String × Json) (members : List (String × Json)) :
    read (fuel + 1) (room + 1) ('{' :: (membersChars (m :: members) ++ rest)) =
      readMembers fuel room [] (membersChars (m :: members) ++ rest) := by
  rw [read.eq_5, skipSpace_membersChars]
  rfl

-- The fuel is measured by the text: each step of the reader takes one unit of it, and no value,
-- item or member is written without a character.
mutual

/-- A value that is written down is read back, whatever follows it. -/
theorem read_chars : ∀ {j : Json} {fuel room : Nat} {rest : List Char}, j.Legible →
    j.depth ≤ room → 2 * j.chars.length ≤ fuel → Stops rest →
    read fuel room (j.chars ++ rest) = (j.document, some rest)
  | j, 0, room, rest, h, _, hfuel, _ => by
    obtain ⟨c, cs, hcs, -⟩ := chars_head h
    simp [hcs] at hfuel
  | null, fuel + 1, room, rest, _, _, _, _ => read_scalar (by decide) (by decide)
  | bool true, fuel + 1, room, rest, _, _, _, _ => read_scalar (by decide) (by decide)
  | bool false, fuel + 1, room, rest, _, _, _, _ => read_scalar (by decide) (by decide)
  | num n, fuel + 1, room, rest, h, _, _, hrest => read_numberChars (h n List.mem_cons_self) hrest
  | str s, fuel + 1, room, rest, _, _, _, _ =>
    (read_scalar (by decide) (by decide)).trans (readScalar_stringChars s)
  | arr items, fuel + 1, 0, rest, _, hdepth, _, _ => by simp [depth] at hdepth
  | arr [], fuel + 1, room + 1, rest, _, _, _, _ => read_square_nil
  | arr (j :: items), fuel + 1, room + 1, rest, h, hdepth, hfuel, _ => by
    simp only [depth, chars, List.length_cons] at hdepth hfuel
    have h := legible_arr.1 h
    rw [chars, List.cons_append, read_square (h j List.mem_cons_self) items,
      readItems_chars (List.cons_ne_nil _ _) h (by omega) (by omega)]
    rfl
  | obj members, fuel + 1, 0, rest, _, hdepth, _, _ => by simp [depth] at hdepth
  | obj [], fuel + 1, room + 1, rest, _, _, _, _ => read_curly_nil
  | obj (m :: members), fuel + 1, room + 1, rest, h, hdepth, hfuel, _ => by
    simp only [depth, chars, List.length_cons] at hdepth hfuel
    rw [chars, List.cons_append, read_curly m members,
      readMembers_chars (List.cons_ne_nil _ _) (legible_obj.1 h) (by omega) (by omega)]
    rfl

theorem readItems_chars : ∀ {items : List Json} {fuel room : Nat} {rest : List Char}
    {done : List Document}, items ≠ [] → (∀ j ∈ items, j.Legible) → depthItems items ≤ room →
    2 * (itemsChars items).length ≤ fuel →
    readItems fuel room done (itemsChars items ++ rest) =
      (.arr (done.reverse ++ documentItems items), some rest)
  | [], _, _, _, _, hne, _, _, _ => absurd rfl hne
  | j :: items, 0, _, _, _, _, h, _, hfuel => by
    obtain ⟨c, cs, hcs, -⟩ := chars_head (h j List.mem_cons_self)
    simp [itemsChars, hcs] at hfuel
  | [j], fuel + 1, room, rest, done, _, h, hdepth, hfuel => by
    simp only [itemsChars, moreItemsChars, List.length_append, List.length_singleton, depthItems,
      Nat.max_zero, List.append_assoc] at hdepth hfuel ⊢
    exact readItems_last
      (read_chars (h j List.mem_cons_self) hdepth (by omega) (stops_moreItemsChars []))
  | j :: k :: items, fuel + 1, room, rest, done, _, h, hdepth, hfuel => by
    obtain ⟨hj, hitems⟩ := Nat.max_le.1 hdepth
    obtain ⟨hlegible, hmore⟩ := List.forall_mem_cons.1 h
    have hlength : (itemsChars (j :: k :: items)).length =
        j.chars.length + (itemsChars (k :: items)).length + 1 := by
      rw [itemsChars, moreItemsChars_cons, List.length_append, List.length_cons, Nat.add_assoc]
    have hread : read fuel room (j.chars ++ (moreItemsChars (k :: items) ++ rest)) =
        (j.document, some (moreItemsChars (k :: items) ++ rest)) :=
      read_chars hlegible hj (by omega) (stops_moreItemsChars _)
    rw [itemsChars, List.append_assoc]
    rw [moreItemsChars_cons, List.cons_append] at hread ⊢
    rw [readItems_comma hread (skipSpace_itemsChars (hmore k List.mem_cons_self) items),
      readItems_chars (List.cons_ne_nil _ _) hmore hitems (by omega)]
    simp [documentItems]

theorem readMembers_chars : ∀ {members : List (String × Json)} {fuel room : Nat}
    {rest : List Char} {done : List (String × Document)}, members ≠ [] →
    (∀ m ∈ members, m.2.Legible) → depthMembers members ≤ room →
    2 * (membersChars members).length ≤ fuel →
    readMembers fuel room done (membersChars members ++ rest) =
      (.obj (done.reverse ++ documentMembers members), some rest)
  | [], _, _, _, _, hne, _, _, _ => absurd rfl hne
  | (key, j) :: members, 0, _, _, _, _, _, _, hfuel => by
    simp [membersChars, stringChars] at hfuel
  | [(key, j)], fuel + 1, room, rest, done, _, h, hdepth, hfuel => by
    simp only [membersChars, moreMembersChars, List.length_append, List.length_cons,
      List.length_nil, depthMembers, Nat.max_zero, List.append_assoc, List.cons_append]
      at hdepth hfuel ⊢
    have hlegible := h (key, j) List.mem_cons_self
    exact readMembers_last (skipSpace_chars hlegible)
      (read_chars hlegible hdepth (by omega) (stops_moreMembersChars []))
  | (key, j) :: m :: members, fuel + 1, room, rest, done, _, h, hdepth, hfuel => by
    obtain ⟨hj, hmembers⟩ := Nat.max_le.1 hdepth
    obtain ⟨hlegible, hmore⟩ := List.forall_mem_cons.1 h
    have hlength : (membersChars ((key, j) :: m :: members)).length =
        (stringChars key).length + j.chars.length + (membersChars (m :: members)).length + 2 := by
      rw [membersChars, moreMembersChars_cons]
      simp only [List.length_append, List.length_cons]
      omega
    have hread : read fuel room (j.chars ++ (moreMembersChars (m :: members) ++ rest)) =
        (j.document, some (moreMembersChars (m :: members) ++ rest)) :=
      read_chars hlegible hj (by omega) (stops_moreMembersChars _)
    have hspace : skipSpace (j.chars ++ (moreMembersChars (m :: members) ++ rest)) = _ :=
      skipSpace_chars hlegible
    rw [membersChars, List.append_assoc, List.cons_append, List.append_assoc]
    rw [moreMembersChars_cons, List.cons_append] at hread hspace ⊢
    rw [readMembers_comma hspace hread (skipSpace_membersChars m members),
      readMembers_chars (List.cons_ne_nil _ _) hmore hmembers (by omega)]
    simp [documentMembers]

end

end Documents

/-- A value is read back from the text it is written as. -/
theorem ofString?_render_of_legible {j : Json} (hcanonical : j.Canonical) (hlegible : j.Legible)
    (hdepth : j.depth ≤ maxDepth) : ofString? j.render = some j := by
  have hread : read (2 * j.chars.length + 2) maxDepth (j.chars ++ []) = (j.document, some []) :=
    read_chars hlegible hdepth (by omega) trivial
  have hspace : skipSpace (j.chars ++ []) = j.chars ++ [] := skipSpace_chars hlegible
  rw [List.append_nil] at hread hspace
  have hdocument : ofChars? j.chars = some j.document := by
    rw [ofChars?, atStart, hspace, hread]
    rfl
  rw [Json.ofString?, render, String.toList_ofList, parse?, hdocument]
  simp [value_document hcanonical, Except.toOption]

theorem ofString?_render {j : Json} (hcanonical : j.Canonical) (hintegral : j.Integral)
    (hdepth : j.depth ≤ maxDepth) : ofString? j.render = some j :=
  ofString?_render_of_legible hcanonical hintegral.legible hdepth

end Json

end Switchboard
