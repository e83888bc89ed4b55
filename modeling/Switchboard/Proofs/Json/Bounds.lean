import Switchboard.Proofs.Json.Text

/-!
# The bounds of what is read

Whatever a text holds, the value read from it is no deeper than the reader goes, and every integer
in it fits 64 bits (`Json.bounded_of_ofString?`). Each step of the reader keeps to the room it is
given (`Document.bounded_read`).
-/

namespace Switchboard

namespace Number

/-- The number is one that a text may hold. -/
def Readable : Number → Prop
  | whole n => -(Nat.pow 2 63) ≤ n ∧ n ≤ Json.maxSignificand
  | real _ => True
  | single _ => False

end Number

namespace Json

variable {room : Nat}

theorem depthItems_le {items : List Json} :
    depthItems items ≤ room ↔ ∀ j ∈ items, j.depth ≤ room := by
  induction items with
  | nil => simp [depthItems]
  | cons j rest ih => rw [depthItems, Nat.max_le, ih, List.forall_mem_cons]

theorem depthMembers_le {members : List (String × Json)} :
    depthMembers members ≤ room ↔ ∀ m ∈ members, m.2.depth ≤ room := by
  induction members with
  | nil => simp [depthMembers]
  | cons m rest ih => rw [depthMembers, Nat.max_le, ih, List.forall_mem_cons]

theorem readable_value {m : Numeral} {n : Number} (h : m.value = some n) : n.Readable := by
  simp only [Numeral.value] at h
  by_cases hplain : (m.fraction.isNone && m.exponent.isNone && !m.negative
      && decide (ofDigits m.whole ≤ maxSignificand)) = true
  · rw [if_pos hplain] at h
    obtain rfl := Option.some.inj h
    simp only [Bool.and_eq_true, decide_eq_true_eq] at hplain
    exact ⟨by omega, Int.ofNat_le.2 hplain.2⟩
  rw [if_neg hplain] at h
  by_cases hminus : (m.fraction.isNone && m.exponent.isNone && m.negative
      && decide (0 < ofDigits m.whole) && decide (ofDigits m.whole ≤ Nat.pow 2 63)) = true
  · rw [if_pos hminus] at h
    obtain rfl := Option.some.inj h
    simp only [Bool.and_eq_true, decide_eq_true_eq] at hminus
    exact ⟨by omega, by omega⟩
  · rw [if_neg hminus] at h
    obtain ⟨x, -, rfl⟩ := Option.map_eq_some_iff.1 h
    trivial

/-- The value keeps to the room a reader has. -/
structure Bounded (room : Nat) (j : Json) : Prop where
  depth : j.depth ≤ room
  numbers : ∀ n ∈ j.numbers, n.Readable

theorem bounded_arr {items : List Json} (h : ∀ j ∈ items, j.Bounded room) :
    (arr items).Bounded (room + 1) where
  depth := Nat.succ_le_succ (depthItems_le.2 fun j hj => (h j hj).depth)
  numbers := fun n hn => by
    obtain ⟨j, hj, hn⟩ := mem_numbersItems.1 hn
    exact (h j hj).numbers n hn

theorem bounded_mkObj {members : List (String × Json)} (h : ∀ m ∈ members, m.2.Bounded room) :
    (mkObj members).Bounded (room + 1) where
  depth := Nat.succ_le_succ
    (depthMembers_le.2 fun m hm => (h m (Members.mem_of_mem_ofList hm)).depth)
  numbers := fun n hn => by
    obtain ⟨m, hm, hn⟩ := mem_numbersMembers.1 hn
    exact (h m (Members.mem_of_mem_ofList hm)).numbers n hn

end Json

namespace Document

open Json

/-- What the document writes down, if it writes down a value, keeps to the room. -/
def Bounded (room : Nat) (d : Document) : Prop := ∀ j, d.value = .ok j → j.Bounded room

section Documents

variable {room : Nat}

theorem bounded_broken : broken.Bounded room := nofun

theorem bounded_valueless : valueless.Bounded room := nofun

theorem bounded_of_value {d : Document} {j : Json} (h : d.value = .ok j) (hj : j.Bounded room) :
    d.Bounded room := by
  intro k hk
  rw [h] at hk
  obtain rfl := Except.ok.inj hk
  exact hj

theorem bounded_num {n : Number} (h : n.Readable) : (num n).Bounded room :=
  bounded_of_value rfl ⟨Nat.zero_le _, by simpa [numbers] using h⟩

theorem mem_valueItems {items : List Document} {values : List Json}
    (h : valueItems items = .ok values) : ∀ j ∈ values, ∃ d ∈ items, d.value = .ok j := by
  induction items generalizing values with
  | nil =>
    obtain rfl := Except.ok.inj h
    exact List.forall_mem_nil _
  | cons d rest ih =>
    simp only [valueItems, bind_eq_ok_iff] at h
    obtain ⟨first, hfirst, more, hmore, h⟩ := h
    obtain rfl := Except.ok.inj h
    refine List.forall_mem_cons.2 ⟨⟨d, List.mem_cons_self, hfirst⟩, fun j hj => ?_⟩
    obtain ⟨e, he, hvalue⟩ := ih hmore j hj
    exact ⟨e, List.mem_cons_of_mem _ he, hvalue⟩

theorem mem_valueMembers {members : List (String × Document)} {values : List (String × Json)}
    (h : valueMembers members = .ok values) :
    ∀ v ∈ values, ∃ m ∈ members, m.2.value = .ok v.2 := by
  induction members generalizing values with
  | nil =>
    obtain rfl := Except.ok.inj h
    exact List.forall_mem_nil _
  | cons m rest ih =>
    simp only [valueMembers, bind_eq_ok_iff] at h
    obtain ⟨first, hfirst, more, hmore, h⟩ := h
    obtain rfl := Except.ok.inj h
    refine List.forall_mem_cons.2 ⟨⟨m, List.mem_cons_self, hfirst⟩, fun v hv => ?_⟩
    obtain ⟨e, he, hvalue⟩ := ih hmore v hv
    exact ⟨e, List.mem_cons_of_mem _ he, hvalue⟩

theorem bounded_arr {items : List Document} (h : ∀ d ∈ items, d.Bounded room) :
    (arr items).Bounded (room + 1) := by
  intro j hj
  simp only [value, bind_eq_ok_iff] at hj
  obtain ⟨values, hvalues, hj⟩ := hj
  obtain rfl := Except.ok.inj hj
  refine Json.bounded_arr fun k hk => ?_
  obtain ⟨d, hd, hvalue⟩ := mem_valueItems hvalues k hk
  exact h d hd k hvalue

theorem bounded_obj {members : List (String × Document)} (h : ∀ m ∈ members, m.2.Bounded room) :
    (obj members).Bounded (room + 1) := by
  intro j hj
  simp only [value, bind_eq_ok_iff] at hj
  obtain ⟨values, hvalues, hj⟩ := hj
  obtain rfl := Except.ok.inj hj
  refine Json.bounded_mkObj fun v hv => ?_
  obtain ⟨m, hm, hvalue⟩ := mem_valueMembers hvalues v hv
  exact h m hm v.2 hvalue

theorem bounded_arr_reverse {items : List Document} (h : ∀ d ∈ items, d.Bounded room) :
    (arr items.reverse).Bounded (room + 1) :=
  bounded_arr fun d hd => h d (List.mem_reverse.1 hd)

theorem bounded_obj_reverse {members : List (String × Document)}
    (h : ∀ m ∈ members, m.2.Bounded room) : (obj members.reverse).Bounded (room + 1) :=
  bounded_obj fun m hm => h m (List.mem_reverse.1 hm)

theorem bounded_member {d : Document} (key : Option String) (h : d.Bounded room) :
    (member key d).2.Bounded room := by
  cases key with
  | none => exact nofun
  | some key => exact h

end Documents

theorem bounded_readScalar (room : Nat) (cs : List Char) : (readScalar cs).1.Bounded room := by
  unfold readScalar
  split
  · split
    · exact bounded_broken
    · exact bounded_valueless
    · exact bounded_of_value rfl ⟨Nat.zero_le _, List.forall_mem_nil _⟩
  · exact bounded_of_value rfl ⟨Nat.zero_le _, List.forall_mem_nil _⟩
  · exact bounded_of_value rfl ⟨Nat.zero_le _, List.forall_mem_nil _⟩
  · exact bounded_of_value rfl ⟨Nat.zero_le _, List.forall_mem_nil _⟩
  · rcases Json.scanNumeral _ with _ | ⟨m, rest⟩
    · exact bounded_broken
    · rcases hvalue : m.value with _ | n
      · simpa [hvalue] using bounded_valueless
      · simpa [hvalue] using bounded_num (readable_value hvalue)

theorem bounded_readDeep (room : Nat) (bracket : Bracket) (cs : List Char) :
    (readDeep bracket cs).1.Bounded room := by
  unfold readDeep
  split
  · exact bounded_broken
  · exact bounded_valueless

-- The items and the members stand a step deeper than what they are in, and what was read of them
-- before is as good as what is read next.
mutual

theorem bounded_read : ∀ (fuel room : Nat) (cs : List Char), (read fuel room cs).1.Bounded room
  | 0, _, _ => by
    rw [read.eq_1]
    exact bounded_broken
  | fuel + 1, room, cs => by
    unfold read
    split
    · split
      · exact bounded_readDeep _ _ _
      · split
        · exact bounded_arr (List.forall_mem_nil _)
        · exact bounded_readItems _ _ (List.forall_mem_nil _) _
    · split
      · exact bounded_readDeep _ _ _
      · split
        · exact bounded_obj (List.forall_mem_nil _)
        · exact bounded_readMembers _ _ (List.forall_mem_nil _) _
    · exact bounded_readScalar _ _

theorem bounded_readItems : ∀ (fuel room : Nat) {items : List Document},
    (∀ d ∈ items, d.Bounded room) → ∀ cs : List Char,
      (readItems fuel room items cs).1.Bounded (room + 1)
  | 0, room, items, h, cs => by
    rw [readItems]
    exact bounded_arr_reverse (List.forall_mem_cons.2 ⟨bounded_broken, h⟩)
  | fuel + 1, room, items, h, cs => by
    have hread := bounded_read fuel room cs
    rw [readItems]
    generalize read fuel room cs = found at hread ⊢
    obtain ⟨d, rest⟩ := found
    have hitems : ∀ e ∈ d :: items, e.Bounded room := List.forall_mem_cons.2 ⟨hread, h⟩
    cases rest with
    | none => exact bounded_arr_reverse hitems
    | some rest =>
      simp only
      split
      · exact bounded_readItems fuel room hitems _
      · exact bounded_arr_reverse hitems
      · exact bounded_arr_reverse (List.forall_mem_cons.2 ⟨bounded_broken, hitems⟩)

theorem bounded_readMembers : ∀ (fuel room : Nat) {members : List (String × Document)},
    (∀ m ∈ members, m.2.Bounded room) → ∀ cs : List Char,
      (readMembers fuel room members cs).1.Bounded (room + 1)
  | 0, room, members, h, cs => by
    rw [readMembers]
    exact bounded_obj_reverse (List.forall_mem_cons.2 ⟨bounded_broken, h⟩)
  | fuel + 1, room, members, h, cs => by
    have hcons : ∀ {m : String × Document}, m.2.Bounded room →
        ∀ l ∈ m :: members, l.2.Bounded room := fun hm => List.forall_mem_cons.2 ⟨hm, h⟩
    unfold readMembers
    split
    · split
      · rename_i key rest _
        split
        · rename_i rest _
          have hread := bounded_read fuel room (skipSpace rest)
          generalize read fuel room (skipSpace rest) = found at hread ⊢
          obtain ⟨d, rest⟩ := found
          have hmembers := hcons (bounded_member key hread)
          cases rest with
          | none => exact bounded_obj_reverse hmembers
          | some rest =>
            simp only
            split
            · exact bounded_readMembers fuel room hmembers _
            · exact bounded_obj_reverse hmembers
            · exact bounded_obj_reverse (List.forall_mem_cons.2 ⟨bounded_broken, hmembers⟩)
        · exact bounded_obj_reverse (hcons (bounded_member key bounded_broken))
      · exact bounded_obj_reverse (hcons bounded_broken)
    · exact bounded_obj_reverse (hcons bounded_broken)

end

end Document

namespace Json

open Document

variable {s : String} {j : Json}

theorem exists_document (h : ofString? s = some j) :
    ∃ d, ofChars? s.toList = some d ∧ d.value = .ok j := by
  rw [ofString?, parse?] at h
  rcases hdocument : ofChars? s.toList with _ | d
  · simp [hdocument] at h
  · rw [hdocument] at h
    simp only at h
    rcases hvalue : d.value with fault | k
    · simp [hvalue, Except.toOption] at h
    · obtain rfl : k = j := by simpa [hvalue, Except.toOption] using h
      exact ⟨d, rfl, hvalue⟩

/-- Every value that is read from a text is in canonical form. -/
theorem canonical_of_ofString? (h : ofString? s = some j) : j.Canonical := by
  obtain ⟨d, -, hvalue⟩ := exists_document h
  exact canonical_of_value hvalue

/-- Every value that is read from a text keeps to the room the reader starts with. -/
theorem bounded_of_ofString? (h : ofString? s = some j) : j.Bounded maxDepth := by
  obtain ⟨d, hdocument, hvalue⟩ := exists_document h
  have hread := bounded_read (2 * s.toList.length + 2) maxDepth (skipSpace s.toList)
  rw [ofChars?, atStart] at hdocument
  generalize read (2 * s.toList.length + 2) maxDepth (skipSpace s.toList) = found
    at hread hdocument
  obtain ⟨e, _ | rest⟩ := found
  · simp at hdocument
  · simp only [Option.ite_none_right_eq_some] at hdocument
    obtain rfl := Option.some.inj hdocument.2
    exact hread j hvalue

end Json

end Switchboard
