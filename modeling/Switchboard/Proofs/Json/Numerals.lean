import Mathlib.Data.List.TakeDrop
import Mathlib.Tactic.ByContra
import Switchboard.Json.Printer
import Switchboard.Json.Reader

/-!
# Numerals read back

A numeral is scanned the same whatever follows it, as long as that does not go on with it
(`Json.scanNumeral_append`). So a number that is read back from its text alone (`Number.Legible`) is
read back wherever that text stands. An integer of 64 bits always is (`Number.legible_whole`); a
double need not be.
-/

namespace Switchboard

namespace Json

/-- What follows a number does not go on with it. -/
def Stops : List Char → Prop
  | [] => True
  | c :: _ => c.isDigit = false ∧ c ≠ '.' ∧ c ≠ 'e' ∧ c ≠ 'E'

section Scanning

variable {c : Char} {cs rest left : List Char}

theorem takeDigits_of_digit (h : c.isDigit = true) :
    takeDigits (c :: cs) = ((c.toNat - '0'.toNat) :: (takeDigits cs).1, (takeDigits cs).2) := by
  simp [takeDigits, List.span_eq_takeWhile_dropWhile, h]

theorem takeDigits_of_not_digit (h : c.isDigit = false) :
    takeDigits (c :: cs) = ([], c :: cs) := by
  simp [takeDigits, List.span_eq_takeWhile_dropWhile, h]

theorem takeDigits_append (hrest : Stops rest) :
    ∀ cs : List Char, takeDigits (cs ++ rest) = ((takeDigits cs).1, (takeDigits cs).2 ++ rest)
  | [] => by
    cases rest with
    | nil => rfl
    | cons c rest => exact takeDigits_of_not_digit hrest.1
  | c :: cs => by
    rw [List.cons_append]
    by_cases h : c.isDigit = true
    · rw [takeDigits_of_digit h, takeDigits_of_digit h, takeDigits_append hrest cs]
    · have h : c.isDigit = false := by simpa using h
      rw [takeDigits_of_not_digit h, takeDigits_of_not_digit h, List.cons_append]

theorem scanWhole_append (hrest : Stops rest) (cs : List Char) :
    scanWhole (cs ++ rest) = (scanWhole cs).map fun found => (found.1, found.2 ++ rest) := by
  rw [scanWhole, scanWhole, takeDigits_append hrest]
  rcases takeDigits cs with ⟨_ | ⟨_ | d, _ | ⟨e, ds⟩⟩, left⟩ <;> rfl

/-- The digits a text has to start with, and the rest. -/
def scanDigits (cs : List Char) : Option (List Nat × List Char) :=
  if (takeDigits cs).1 = [] then none else some (takeDigits cs)

theorem scanDigits_append (hrest : Stops rest) (cs : List Char) :
    scanDigits (cs ++ rest) = (scanDigits cs).map fun found => (found.1, found.2 ++ rest) := by
  simp only [scanDigits, takeDigits_append hrest]
  split_ifs <;> rfl

theorem scanFraction_point (cs : List Char) :
    scanFraction ('.' :: cs) = (scanDigits cs).map fun found => (some found.1, found.2) := by
  rw [scanFraction, scanDigits]
  rcases takeDigits cs with ⟨_ | ⟨d, ds⟩, left⟩ <;> rfl

theorem scanFraction_of_stops (h : Stops rest) : scanFraction rest = some (none, rest) := by
  unfold scanFraction
  split
  · exact absurd rfl h.2.1
  · rfl

theorem scanFraction_append (hrest : Stops rest) :
    ∀ cs : List Char, scanFraction (cs ++ rest) =
      (scanFraction cs).map fun found => (found.1, found.2 ++ rest)
  | [] => scanFraction_of_stops hrest
  | c :: cs => by
    by_cases h : c = '.'
    · subst h
      rw [List.cons_append, scanFraction_point, scanFraction_point, scanDigits_append hrest,
        Option.map_map, Option.map_map]
      rfl
    · simp [scanFraction, h]

/-- Whether a text starts with a minus, and what follows its sign. -/
def takeSign : List Char → Bool × List Char
  | '-' :: cs => (true, cs)
  | '+' :: cs => (false, cs)
  | cs => (false, cs)

theorem takeSign_append : ∀ cs : List Char, cs ≠ [] →
    takeSign (cs ++ rest) = ((takeSign cs).1, (takeSign cs).2 ++ rest)
  | [], h => absurd rfl h
  | c :: cs, _ => by
    by_cases hminus : c = '-'
    · rw [hminus]
      rfl
    by_cases hplus : c = '+'
    · rw [hplus]
      rfl
    · simp [takeSign, hminus, hplus]

theorem scanExponent_letter (hc : (c == 'e' || c == 'E') = true) (cs : List Char) :
    scanExponent (c :: cs) =
      (scanDigits (takeSign cs).2).map fun found => (some ((takeSign cs).1, found.1), found.2) := by
  rcases cs with _ | ⟨sign, cs⟩
  · simp [scanExponent, hc, takeSign, scanDigits, takeDigits]
  by_cases hminus : sign = '-'
  · subst hminus
    simp only [scanExponent, hc, if_true, takeSign, scanDigits]
    rcases takeDigits cs with ⟨_ | ⟨d, ds⟩, left⟩ <;> rfl
  by_cases hplus : sign = '+'
  · subst hplus
    simp only [scanExponent, hc, if_true, takeSign, scanDigits]
    rcases takeDigits cs with ⟨_ | ⟨d, ds⟩, left⟩ <;> rfl
  · simp only [scanExponent, hc, if_true, takeSign, scanDigits, List.cons.injEq, hminus, hplus,
      false_and, imp_self, implies_true]
    rcases takeDigits (sign :: cs) with ⟨_ | ⟨d, ds⟩, left⟩ <;> rfl

theorem scanExponent_of_stops (h : Stops rest) : scanExponent rest = some (none, rest) := by
  cases rest with
  | nil => rfl
  | cons c cs => simp [scanExponent, h.2.2.1, h.2.2.2]

-- This is no equation: after a letter alone, the sign and the digits may stand in what follows.
theorem scanExponent_append {found : Option (Bool × List Nat)} (hrest : Stops rest)
    (h : scanExponent cs = some (found, left)) :
    scanExponent (cs ++ rest) = some (found, left ++ rest) := by
  rcases cs with _ | ⟨c, cs⟩
  · obtain ⟨rfl, rfl⟩ : found = none ∧ left = [] := by simpa [scanExponent, eq_comm] using h
    exact scanExponent_of_stops hrest
  by_cases hc : (c == 'e' || c == 'E') = true
  · have hne : cs ≠ [] := by
      rintro rfl
      simp [scanExponent_letter hc, takeSign, scanDigits, takeDigits] at h
    rw [scanExponent_letter hc] at h
    rw [List.cons_append, scanExponent_letter hc, takeSign_append cs hne,
      scanDigits_append hrest, Option.map_map]
    obtain ⟨digits, hdigits, heq⟩ := Option.map_eq_some_iff.1 h
    obtain ⟨rfl, rfl⟩ := Prod.mk.inj heq
    rw [hdigits]
    rfl
  · obtain ⟨rfl, rfl⟩ : found = none ∧ left = c :: cs := by
      simpa [scanExponent, hc, eq_comm] using h
    simp [scanExponent, hc]

/-- A numeral after its sign. -/
def scanUnsigned (negative : Bool) (cs : List Char) : Option (Numeral × List Char) := do
  let (whole, cs) ← scanWhole cs
  let (fraction, cs) ← scanFraction cs
  let (exponent, cs) ← scanExponent cs
  return (⟨negative, whole, fraction, exponent⟩, cs)

theorem scanNumeral_minus (cs : List Char) : scanNumeral ('-' :: cs) = scanUnsigned true cs := rfl

theorem scanNumeral_of_ne (h : c ≠ '-') (cs : List Char) :
    scanNumeral (c :: cs) = scanUnsigned false (c :: cs) := by
  simp [scanNumeral, scanUnsigned, h]

theorem scanUnsigned_eq_some_iff {negative : Bool} {found : Numeral × List Char} :
    scanUnsigned negative cs = some found ↔
      ∃ whole fraction exponent, scanWhole cs = some whole
        ∧ scanFraction whole.2 = some fraction ∧ scanExponent fraction.2 = some exponent
        ∧ (⟨negative, whole.1, fraction.1, exponent.1⟩, exponent.2) = found := by
  simp only [scanUnsigned, Option.bind_eq_bind, Option.bind_eq_some_iff, Option.pure_def,
    Option.some.injEq]
  exact ⟨fun ⟨w, hw, f, hf, e, he, h⟩ => ⟨w, f, e, hw, hf, he, h⟩,
    fun ⟨w, f, e, hw, hf, he, h⟩ => ⟨w, hw, f, hf, e, he, h⟩⟩

theorem scanUnsigned_append {negative : Bool} {m : Numeral} (hrest : Stops rest)
    (h : scanUnsigned negative cs = some (m, left)) :
    scanUnsigned negative (cs ++ rest) = some (m, left ++ rest) := by
  obtain ⟨whole, fraction, ⟨exponent, last⟩, hwhole, hfraction, hexponent, heq⟩ :=
    scanUnsigned_eq_some_iff.1 h
  obtain ⟨rfl, rfl⟩ := Prod.mk.inj heq
  refine scanUnsigned_eq_some_iff.2 ⟨(whole.1, whole.2 ++ rest), (fraction.1, fraction.2 ++ rest),
    (exponent, last ++ rest), ?_, ?_, scanExponent_append hrest hexponent, rfl⟩
  · rw [scanWhole_append hrest, hwhole]
    rfl
  · rw [scanFraction_append hrest, hfraction]
    rfl

/-- A number starts with a minus or a digit. -/
theorem scanNumeral_head {m : Numeral} (h : scanNumeral cs = some (m, left)) :
    ∃ c tail, cs = c :: tail ∧ (c = '-' ∨ c.isDigit = true) := by
  rcases cs with _ | ⟨c, cs⟩
  · cases h
  refine ⟨c, cs, rfl, ?_⟩
  by_contra hc
  push Not at hc
  have hdigit : c.isDigit = false := by simpa using hc.2
  rw [scanNumeral_of_ne hc.1, scanUnsigned_eq_some_iff] at h
  obtain ⟨whole, -, -, hwhole, -⟩ := h
  simp [scanWhole, takeDigits_of_not_digit hdigit] at hwhole

/-- A numeral is scanned the same whatever follows it. -/
theorem scanNumeral_append {m : Numeral} (hrest : Stops rest)
    (h : scanNumeral cs = some (m, left)) : scanNumeral (cs ++ rest) = some (m, left ++ rest) := by
  obtain ⟨c, cs, rfl, -⟩ := scanNumeral_head h
  rw [List.cons_append]
  by_cases hminus : c = '-'
  · rw [hminus] at h ⊢
    exact scanUnsigned_append hrest h
  · rw [scanNumeral_of_ne hminus] at h ⊢
    exact scanUnsigned_append hrest h

end Scanning

/-- The digits a number is written with. -/
def digitsOf (n : Nat) : List Nat := (Nat.toDigits 10 n).map fun c => c.toNat - '0'.toNat

section Whole

variable {n : Nat}

theorem ofDigits_digitsOf (n : Nat) : ofDigits (digitsOf n) = n := by
  conv_rhs => rw [← Nat.ofDigitChars_ten_toDigits (n := n), Nat.ofDigitChars_eq_foldl]
  simp only [ofDigits, digitsOf, List.foldl_map, Nat.mul_comm]

theorem digitsOf_of_lt (h : n < 10) : digitsOf n = [n] := by
  rw [digitsOf, Nat.toDigits_of_lt_base h]
  revert h n
  decide

theorem digitsOf_of_le (h : 10 ≤ n) : digitsOf n = digitsOf (n / 10) ++ [n % 10] := by
  have hlast := digitsOf_of_lt (Nat.mod_lt n (by decide : 0 < 10))
  rw [digitsOf, Nat.toDigits_of_lt_base (Nat.mod_lt n (by decide))] at hlast
  rw [digitsOf, Nat.toDigits_of_base_le (by decide) h, List.map_append, hlast]
  rfl

/-- Only zero starts with a zero. -/
theorem digitsOf_head : ∀ n : Nat, digitsOf n = [0] ∨ ∃ d ds, digitsOf n = (d + 1) :: ds
  | 0 => .inl rfl
  | n + 1 => by
    by_cases h : n + 1 < 10
    · exact .inr ⟨n, [], digitsOf_of_lt h⟩
    · rw [digitsOf_of_le (by omega)]
      rcases digitsOf_head ((n + 1) / 10) with hzero | ⟨d, ds, hds⟩
      · have hvalue := ofDigits_digitsOf ((n + 1) / 10)
        simp only [hzero, ofDigits, List.foldl_cons, List.foldl_nil] at hvalue
        omega
      · exact .inr ⟨d, ds ++ [(n + 1) % 10], by rw [hds]; rfl⟩

theorem takeDigits_of_digits :
    ∀ cs : List Char, (∀ c ∈ cs, c.isDigit = true) →
      takeDigits cs = (cs.map fun c => c.toNat - '0'.toNat, [])
  | [], _ => rfl
  | c :: cs, h => by
    obtain ⟨hc, hcs⟩ := List.forall_mem_cons.1 h
    rw [takeDigits_of_digit hc, takeDigits_of_digits cs hcs]
    rfl

theorem scanWhole_toDigits (n : Nat) : scanWhole (Nat.toDigits 10 n) = some (digitsOf n, []) := by
  have htake := takeDigits_of_digits (Nat.toDigits 10 n) fun c hc =>
    Nat.isDigit_of_mem_toDigits (by decide) (by decide) hc
  rw [← digitsOf] at htake
  rw [scanWhole, htake]
  rcases digitsOf_head n with h | ⟨d, ds, h⟩ <;> simp [h]

theorem scanUnsigned_toDigits (negative : Bool) (n : Nat) :
    scanUnsigned negative (Nat.toDigits 10 n) = some (⟨negative, digitsOf n, none, none⟩, []) := by
  rw [scanUnsigned, scanWhole_toDigits]
  rfl

theorem wholeChars_of_neg {n : Int} (h : n < 0) :
    wholeChars n = '-' :: Nat.toDigits 10 n.natAbs :=
  if_pos h

theorem wholeChars_of_nonneg {n : Int} (h : ¬n < 0) : wholeChars n = Nat.toDigits 10 n.natAbs :=
  if_neg h

theorem scanNumeral_wholeChars (n : Int) : scanNumeral (wholeChars n) =
    some (⟨decide (n < 0), digitsOf n.natAbs, none, none⟩, []) := by
  by_cases hneg : n < 0
  · rw [wholeChars_of_neg hneg, scanNumeral_minus, scanUnsigned_toDigits, decide_eq_true hneg]
  · obtain ⟨c, cs, hcs⟩ := List.exists_cons_of_ne_nil
      (Nat.toDigits_ne_nil (n := n.natAbs) (b := 10))
    have hc : c.isDigit = true :=
      Nat.isDigit_of_mem_toDigits (by decide) (by decide) (hcs ▸ List.mem_cons_self)
    have hminus : c ≠ '-' := by
      rintro rfl
      cases hc
    rw [wholeChars_of_nonneg hneg, hcs, scanNumeral_of_ne hminus, ← hcs, scanUnsigned_toDigits,
      decide_eq_false hneg]

theorem value_wholeChars {n : Int} (hlow : -(Nat.pow 2 63) ≤ n) (hhigh : n ≤ maxSignificand) :
    Numeral.value ⟨decide (n < 0), digitsOf n.natAbs, none, none⟩ = some (.whole n) := by
  have h63 : Nat.pow 2 63 = 9223372036854775808 := rfl
  have h64 : Nat.pow 2 64 = 18446744073709551616 := rfl
  simp only [maxSignificand, h63, h64] at hlow hhigh
  simp only [Numeral.value, ofDigits_digitsOf, maxSignificand, h63, h64]
  by_cases hneg : n < 0
  · rw [if_neg (by simp [hneg]), if_pos (by simp [hneg]; omega)]
    congr 2
    omega
  · rw [if_pos (by simp [hneg]; omega)]
    congr 2
    omega

end Whole

end Json

open Json

/-- The number is what its own text is read as. -/
def Number.Legible (n : Number) : Prop :=
  ∃ m : Numeral, scanNumeral (numberChars n) = some (m, []) ∧ m.value = some n

namespace Number

theorem legible_whole {n : Int} (hlow : -(Nat.pow 2 63) ≤ n) (hhigh : n ≤ maxSignificand) :
    (whole n).Legible :=
  ⟨_, scanNumeral_wholeChars n, value_wholeChars hlow hhigh⟩

/-- Zero with a minus, which no integer is, is read back with its minus. -/
theorem legible_negative_zero : (real (-0.0)).Legible := by
  have hchars : numberChars (real (-0.0)) = ['-', '0', '.', '0'] := by decide +kernel
  refine ⟨⟨true, [0], some [0], none⟩, ?_, by decide +kernel⟩
  rw [hchars]
  rfl

end Number

end Switchboard
