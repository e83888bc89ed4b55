import Mathlib.Data.List.Basic
import Mathlib.Tactic.SplitIfs
import Switchboard.Text.Utf8

/-!
# Reading written text

Text is written as UTF-8 one character after the other, and what a character is written as is read
as that character, whatever follows (`decodeFirst_utf8EncodeChar`). So written text reads as itself,
also where the reading is lossy (`ofUtf8Lossy_utf8`).
-/

namespace Switchboard.Text

variable {b low high t₁ t₂ t₃ : UInt8}

theorem leadByte_of_ascii (h : b < 0x80) : leadByte b = none := by
  simp only [UInt8.lt_iff_toNat_lt, UInt8.reduceToNat] at h
  simp only [leadByte, beq_iff_eq, ← UInt8.toNat_inj, UInt8.le_iff_toNat_le, Bool.and_eq_true,
    decide_eq_true_eq, UInt8.reduceToNat]
  split_ifs <;> first | omega | rfl

theorem decodeFirst_of_leadByte {w : Nat × UInt8 × UInt8} (h : leadByte b = some w) :
    ¬b < 0x80 := by
  intro hascii
  simp [leadByte_of_ascii hascii] at h

theorem decodeFirst_two (hlead : leadByte b = some (2, low, high)) (hlow : low ≤ t₁)
    (hhigh : t₁ ≤ high) (rest : List UInt8) :
    decodeFirst b (t₁ :: rest) = (some (scalar (b.toNat - 0xC0) [t₁]), 1) := by
  simp [decodeFirst, decodeFirst_of_leadByte hlead, hlead, hlow, hhigh]

theorem decodeFirst_three (hlead : leadByte b = some (3, low, high)) (hlow : low ≤ t₁)
    (hhigh : t₁ ≤ high) (h₂ : isTail t₂ = true) (rest : List UInt8) :
    decodeFirst b (t₁ :: t₂ :: rest) = (some (scalar (b.toNat - 0xE0) [t₁, t₂]), 2) := by
  simp [decodeFirst, decodeFirst_of_leadByte hlead, hlead, hlow, hhigh, h₂]

theorem decodeFirst_four (hlead : leadByte b = some (4, low, high)) (hlow : low ≤ t₁)
    (hhigh : t₁ ≤ high) (h₂ : isTail t₂ = true) (h₃ : isTail t₃ = true) (rest : List UInt8) :
    decodeFirst b (t₁ :: t₂ :: t₃ :: rest) =
      (some (scalar (b.toNat - 0xF0) [t₁, t₂, t₃]), 3) := by
  simp [decodeFirst, decodeFirst_of_leadByte hlead, hlead, hlow, hhigh, h₂, h₃]

theorem utf8_ofList (cs : List Char) :
    utf8 (String.ofList cs) = cs.flatMap String.utf8EncodeChar := by
  simp [utf8, String.toUTF8, List.utf8Encode]

theorem leadByte_two : ∀ n < 32, 2 ≤ n →
    leadByte (UInt8.ofNat (n + 0xC0)) = some (2, 0x80, 0xBF) := by
  decide

theorem leadByte_three : ∀ n < 16, leadByte (UInt8.ofNat (n + 0xE0)) =
    some (3, if n = 0 then 0xA0 else 0x80, if n = 13 then 0x9F else 0xBF) := by
  decide

theorem leadByte_four : ∀ n < 5, leadByte (UInt8.ofNat (n + 0xF0)) =
    some (4, if n = 0 then 0x90 else 0x80, if n = 4 then 0x8F else 0xBF) := by
  decide

theorem toNat_tail (n : Nat) : (UInt8.ofNat (n % 64 + 0x80)).toNat = n % 64 + 0x80 := by
  rw [UInt8.toNat_ofNat']
  omega

theorem isTail_tail (n : Nat) : isTail (UInt8.ofNat (n % 64 + 0x80)) = true := by
  simp only [isTail, UInt8.le_iff_toNat_le, toNat_tail, Bool.and_eq_true, decide_eq_true_eq,
    UInt8.reduceToNat]
  omega

theorem scalar_eq {c : Char} {lead : Nat} {tails : List UInt8}
    (h : tails.foldl (fun n b => n * 64 + (b.toNat - 0x80)) lead = c.val.toNat) :
    scalar lead tails = c := by
  rw [scalar, h]
  exact Char.ofNat_toNat c

theorem le_tail {n : Nat} (h : low.toNat ≤ n % 64 + 0x80) :
    low ≤ UInt8.ofNat (n % 64 + 0x80) := by
  rwa [UInt8.le_iff_toNat_le, toNat_tail]

theorem tail_le {n : Nat} (h : n % 64 + 0x80 ≤ high.toNat) :
    UInt8.ofNat (n % 64 + 0x80) ≤ high := by
  rwa [UInt8.le_iff_toNat_le, toNat_tail]

/-- What a character is written as is read as that character. -/
theorem decodeFirst_utf8EncodeChar (c : Char) (rest : List UInt8) :
    ∃ b tail, String.utf8EncodeChar c = b :: tail ∧
      decodeFirst b (tail ++ rest) = (some c, tail.length) := by
  have hvalid := c.valid
  simp only [UInt32.isValidChar, Nat.isValidChar] at hvalid
  have hc : Char.ofNat c.val.toNat = c := Char.ofNat_toNat c
  have hbyte : ∀ {n}, n < 256 → (UInt8.ofNat n).toNat = n := fun h => by
    rw [UInt8.toNat_ofNat']
    omega
  unfold String.utf8EncodeChar
  simp only
  split_ifs with h₁ h₂ h₃
  · refine ⟨_, _, rfl, ?_⟩
    have hascii : UInt8.ofNat c.val.toNat < 0x80 := by
      rw [UInt8.lt_iff_toNat_lt, hbyte (by omega)]
      exact Nat.lt_succ_of_le h₁
    unfold decodeFirst
    rw [if_pos hascii, hbyte (by omega), hc]
    rfl
  · refine ⟨_, _, rfl, ?_⟩
    have hlead := leadByte_two (c.val.toNat / 64 % 0x20) (by omega) (by omega)
    rw [List.cons_append, decodeFirst_two hlead (le_tail (by simp only [UInt8.reduceToNat]; omega))
      (tail_le (by simp only [UInt8.reduceToNat]; omega)), scalar_eq, List.length_singleton]
    rw [hbyte (by omega)]
    simp only [List.foldl_cons, List.foldl_nil, toNat_tail]
    omega
  · refine ⟨_, _, rfl, ?_⟩
    have hlead := leadByte_three (c.val.toNat / 4096 % 0x10) (by omega)
    rw [List.cons_append, List.cons_append, decodeFirst_three hlead _ _ (isTail_tail _), scalar_eq]
    · rfl
    · rw [hbyte (by omega)]
      simp only [List.foldl_cons, List.foldl_nil, toNat_tail]
      omega
    · split_ifs <;> exact le_tail (by simp only [UInt8.reduceToNat]; omega)
    · split_ifs <;> exact tail_le (by simp only [UInt8.reduceToNat]; omega)
  · refine ⟨_, _, rfl, ?_⟩
    have hlead := leadByte_four (c.val.toNat / 262144 % 0x8) (by omega)
    rw [List.cons_append, List.cons_append, List.cons_append,
      decodeFirst_four hlead _ _ (isTail_tail _) (isTail_tail _), scalar_eq]
    · rfl
    · rw [hbyte (by omega)]
      simp only [List.foldl_cons, List.foldl_nil, toNat_tail]
      omega
    · split_ifs <;> exact le_tail (by simp only [UInt8.reduceToNat]; omega)
    · split_ifs <;> exact tail_le (by simp only [UInt8.reduceToNat]; omega)

theorem decodeUtf8_go : ∀ (bytes : List UInt8) (read : List (Option Char)),
    decodeUtf8.go bytes read = read.reverse ++ decodeUtf8 bytes
  | [], read => by simp [decodeUtf8, decodeUtf8.go]
  | b :: rest, read => by
    simp only [decodeUtf8, decodeUtf8.go]
    rw [decodeUtf8_go _ (_ :: read), decodeUtf8_go _ [_]]
    simp
termination_by bytes => bytes.length

theorem decodeUtf8_cons (b : UInt8) (rest : List UInt8) :
    decodeUtf8 (b :: rest) =
      (decodeFirst b rest).1 :: decodeUtf8 (rest.drop (decodeFirst b rest).2) := by
  simp only [decodeUtf8, decodeUtf8.go]
  rw [decodeUtf8_go]
  rfl

theorem decodeUtf8_utf8EncodeChar (c : Char) (rest : List UInt8) :
    decodeUtf8 (String.utf8EncodeChar c ++ rest) = some c :: decodeUtf8 rest := by
  obtain ⟨b, tail, hbytes, hread⟩ := decodeFirst_utf8EncodeChar c rest
  rw [hbytes, List.cons_append, decodeUtf8_cons, hread, List.drop_left]

/-- Written text reads as itself. -/
theorem decodeUtf8_utf8 (s : String) : decodeUtf8 (utf8 s) = s.toList.map some := by
  have hall (cs : List Char) : decodeUtf8 (cs.flatMap String.utf8EncodeChar) = cs.map some := by
    induction cs with
    | nil => simp [decodeUtf8, decodeUtf8.go]
    | cons c cs ih => rw [List.flatMap_cons, decodeUtf8_utf8EncodeChar, ih, List.map_cons]
  rw [← hall, ← utf8_ofList, String.ofList_toList]

theorem ofUtf8Lossy_utf8 (s : String) : ofUtf8Lossy (utf8 s) = s.toList := by
  rw [ofUtf8Lossy, decodeUtf8_utf8, List.map_map]
  exact List.map_id _

end Switchboard.Text
