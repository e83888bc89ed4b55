import Switchboard.Proofs.Text.Utf8

/-!
# What a lossy reading stands for

Bytes are read from left to right, each time either as a character, which is then what these bytes
are written as, or as a run of up to three bytes that is of no character (`readAs_of_mem_runs`). The
replacement character takes three bytes, so a lossy reading written again is never shorter than the
bytes were, and longer by what the replacement characters take beyond their runs
(`utf8ByteSize_lossy`).
-/

namespace Switchboard.Text

/-- What bytes are read as, piece by piece, each with its bytes. -/
def runs : List UInt8 → List (Option Char × List UInt8)
  | [] => []
  | b :: rest =>
    ((decodeFirst b rest).1, b :: rest.take (decodeFirst b rest).2) ::
      runs (rest.drop (decodeFirst b rest).2)
termination_by bytes => bytes.length
decreasing_by
  simp only [List.length_drop, List.length_cons]
  omega

/-- A character is read from what it is written as, and none from up to three bytes. -/
inductive ReadAs : Option Char × List UInt8 → Prop
  | written (c : Char) : ReadAs (some c, String.utf8EncodeChar c)
  | broken {run : List UInt8} : run ≠ [] → run.length ≤ 3 → ReadAs (none, run)

/-- The characters of pieces, the replacement character where there is none. -/
def lossy (pieces : List (Option Char × List UInt8)) : List Char :=
  pieces.map (·.1.getD '\uFFFD')

/-- How many bytes the replacement character takes beyond the run that it stands for. -/
def surplus : Option Char × List UInt8 → Nat
  | (none, run) => 3 - run.length
  | (some _, _) => 0

/-- What all of them take beyond their runs. -/
def excess : List (Option Char × List UInt8) → Nat
  | [] => 0
  | piece :: pieces => surplus piece + excess pieces

theorem map_fst_runs (bytes : List UInt8) : (runs bytes).map Prod.fst = decodeUtf8 bytes := by
  fun_induction runs bytes with
  | case1 => simp [decodeUtf8, decodeUtf8.go]
  | case2 b rest ih => rw [List.map_cons, ih, decodeUtf8_cons]

/-- No byte is lost. -/
theorem flatMap_snd_runs (bytes : List UInt8) : (runs bytes).flatMap Prod.snd = bytes := by
  fun_induction runs bytes with
  | case1 => rfl
  | case2 b rest ih => rw [List.flatMap_cons, ih, List.cons_append, List.take_append_drop]

section Characters

variable {b t₁ t₂ t₃ low high : UInt8} {v w : Nat}

theorem ofNat_eq_of_eq (h : v = b.toNat) : UInt8.ofNat v = b := by
  rw [h, UInt8.ofNat_toNat]

theorem toNat_val_ofNat (h : v.isValidChar) : (Char.ofNat v).val.toNat = v := by
  rw [Char.ofNat, dif_pos h]
  rfl

theorem utf8EncodeChar_one (h : v < 0x80) :
    String.utf8EncodeChar (Char.ofNat v) = [UInt8.ofNat v] := by
  have hvalid : v.isValidChar := .inl (by omega)
  simp only [String.utf8EncodeChar, toNat_val_ofNat hvalid]
  rw [if_pos (by omega)]

theorem utf8EncodeChar_two (h : 0x80 ≤ v) (h' : v < 0x800) :
    String.utf8EncodeChar (Char.ofNat v) =
      [UInt8.ofNat (v / 64 + 0xC0), UInt8.ofNat (v % 64 + 0x80)] := by
  have hvalid : v.isValidChar := .inl (by omega)
  simp only [String.utf8EncodeChar, toNat_val_ofNat hvalid]
  rw [if_neg (by omega), if_pos (by omega), Nat.mod_eq_of_lt (by omega : v / 64 < 32)]

theorem utf8EncodeChar_three (h : 0x800 ≤ v) (h' : v < 0x10000) (hvalid : v.isValidChar) :
    String.utf8EncodeChar (Char.ofNat v) =
      [UInt8.ofNat (v / 4096 + 0xE0), UInt8.ofNat (v / 64 % 64 + 0x80),
        UInt8.ofNat (v % 64 + 0x80)] := by
  simp only [String.utf8EncodeChar, toNat_val_ofNat hvalid]
  rw [if_neg (by omega), if_neg (by omega), if_pos (by omega),
    Nat.mod_eq_of_lt (by omega : v / 4096 < 16)]

theorem utf8EncodeChar_four (h : 0x10000 ≤ v) (h' : v < 0x110000) :
    String.utf8EncodeChar (Char.ofNat v) =
      [UInt8.ofNat (v / 262144 + 0xF0), UInt8.ofNat (v / 4096 % 64 + 0x80),
        UInt8.ofNat (v / 64 % 64 + 0x80), UInt8.ofNat (v % 64 + 0x80)] := by
  have hvalid : v.isValidChar := .inr ⟨by omega, h'⟩
  simp only [String.utf8EncodeChar, toNat_val_ofNat hvalid]
  rw [if_neg (by omega), if_neg (by omega), if_neg (by omega),
    Nat.mod_eq_of_lt (by omega : v / 262144 < 8)]

/-- The lead bytes of each width. The second byte's bounds keep out what is written shorter, the
halves of pairs, and what is beyond the last character. -/
theorem leadByte_eq_some (h : leadByte b = some (w, low, high)) :
    0x80 ≤ low.toNat ∧ high.toNat ≤ 0xBF
    ∧ (w = 2 ∧ 0xC2 ≤ b.toNat ∧ b.toNat ≤ 0xDF
      ∨ w = 3 ∧ 0xE0 ≤ b.toNat ∧ b.toNat ≤ 0xEF ∧ (b.toNat = 0xE0 → 0xA0 ≤ low.toNat)
        ∧ (b.toNat = 0xED → high.toNat ≤ 0x9F)
      ∨ w = 4 ∧ 0xF0 ≤ b.toNat ∧ b.toNat ≤ 0xF4 ∧ (b.toNat = 0xF0 → 0x90 ≤ low.toNat)
        ∧ (b.toNat = 0xF4 → high.toNat ≤ 0x8F)) := by
  simp only [leadByte, beq_iff_eq, ← UInt8.toNat_inj, UInt8.le_iff_toNat_le, Bool.and_eq_true,
    decide_eq_true_eq, UInt8.reduceToNat] at h
  split_ifs at h
  all_goals cases h
  all_goals
    simp only [UInt8.reduceToNat, true_and]
    omega

theorem isTail_iff : isTail b = true ↔ 0x80 ≤ b.toNat ∧ b.toNat ≤ 0xBF := by
  simp [isTail, UInt8.le_iff_toNat_le]

theorem readAs_ascii (h : b < 0x80) : ReadAs (some (Char.ofNat b.toNat), [b]) := by
  have hwritten := ReadAs.written (Char.ofNat b.toNat)
  rwa [utf8EncodeChar_one (UInt8.lt_iff_toNat_lt.1 h), UInt8.ofNat_toNat] at hwritten

theorem readAs_two (hlead : leadByte b = some (2, low, high)) (hlow : low ≤ t₁)
    (hhigh : t₁ ≤ high) : ReadAs (some (scalar (b.toNat - 0xC0) [t₁]), [b, t₁]) := by
  have hb := leadByte_eq_some hlead
  rw [UInt8.le_iff_toNat_le] at hlow hhigh
  have hwritten := ReadAs.written (scalar (b.toNat - 0xC0) [t₁])
  simp only [scalar, List.foldl_cons, List.foldl_nil] at hwritten ⊢
  rwa [utf8EncodeChar_two (by omega) (by omega), ofNat_eq_of_eq (b := b) (by omega),
    ofNat_eq_of_eq (b := t₁) (by omega)] at hwritten

theorem readAs_three (hlead : leadByte b = some (3, low, high)) (hlow : low ≤ t₁)
    (hhigh : t₁ ≤ high) (h₂ : isTail t₂ = true) :
    ReadAs (some (scalar (b.toNat - 0xE0) [t₁, t₂]), [b, t₁, t₂]) := by
  have hb := leadByte_eq_some hlead
  rw [UInt8.le_iff_toNat_le] at hlow hhigh
  rw [isTail_iff] at h₂
  have hwritten := ReadAs.written (scalar (b.toNat - 0xE0) [t₁, t₂])
  simp only [scalar, List.foldl_cons, List.foldl_nil] at hwritten ⊢
  rwa [utf8EncodeChar_three (by omega) (by omega) (by simp only [Nat.isValidChar]; omega),
    ofNat_eq_of_eq (b := b) (by omega), ofNat_eq_of_eq (b := t₁) (by omega),
    ofNat_eq_of_eq (b := t₂) (by omega)] at hwritten

theorem readAs_four (hlead : leadByte b = some (4, low, high)) (hlow : low ≤ t₁)
    (hhigh : t₁ ≤ high) (h₂ : isTail t₂ = true) (h₃ : isTail t₃ = true) :
    ReadAs (some (scalar (b.toNat - 0xF0) [t₁, t₂, t₃]), [b, t₁, t₂, t₃]) := by
  have hb := leadByte_eq_some hlead
  rw [UInt8.le_iff_toNat_le] at hlow hhigh
  rw [isTail_iff] at h₂ h₃
  have hwritten := ReadAs.written (scalar (b.toNat - 0xF0) [t₁, t₂, t₃])
  simp only [scalar, List.foldl_cons, List.foldl_nil] at hwritten ⊢
  rwa [utf8EncodeChar_four (by omega) (by omega), ofNat_eq_of_eq (b := b) (by omega),
    ofNat_eq_of_eq (b := t₁) (by omega), ofNat_eq_of_eq (b := t₂) (by omega),
    ofNat_eq_of_eq (b := t₃) (by omega)] at hwritten

theorem readAs_decodeFirst (b : UInt8) (rest : List UInt8) :
    ReadAs ((decodeFirst b rest).1, b :: rest.take (decodeFirst b rest).2) := by
  have hbroken (n : Nat) (hn : n ≤ 2) (rest : List UInt8) : ReadAs (none, b :: rest.take n) :=
    .broken (List.cons_ne_nil _ _) (by simp only [List.length_cons, List.length_take]; omega)
  rcases hread : decodeFirst b rest with ⟨c, n⟩
  -- One case for each byte at which the reading may stop, with a character or without.
  unfold decodeFirst at hread
  split at hread
  · cases hread
    exact readAs_ascii ‹_›
  split at hread
  · cases hread
    exact hbroken 0 (by omega) _
  · cases hread
    exact hbroken 0 (by omega) _
  rename_i w low high t₁ rest hlead
  have hw := (leadByte_eq_some hlead).2.2
  split at hread
  · cases hread
    exact hbroken 0 (by omega) _
  rename_i hrange
  obtain ⟨hlow, hhigh⟩ : low ≤ t₁ ∧ t₁ ≤ high := by simpa using hrange
  split at hread
  · cases hread
    rename_i htwo
    exact readAs_two (beq_iff_eq.1 htwo ▸ hlead) hlow hhigh
  rename_i htwo
  split at hread
  · cases hread
    exact hbroken 1 (by omega) _
  split at hread
  · cases hread
    exact hbroken 1 (by omega) _
  rename_i t₂ rest h₂
  split at hread
  · cases hread
    rename_i hthree
    exact readAs_three (beq_iff_eq.1 hthree ▸ hlead) hlow hhigh (by simpa using h₂)
  rename_i hthree
  split at hread
  · cases hread
    exact hbroken 2 (by omega) _
  split at hread
  · cases hread
    exact hbroken 2 (by omega) _
  rename_i t₃ rest h₃
  cases hread
  rw [beq_iff_eq] at htwo hthree
  obtain rfl : w = 4 := by omega
  exact readAs_four hlead hlow hhigh (by simpa using h₂) (by simpa using h₃)

end Characters

theorem readAs_of_mem_runs {bytes : List UInt8} : ∀ piece ∈ runs bytes, ReadAs piece := by
  fun_induction runs bytes with
  | case1 => nofun
  | case2 b rest ih => exact List.forall_mem_cons.2 ⟨readAs_decodeFirst b rest, ih⟩

theorem lossy_runs (bytes : List UInt8) : lossy (runs bytes) = ofUtf8Lossy bytes := by
  rw [ofUtf8Lossy, ← map_fst_runs, List.map_map]
  rfl

section Sizes

variable {piece : Option Char × List UInt8} {pieces : List (Option Char × List UInt8)}

theorem ReadAs.length_written (h : ReadAs piece) :
    (String.utf8EncodeChar (piece.1.getD '\uFFFD')).length = piece.2.length + surplus piece := by
  cases h with
  | written c => rfl
  | broken hne hle =>
    have hsize : (String.utf8EncodeChar '\uFFFD').length = 3 := by decide
    rw [Option.getD_none, hsize, surplus, Nat.add_sub_cancel' hle]

/-- Written again, pieces take what they took before and the excess. -/
theorem utf8ByteSize_lossy (h : ∀ piece ∈ pieces, ReadAs piece) :
    (String.ofList (lossy pieces)).utf8ByteSize =
      (pieces.flatMap Prod.snd).length + excess pieces := by
  show (utf8 (String.ofList (lossy pieces))).length = _
  rw [utf8_ofList]
  induction pieces with
  | nil => rfl
  | cons piece pieces ih =>
    obtain ⟨hpiece, hpieces⟩ := List.forall_mem_cons.1 h
    have hfirst := hpiece.length_written
    have hrest := ih hpieces
    simp only [lossy, excess, List.map_cons, List.flatMap_cons, List.length_append] at hrest ⊢
    omega

/-- No character takes more than four bytes. -/
theorem utf8ByteSize_le (cs : List Char) : (String.ofList cs).utf8ByteSize ≤ 4 * cs.length := by
  show (utf8 (String.ofList cs)).length ≤ _
  rw [utf8_ofList]
  induction cs with
  | nil => exact Nat.le_refl 0
  | cons c cs ih =>
    have hfirst := c.utf8Size_le_four
    rw [List.flatMap_cons, List.length_append, String.length_utf8EncodeChar, List.length_cons]
    omega

theorem excess_eq_zero (h : none ∉ pieces.map Prod.fst) : excess pieces = 0 := by
  induction pieces with
  | nil => rfl
  | cons piece pieces ih =>
    obtain ⟨_ | c, bytes⟩ := piece
    · exact absurd List.mem_cons_self h
    · rw [excess, ih fun hmem => h (List.mem_cons_of_mem _ hmem), surplus]

end Sizes

end Switchboard.Text
