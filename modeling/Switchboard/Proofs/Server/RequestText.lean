import Switchboard.Proofs.Redaction
import Switchboard.Proofs.Text.Lossy
import Switchboard.Server.AccessRecord

/-!
# The text of a request in its record

A record shows the first characters of a request and marks what it leaves out. Whether anything is
left out is told by bytes: those of the request against those of the characters that are shown. A
replacement character takes more of them than a run of one or two bytes, so the mark is missing
where the replacement characters make up for what is left out, and is right wherever there are none
of them (`requestText_marked`).
-/

namespace Switchboard

namespace AccessRecord

open Text Redaction

variable {bytes : List UInt8}

/-- The bytes of a request of which nothing is shown. -/
def unshown (bytes : List UInt8) : List UInt8 :=
  ((runs bytes).drop shownLength).flatMap Prod.snd

/-- There are more bytes that are not shown than replacement characters add to those that are. -/
def IsMarked (bytes : List UInt8) : Prop :=
  excess ((runs bytes).take shownLength) < (unshown bytes).length

instance : DecidablePred IsMarked := fun _ => inferInstanceAs (Decidable (_ < _))

theorem isMarked_iff : IsMarked bytes ↔
    (String.ofList ((ofUtf8Lossy bytes).take shownLength)).utf8ByteSize < bytes.length := by
  have hshown : (ofUtf8Lossy bytes).take shownLength = lossy ((runs bytes).take shownLength) := by
    rw [← lossy_runs, lossy, lossy, List.map_take]
  have hall := congrArg List.length (flatMap_snd_runs bytes)
  rw [← List.take_append_drop shownLength (runs bytes), List.flatMap_append,
    List.length_append] at hall
  rw [hshown, utf8ByteSize_lossy fun piece h => readAs_of_mem_runs piece (List.mem_of_mem_take h)]
  unfold IsMarked unshown
  omega

theorem length_ofUtf8Lossy (bytes : List UInt8) :
    (ofUtf8Lossy bytes).length = (runs bytes).length := by
  rw [← lossy_runs, lossy, List.length_map]

theorem unshown_eq_nil_iff : unshown bytes = [] ↔ (ofUtf8Lossy bytes).length ≤ shownLength := by
  rw [length_ofUtf8Lossy, ← List.drop_eq_nil_iff, unshown, List.flatMap_eq_nil_iff]
  refine ⟨fun h => List.eq_nil_iff_forall_not_mem.2 fun piece hpiece => ?_, fun h => by simp [h]⟩
  -- No piece is read from nothing.
  have hread := readAs_of_mem_runs piece (List.mem_of_mem_drop hpiece)
  cases hread with
  | written c => exact String.utf8EncodeChar_ne_nil (h _ hpiece)
  | broken hne hle => exact hne (h _ hpiece)

theorem lt_of_isMarked (h : IsMarked bytes) : shownLength < (ofUtf8Lossy bytes).length := by
  by_contra hnot
  have hnone := unshown_eq_nil_iff.2 (Nat.not_lt.1 hnot)
  rw [IsMarked, hnone, List.length_nil] at h
  exact Nat.not_lt_zero _ h

theorem requestText_eq (bytes : List UInt8) :
    requestText bytes = redact (String.ofList ((ofUtf8Lossy bytes).take shownLength ++
      if IsMarked bytes then ['.', '.', '.'] else [])) := by
  unfold requestText
  simp only [Bool.and_eq_true, decide_eq_true_eq, ← isMarked_iff]
  by_cases h : IsMarked bytes
  · have hlength : ((ofUtf8Lossy bytes).take shownLength).length = shownLength :=
      List.length_take_of_le (lt_of_isMarked h).le
    rw [if_pos ⟨h, hlength⟩, if_pos h]
  · rw [if_neg fun hcut => h hcut.1, if_neg h, List.append_nil]

/-- Without replacement characters among what is shown, the mark says if anything is left out. -/
theorem isMarked_iff_of_whole (h : none ∉ (decodeUtf8 bytes).take shownLength) :
    IsMarked bytes ↔ shownLength < (ofUtf8Lossy bytes).length := by
  rw [← map_fst_runs, ← List.map_take] at h
  rw [IsMarked, excess_eq_zero h, List.length_pos_iff, Ne, unshown_eq_nil_iff, Nat.not_le]

/-- Nothing stands for an ill-formed run in what was text. -/
theorem none_not_mem_utf8 (s : String) : none ∉ (decodeUtf8 (utf8 s)).take shownLength := by
  intro h
  rw [decodeUtf8_utf8] at h
  obtain ⟨c, -, hc⟩ := List.mem_map.1 (List.mem_of_mem_take h)
  cases hc

theorem isMarked_utf8 (s : String) : IsMarked (utf8 s) ↔ shownLength < s.length := by
  rw [isMarked_iff_of_whole (none_not_mem_utf8 s), ofUtf8Lossy_utf8, String.length_toList]

theorem isMarked_of_lt (h : 4 * shownLength < bytes.length) : IsMarked bytes := by
  have hsize := utf8ByteSize_le ((ofUtf8Lossy bytes).take shownLength)
  have hshown := List.length_take_le shownLength (ofUtf8Lossy bytes)
  rw [isMarked_iff]
  omega

/-- For all bytes that a request may have: what its record shows is the redaction of the first
characters, with the mark behind them if the bytes that are left out are more than what replacement
characters add to the ones that are shown. So the mark is there only if there are more characters.
If none of those that are shown stands for an ill-formed run, it is there whenever there are more;
and it is there in any case for a request of more than four bytes for each character that is
shown. -/
theorem requestText_marked (bytes : List UInt8) :
    requestText bytes = redact (String.ofList ((ofUtf8Lossy bytes).take shownLength ++
      if IsMarked bytes then ['.', '.', '.'] else []))
    ∧ (IsMarked bytes → shownLength < (ofUtf8Lossy bytes).length)
    ∧ (none ∉ (decodeUtf8 bytes).take shownLength →
      (IsMarked bytes ↔ shownLength < (ofUtf8Lossy bytes).length))
    ∧ (4 * shownLength < bytes.length → IsMarked bytes) :=
  ⟨requestText_eq bytes, lt_of_isMarked, isMarked_iff_of_whole, isMarked_of_lt⟩

section Samples

/-- Bytes that stand in no character. -/
def stray (n : Nat) : List UInt8 := List.replicate n 0xFF

theorem runs_stray (n : Nat) : runs (stray n) = List.replicate n (none, [0xFF]) := by
  induction n with
  | zero => simp [stray, runs]
  | succ n ih =>
    have hfirst : decodeFirst 0xFF (stray n) = (none, 0) := rfl
    rw [stray, List.replicate_succ, ← stray, runs, hfirst, List.drop_zero, ih, List.take_zero,
      List.replicate_succ]

theorem ofUtf8Lossy_stray (n : Nat) : ofUtf8Lossy (stray n) = List.replicate n '\uFFFD' := by
  rw [← lossy_runs, runs_stray, lossy, List.map_replicate, Option.getD_none]

theorem not_starts_of_mem_mark : ∀ d ∈ ['.', '.', '.'], ¬Starts d := by
  simp [Starts]

theorem redact_replicate_append {c : Char} {mark : List Char} (hc : ¬Starts c)
    (hmark : ∀ d ∈ mark, ¬Starts d) (n : Nat) :
    redact (String.ofList (List.replicate n c ++ mark)) =
      String.ofList (List.replicate n c ++ mark) := by
  have hchars : ∀ d ∈ List.replicate n c ++ mark, ¬Starts d := by
    intro d hd
    rcases List.mem_append.1 hd with hd | hd
    · rwa [List.eq_of_mem_replicate hd]
    · exact hmark d hd
  have hclean := clean_append_of_not_starts hchars clean_nil
  rw [List.append_nil] at hclean
  rw [redact, String.toList_ofList, redactChars_of_clean hclean]

/-- A word whose letters take two bytes each. -/
def shriek (n : Nat) : String := String.ofList (List.replicate n 'é')

theorem shriek_marked :
    (none ∉ (decodeUtf8 (utf8 (shriek 1025))).take shownLength
      ∧ requestText (utf8 (shriek 1025)) =
        String.ofList (List.replicate shownLength 'é' ++ ['.', '.', '.']))
    ∧ 4 * shownLength < (stray 4097).length ∧ IsMarked (stray 4097) := by
  have hwhole := none_not_mem_utf8 (shriek 1025)
  have hread : ofUtf8Lossy (utf8 (shriek 1025)) = List.replicate 1025 'é' := by
    rw [ofUtf8Lossy_utf8, shriek, String.toList_ofList]
  obtain ⟨htext, -, hmarked, -⟩ := requestText_marked (utf8 (shriek 1025))
  have hmore : shownLength < (ofUtf8Lossy (utf8 (shriek 1025))).length := by
    rw [hread, List.length_replicate, shownLength]
    omega
  have hlong : 4 * shownLength < (stray 4097).length := by
    rw [stray, List.length_replicate, shownLength]
    omega
  refine ⟨⟨hwhole, ?_⟩, hlong, (requestText_marked (stray 4097)).2.2.2 hlong⟩
  rw [htext, if_pos ((hmarked hwhole).2 hmore), hread, List.take_replicate]
  exact redact_replicate_append (by decide) not_starts_of_mem_mark _

/-- Each of them that is shown adds two bytes, so that twice as many may be left out. -/
theorem isMarked_stray_iff (n : Nat) : IsMarked (stray n) ↔ 3 * shownLength < n := by
  have hexcess (k : Nat) : excess (List.replicate k (none, [0xFF])) = k * 2 := by
    induction k with
    | zero => rfl
    | succ k ih =>
      have hone : surplus (none, [0xFF]) = 2 := rfl
      rw [List.replicate_succ, excess, ih, hone]
      omega
  have hbytes (k : Nat) : ((List.replicate k (none, [0xFF])).flatMap
      (Prod.snd : Option Char × List UInt8 → List UInt8)).length = k := by
    simp
  rw [IsMarked, unshown, runs_stray, List.take_replicate, List.drop_replicate, hexcess, hbytes]
  omega

/-- Of 1025 bytes that stand in no character one is left out, and nothing says so. -/
theorem stray_unmarked :
    shownLength < (ofUtf8Lossy (stray 1025)).length
    ∧ requestText (stray 1025) ≠ redact (String.ofList
        ((ofUtf8Lossy (stray 1025)).take shownLength ++ ['.', '.', '.'])) := by
  have hnot : ¬IsMarked (stray 1025) := by
    rw [isMarked_stray_iff, shownLength]
    omega
  have hkept (mark : List Char) (hmark : ∀ d ∈ mark, ¬Starts d) :=
    redact_replicate_append (by decide : ¬Starts '\uFFFD') hmark shownLength
  rw [requestText_eq, if_neg hnot, ofUtf8Lossy_stray, List.length_replicate, List.take_replicate,
    Nat.min_eq_left (by decide), hkept [] nofun, hkept _ not_starts_of_mem_mark, Ne,
    String.ofList_inj, List.append_cancel_left_eq]
  exact ⟨by decide, nofun⟩

end Samples

end AccessRecord

end Switchboard
