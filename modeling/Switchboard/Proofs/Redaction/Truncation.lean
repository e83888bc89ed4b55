import Switchboard.Dialect.Status
import Switchboard.Proofs.Json.Start
import Switchboard.Proofs.Redaction.Cuts
import Switchboard.Proofs.Server.RequestText

/-!
# Truncation before redaction

The body of a provider's failure and the request in the record of a call are cut before they are
redacted. A credential before the cut is masked all the same. One that the cut goes through is
masked only if what is left of it is a credential too, so its first characters can be read where too
few of them are left (`twins_told_apart`).
-/

namespace Switchboard

open Redaction

namespace Redaction

variable {cs ds s : List Char}

theorem redact_inj {a b : String} :
    redact a = redact b ↔ redactChars a.toList = redactChars b.toList := by
  rw [← String.toList_inj, toList_redact, toList_redact]

theorem Credential.exists_not_blank (h : Credential s) : ∃ c ∈ s, Text.isBlank c = false := by
  cases h <;> exact ⟨_, List.mem_cons_self, by decide⟩

theorem Parallel.eq_of_blank (h : Parallel cs ds) (hblank : ∀ c ∈ cs, Text.isBlank c = true) :
    ds = cs := by
  induction h with
  | nil => rfl
  | kept _ _ _ ih => rw [ih fun c hc => hblank c (List.mem_cons_of_mem _ hc)]
  | masked hcs _ _ _ _ =>
    obtain ⟨c, hc, hnot⟩ := (credential_of_credential? hcs).exists_not_blank
    simp [hblank c (List.mem_append_left _ hc)] at hnot

end Redaction

namespace Failure

variable {a b : String}

theorem statusMessage_of_not_json (h : Json.ofString? a = none) (hblank : Text.blank a = false)
    (status : Nat) : statusMessage status a = String.ofList (a.toList.take quotedLength) := by
  simp [statusMessage, messageIn?, h, hblank]

theorem ofStatus_inj (status : Nat) : ofStatus status a = ofStatus status b ↔
    redact (statusMessage status a) = redact (statusMessage status b) := by
  have hspace : ∀ c ∈ [' '], ¬Starts c := by simp [Starts]
  have htransport : ∀ text : String, (HttpStatus.text status ++ ": " ++ text).toList =
      (HttpStatus.text status).toList ++ ':' :: ([' '] ++ text.toList) := fun text => by
    simp [String.toList_append]
  unfold ofStatus
  simp only
  split_ifs
  iterate 3 simp [refusal]
  · rw [Failure.transport.injEq, redact_inj, redact_inj, htransport, htransport,
      redactChars_append_cons (by decide), redactChars_append_cons (by decide),
      redactChars_append_of_not_starts hspace, redactChars_append_of_not_starts hspace]
    simp
  · simp [refusal]

/-- The messages that are quoted from twins. -/
theorem redact_statusMessage_inj (h : Twins a.toList b.toList) (ha : Json.ofString? a = none)
    (hb : Json.ofString? b = none) (status : Nat) :
    redact (statusMessage status b) = redact (statusMessage status a) ↔
      redactChars (remnant quotedLength b.toList) =
        redactChars (remnant quotedLength a.toList) := by
  by_cases hblank : Text.blank a = true ∨ Text.blank b = true
  · obtain rfl : b = a := by
      rw [← String.toList_inj]
      rcases hblank with hblank | hblank
      · exact h.parallel.eq_of_blank (by simpa [Text.blank] using hblank)
      · exact (h.parallel.symm.eq_of_blank (by simpa [Text.blank] using hblank)).symm
    simp
  · simp only [not_or, Bool.not_eq_true] at hblank
    rw [statusMessage_of_not_json ha hblank.1, statusMessage_of_not_json hb hblank.2, redact_inj,
      String.toList_ofList, String.toList_ofList]
    simpa using h.parallel.redactChars_take (by simp) (by decide) (absurd (rfl : [] = []))

end Failure

namespace AccessRecord

/-- What is written behind the start of a request, to mark that it is not all. -/
def moreMark (request : String) : List Char :=
  if shownLength < request.length then ['.', '.', '.'] else []

theorem toList_requestText (s : String) : (requestText (Text.utf8 s)).toList =
    redactChars (s.toList.take shownLength ++ moreMark s) := by
  rw [requestText_eq, toList_redact, String.toList_ofList, Text.ofUtf8Lossy_utf8, moreMark]
  simp only [isMarked_utf8]

theorem requestText_inj {a b : String} (h : Twins a.toList b.toList) :
    requestText (Text.utf8 b) = requestText (Text.utf8 a) ↔
      redactChars (remnant shownLength b.toList ++ moreMark a) =
        redactChars (remnant shownLength a.toList ++ moreMark a) := by
  have hmark : moreMark b = moreMark a := by
    rw [moreMark, moreMark, ← String.length_toList, h.parallel.length_eq, String.length_toList]
  rw [← String.toList_inj, toList_requestText, toList_requestText, hmark]
  unfold moreMark
  split_ifs with hmore
  · exact h.parallel.redactChars_take (by simp) (by decide) fun _ => by
      rw [String.length_toList]
      exact hmore.le
  · exact h.parallel.redactChars_take (by simp) (by decide) (absurd rfl)

end AccessRecord

namespace Redaction

open AccessRecord Failure

/-- What the first `n` characters of a text have of the credential at a site. -/
def leftAt (site : Nat × Nat) (n : Nat) (text : String) : List Char :=
  (text.toList.take n).drop site.1

variable {a b text : String} {site : Nat × Nat}

theorem remnant_eq_leftAt {n : Nat} (h : site ∈ sites 0 text.toList) (hfirst : site.1 < n)
    (hlast : n ≤ site.1 + site.2) : remnant n text.toList = leftAt site n text :=
  remnant_of_mem_sites h (by omega) (by omega)

theorem redactChars_leftAt (h : site ∈ sites 0 text.toList) :
    redactChars (leftAt site (site.1 + site.2) text) = mask := by
  have hcredential := credential_of_mem_sites h
  rw [leftAt, List.drop_take, Nat.add_sub_cancel_left]
  exact redactChars_of_credential hcredential

/-- Twins are told apart by what the credential that a cut goes through has left before it, and by
nothing else: a body in what the caller is told of a failure, and a request in the record of its
call. -/
theorem twins_told_apart (h : Twins a.toList b.toList) (status : Nat) :
    (Json.ofString? a = none → Json.ofString? b = none →
      ((∀ site ∈ sites 0 a.toList,
          ¬(site.1 < quotedLength ∧ quotedLength < site.1 + site.2)) →
        ofStatus status b = ofStatus status a)
      ∧ ∀ site ∈ sites 0 a.toList, site.1 < quotedLength → quotedLength < site.1 + site.2 →
        (ofStatus status b = ofStatus status a ↔
          redactChars (leftAt site quotedLength b) = redactChars (leftAt site quotedLength a)))
    ∧ (a.length ≤ shownLength ∨
        (∀ site ∈ sites 0 a.toList, ¬(site.1 < shownLength ∧ shownLength ≤ site.1 + site.2)) →
      requestText (Text.utf8 b) = requestText (Text.utf8 a))
    ∧ ∀ site ∈ sites 0 a.toList, site.1 < shownLength → shownLength ≤ site.1 + site.2 →
      shownLength < a.length →
        (requestText (Text.utf8 b) = requestText (Text.utf8 a) ↔
          redactChars (leftAt site shownLength b ++ ['.', '.', '.']) =
            redactChars (leftAt site shownLength a ++ ['.', '.', '.'])) := by
  have hsites := h.sites_eq
  refine ⟨fun ha hb => ⟨fun hcut => ?_, fun site hsite hfirst hlast => ?_⟩, fun hcut => ?_,
    fun site hsite hfirst hlast hmore => ?_⟩
  · rw [ofStatus_inj, redact_statusMessage_inj h ha hb]
    by_cases hends : ∃ site ∈ sites 0 a.toList,
        site.1 < quotedLength ∧ quotedLength ≤ site.1 + site.2
    -- A credential that ends where the cut is has all of it left.
    · obtain ⟨site, hsite, hfirst, hlast⟩ := hends
      have hend : quotedLength = site.1 + site.2 :=
        hlast.antisymm (Nat.le_of_not_lt fun hlt => hcut site hsite ⟨hfirst, hlt⟩)
      rw [remnant_eq_leftAt hsite hfirst hlast, remnant_eq_leftAt (hsites ▸ hsite) hfirst hlast,
        hend, redactChars_leftAt hsite, redactChars_leftAt (hsites ▸ hsite)]
    · have hnone : ∀ site ∈ sites 0 a.toList,
          ¬(site.1 < 0 + quotedLength ∧ 0 + quotedLength ≤ site.1 + site.2) := by
        simpa using hends
      rw [remnant_eq_nil hnone, remnant_eq_nil (by rwa [hsites])]
  · rw [ofStatus_inj, redact_statusMessage_inj h ha hb, remnant_eq_leftAt hsite hfirst hlast.le,
      remnant_eq_leftAt (hsites ▸ hsite) hfirst hlast.le]
  · rcases hcut with hshort | hcut
    · have hshort : a.toList.length ≤ shownLength := by rwa [String.length_toList]
      have hlength : b.toList.length = a.toList.length := h.parallel.length_eq
      rw [← String.toList_inj, toList_requestText, toList_requestText,
        List.take_of_length_le (by omega), List.take_of_length_le hshort, moreMark, moreMark,
        ← String.length_toList, hlength, ← String.length_toList, if_neg (by omega),
        List.append_nil, List.append_nil, h.parallel.redactChars_eq]
    · rw [requestText_inj h, remnant_eq_nil (i := 0) (by rw [hsites]; simpa using hcut),
        remnant_eq_nil (i := 0) (by simpa using hcut)]
  · rw [requestText_inj h, remnant_eq_leftAt hsite hfirst hlast,
      remnant_eq_leftAt (hsites ▸ hsite) hfirst hlast, moreMark, if_pos hmore]

/-- A key of which all characters are the same. -/
def key (m : Nat) (c : Char) : List Char := 's' :: 'k' :: '-' :: List.replicate m c

/-- A text that ends in a key, with `n` characters before it. -/
def keyed (n : Nat) (c : Char) : String := String.ofList (List.replicate n 'x' ++ key 600 c)

theorem toList_keyed (n : Nat) (c : Char) :
    (keyed n c).toList = List.replicate n 'x' ++ key 600 c :=
  String.toList_ofList

theorem length_key (m : Nat) (c : Char) : (key m c).length = m + 3 := by
  simp [key]

theorem length_keyed (n : Nat) (c : Char) : (keyed n c).length = n + 603 := by
  rw [← String.length_toList, toList_keyed, List.length_append, List.length_replicate, length_key]

theorem credential_key {c : Char} (hc : isKeyChar c = true) {m : Nat} (hm : 6 ≤ m) :
    Credential (key m c) :=
  .secretKey (by simpa using hm) fun d hd => by rwa [List.eq_of_mem_replicate hd]

theorem credential?_key {c : Char} (hc : isKeyChar c = true) {m : Nat} (hm : 6 ≤ m)
    {rest : List Char} (hrest : ∀ d ∈ rest.head?, isKeyChar d = false) :
    credential? (key m c ++ rest) = some (key m c).length := by
  have hkey : ∀ d ∈ List.replicate m c, isKeyChar d = true := fun d hd => by
    rwa [List.eq_of_mem_replicate hd]
  have hrun := run?_of_longest (by simpa using hm) hkey hrest
  simp [key, credential?, hrun]

theorem not_starts_of_mem_replicate {n : Nat} : ∀ c ∈ List.replicate n 'x', ¬Starts c :=
  fun c hc => by
    rw [List.eq_of_mem_replicate hc]
    decide

theorem twins_keyed (n : Nat) {c d : Char} (hc : isKeyChar c = true) (hd : isKeyChar d = true) :
    Twins (keyed n c).toList (keyed n d).toList := by
  have hkeys : Parallel (key 600 c ++ []) (key 600 d ++ []) :=
    .masked (credential?_key hc (by decide) nofun) (credential?_key hd (by decide) nofun)
      (by rw [length_key, length_key]) .nil
  rw [toList_keyed, toList_keyed, twins_iff_parallel]
  simpa using hkeys.append_of_not_starts not_starts_of_mem_replicate

theorem not_json_keyed {n : Nat} (hn : 0 < n) (c : Char) : Json.ofString? (keyed n c) = none := by
  obtain ⟨m, rfl⟩ : ∃ m, n = m + 1 := ⟨n - 1, by omega⟩
  by_contra hjson
  obtain ⟨j, hj⟩ := Option.ne_none_iff_exists'.1 hjson
  obtain ⟨d, cs, hopens, hskip, -⟩ := Json.exists_opens hj
  rw [toList_keyed, List.replicate_succ, List.cons_append, Document.skipSpace,
    List.dropWhile_cons_of_neg (by decide)] at hskip
  obtain ⟨rfl, -⟩ := List.cons.inj hskip
  exact absurd hopens (by decide)

theorem mem_sites_keyed (n : Nat) {c : Char} (hc : isKeyChar c = true) :
    (n, 603) ∈ sites 0 (keyed n c).toList := by
  have hread : credential? (key 600 c ++ []) = some (key 600 c).length :=
    credential?_key hc (by decide) nofun
  rw [List.append_nil, length_key] at hread
  rw [toList_keyed, sites_append_of_not_starts not_starts_of_mem_replicate,
    List.length_replicate, Nat.zero_add, mem_sites_iff, hread]

theorem take_key {m k : Nat} (h : m ≤ k) (c : Char) : (key k c).take (m + 3) = key m c := by
  simp [key, List.take_replicate, Nat.min_eq_left h]

theorem leftAt_keyed (n : Nat) (c : Char) {m : Nat} (hm : m ≤ 600) :
    leftAt (n, 603) (n + (m + 3)) (keyed n c) = key m c := by
  have htake : (keyed n c).toList.take (n + (m + 3)) = List.replicate n 'x' ++ key m c := by
    rw [toList_keyed, ← take_key hm, ← List.take_length_add_append, List.length_replicate]
  rw [leftAt, htake]
  exact List.drop_left' List.length_replicate

theorem redactChars_key_dots {c : Char} (hc : isKeyChar c = true) {m : Nat} (hm : 6 ≤ m) :
    redactChars (key m c ++ ['.', '.', '.']) = mask ++ redactChars ['.', '.', '.'] := by
  refine redactChars_masked (credential?_key hc hm ?_)
  rintro d ⟨⟩
  decide

/-- Keys that have enough of them left are masked where they are cut. -/
theorem long_keys_alike :
    Twins (keyed 499 'a').toList (keyed 499 'b').toList
    ∧ ofStatus 500 (keyed 499 'b') = ofStatus 500 (keyed 499 'a')
    ∧ requestText (Text.utf8 (keyed 499 'b')) = requestText (Text.utf8 (keyed 499 'a')) := by
  have htwins : Twins (keyed 499 'a').toList (keyed 499 'b').toList :=
    twins_keyed 499 (by decide) (by decide)
  have hsite : (499, 603) ∈ sites 0 (keyed 499 'a').toList := mem_sites_keyed 499 (by decide)
  obtain ⟨htold, -, hlogged⟩ := twins_told_apart htwins 500
  refine ⟨htwins, ?_, ?_⟩
  · obtain ⟨-, htold⟩ := htold (not_json_keyed (by decide) _) (not_json_keyed (by decide) _)
    rw [htold _ hsite (by decide) (by decide), show quotedLength = 499 + (10 + 3) from rfl,
      leftAt_keyed 499 _ (by decide), leftAt_keyed 499 _ (by decide),
      redactChars_of_credential (credential_key (by decide) (by decide)),
      redactChars_of_credential (credential_key (by decide) (by decide))]
  · rw [hlogged _ hsite (by decide) (by decide) (by rw [length_keyed]; decide),
      show shownLength = 499 + (522 + 3) from rfl,
      leftAt_keyed 499 _ (by decide), leftAt_keyed 499 _ (by decide),
      redactChars_key_dots (by decide) (by decide), redactChars_key_dots (by decide) (by decide)]

/-- Of keys that have one character left before the cut, callers and records tell which it is. -/
theorem cut_keys_told_apart :
    (Twins (keyed 508 'a').toList (keyed 508 'b').toList
      ∧ Json.ofString? (keyed 508 'a') = none ∧ Json.ofString? (keyed 508 'b') = none
      ∧ ofStatus 500 (keyed 508 'b') ≠ ofStatus 500 (keyed 508 'a'))
    ∧ Twins (keyed 1020 'a').toList (keyed 1020 'b').toList
    ∧ requestText (Text.utf8 (keyed 1020 'b')) ≠ requestText (Text.utf8 (keyed 1020 'a')) := by
  have htwins := fun n => twins_keyed n (c := 'a') (d := 'b') (by decide) (by decide)
  have hsite := fun n => mem_sites_keyed n (c := 'a') (by decide)
  have hsite' := fun n => mem_sites_keyed n (c := 'b') (by decide)
  have hleft := fun n c => leftAt_keyed n c (m := 1) (by decide)
  refine ⟨⟨htwins 508, not_json_keyed (by decide) _, not_json_keyed (by decide) _, ?_⟩,
    htwins 1020, ?_⟩
  · rw [Ne, ofStatus_inj, redact_statusMessage_inj (htwins 508) (not_json_keyed (by decide) _)
      (not_json_keyed (by decide) _), remnant_eq_leftAt (hsite 508) (by decide) (by decide),
      remnant_eq_leftAt (hsite' 508) (by decide) (by decide),
      show quotedLength = 508 + (1 + 3) from rfl, hleft, hleft, redactChars_of_clean (by decide),
      redactChars_of_clean (by decide)]
    decide
  · rw [Ne, requestText_inj (htwins 1020), remnant_eq_leftAt (hsite 1020) (by decide) (by decide),
      remnant_eq_leftAt (hsite' 1020) (by decide) (by decide), moreMark,
      if_pos (by rw [length_keyed]; decide), show shownLength = 1020 + (1 + 3) from rfl, hleft,
      hleft, redactChars_of_clean (by decide), redactChars_of_clean (by decide)]
    decide

end Redaction

end Switchboard
