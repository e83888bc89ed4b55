import Mathlib.Data.List.Infix
import Mathlib.Data.List.TakeWhile
import Switchboard.Json.Printer
import Switchboard.Server.App

/-!
# What redaction leaves of a text

A credential has none of the characters that `mask` begins with or that a printed text is escaped
with. So where a part of a text gives way to something that begins with such a mark, no credential
comes up that was not there before (`Marked.credential?_eq_none`): a mask does not join what stands
around it, and a text without credentials is printed without any. With that, what a caller is told
of a failure holds none (`redact_conceals`).
-/

namespace Switchboard

namespace Redaction

/-- What looks like a credential. -/
inductive Credential : List Char → Prop
  | secretKey {key : List Char} : 6 ≤ key.length → (∀ c ∈ key, isKeyChar c = true) →
      Credential ('s' :: 'k' :: '-' :: key)
  | apiKey {key : List Char} : 10 ≤ key.length → (∀ c ∈ key, isKeyChar c = true) →
      Credential ('A' :: 'I' :: 'z' :: 'a' :: key)
  | bearer {blanks token : List Char} : blanks ≠ [] → (∀ c ∈ blanks, Text.isBlank c = true) →
      6 ≤ token.length → (∀ c ∈ token, isTokenChar c = true) →
      Credential ('B' :: 'e' :: 'a' :: 'r' :: 'e' :: 'r' :: (blanks ++ token))

/-- No part of the text is a credential. -/
def Clean (cs : List Char) : Prop := ∀ s, s <:+: cs → ¬Credential s

/-- A text, and the same text with the mask in the place of some of its credentials. -/
inductive Masked : List Char → List Char → Prop
  | nil : Masked [] []
  | kept (c : Char) {cs shown : List Char} : Masked cs shown → Masked (c :: cs) (c :: shown)
  | masked {s cs shown : List Char} : Credential s → Masked cs shown →
      Masked (s ++ cs) (mask ++ shown)

variable {cs shown s rest : List Char} {c mark : Char} {n least : Nat} {ok : Char → Bool}

theorem run?_eq_some (h : run? least ok cs = some n) :
    ∃ s rest, cs = s ++ rest ∧ s.length = n ∧ least ≤ s.length ∧ ∀ c ∈ s, ok c = true := by
  unfold run? at h
  obtain ⟨hleast, hn⟩ := Option.ite_none_right_eq_some.1 h
  exact ⟨cs.takeWhile ok, cs.dropWhile ok, List.takeWhile_append_dropWhile.symm,
    Option.some.inj hn, hleast, fun c hc => List.mem_takeWhile_imp hc⟩

theorem run?_of_longest (hleast : least ≤ s.length) (hok : ∀ c ∈ s, ok c = true)
    (hrest : ∀ c ∈ rest.head?, ok c = false) : run? least ok (s ++ rest) = some s.length := by
  have hstop : rest.takeWhile ok = [] := by
    rcases rest with _ | ⟨c, rest⟩
    · rfl
    · simp [hrest c rfl]
  simp [run?, List.takeWhile_append_of_pos hok, hstop, hleast]

theorem credential?_eq_some (h : credential? cs = some n) :
    ∃ s rest, cs = s ++ rest ∧ s.length = n ∧ Credential s := by
  unfold credential? at h
  split at h
  · obtain ⟨m, hm, rfl⟩ := Option.map_eq_some_iff.1 h
    obtain ⟨key, rest, rfl, rfl, hleast, hok⟩ := run?_eq_some hm
    exact ⟨_, rest, rfl, rfl, .secretKey hleast hok⟩
  · obtain ⟨m, hm, rfl⟩ := Option.map_eq_some_iff.1 h
    obtain ⟨key, rest, rfl, rfl, hleast, hok⟩ := run?_eq_some hm
    exact ⟨_, rest, rfl, rfl, .apiKey hleast hok⟩
  · rename_i after
    simp only at h
    split_ifs at h with hnone
    obtain ⟨m, hm, rfl⟩ := Option.map_eq_some_iff.1 h
    obtain ⟨token, rest, hrest, rfl, hleast, hok⟩ := run?_eq_some hm
    have hblanks : after.takeWhile Text.isBlank ≠ [] := by simpa using hnone
    refine ⟨_, rest, ?_, ?_, .bearer hblanks (fun c hc => List.mem_takeWhile_imp hc) hleast hok⟩
    · have hprefix := List.prefix_iff_eq_take.1 (List.takeWhile_prefix Text.isBlank (l := after))
      have hafter : after = after.takeWhile Text.isBlank ++ (token ++ rest) := by
        conv_lhs => rw [← List.take_append_drop (after.takeWhile Text.isBlank).length after,
          ← hprefix, hrest]
      simpa using hafter
    · simp only [List.length_cons, List.length_append]
      omega
  · simp at h

theorem toNat_of_isTokenChar (h : isTokenChar c = true) :
    48 ≤ c.toNat ∧ c.toNat ≤ 57 ∨ 65 ≤ c.toNat ∧ c.toNat ≤ 90 ∨ 97 ≤ c.toNat ∧ c.toNat ≤ 122
      ∨ c = '_' ∨ c = '-' ∨ c = '.' := by
  simp only [isTokenChar, isKeyChar, Char.isAlphanum] at h
  delta Char.isAlpha Char.isUpper Char.isLower at h
  simp only [Char.isDigit, Bool.or_eq_true, Bool.and_eq_true, decide_eq_true_eq, beq_iff_eq] at h
  rcases h with (((((h | h) | h) | h) | h) | h)
  · exact .inr (.inl h)
  · exact .inr (.inr (.inl h))
  · exact .inl h
  · simp [h]
  · simp [h]
  · simp [h]

theorem not_isBlank_of_isTokenChar (h : isTokenChar c = true) : Text.isBlank c = false := by
  rcases toNat_of_isTokenChar h with h | h | h | rfl | rfl | rfl
  iterate 3
    simp only [Text.isBlank, Bool.or_eq_false_iff, Bool.and_eq_false_iff, decide_eq_false_iff_not,
      beq_eq_false_iff_ne]
    omega
  iterate 3 decide

/-- A credential that cannot go on is read as one. -/
theorem credential?_of_longest (h : Credential s)
    (hlongest : ∀ c ∈ rest.head?, ¬Credential (s ++ [c])) :
    credential? (s ++ rest) = some s.length := by
  have hstop : ∀ {ok : Char → Bool}, (∀ c, ok c = true → Credential (s ++ [c])) →
      ∀ c ∈ rest.head?, ok c = false := fun hgoes c hc =>
    Bool.eq_false_iff.2 fun hok => hlongest c hc (hgoes c hok)
  have hmore : ∀ {ok : Char → Bool} {u : List Char} {c : Char}, (∀ d ∈ u, ok d = true) →
      ok c = true → ∀ d ∈ u ++ [c], ok d = true := fun hu hc =>
    List.forall_mem_append.2 ⟨hu, List.forall_mem_singleton.2 hc⟩
  cases h with
  | secretKey hleast hok =>
    have hstop := hstop fun c hc => .secretKey (by simp; omega) (hmore hok hc)
    simp [credential?, run?_of_longest hleast hok hstop]
  | apiKey hleast hok =>
    have hstop := hstop fun c hc => .apiKey (by simp; omega) (hmore hok hc)
    simp [credential?, run?_of_longest hleast hok hstop]
  | @bearer blanks token hne hblank hleast hok =>
    have hstop := hstop fun c hc => by
      simpa using Credential.bearer hne hblank (by simp; omega) (hmore hok hc)
    have htoken : (token ++ rest).takeWhile Text.isBlank = [] := by
      obtain ⟨c, more, rfl⟩ :=
        List.exists_cons_of_length_pos (Nat.lt_of_lt_of_le (by decide) hleast)
      simp [not_isBlank_of_isTokenChar (hok c (by simp))]
    have hblanks : (blanks ++ (token ++ rest)).takeWhile Text.isBlank = blanks := by
      rw [List.takeWhile_append_of_pos hblank, htoken, List.append_nil]
    simp [credential?, hblanks, hne, run?_of_longest hleast hok hstop]
    omega

/-- A credential goes on as far as it can. -/
theorem Credential.exists_longest : ∀ (rest : List Char) {s : List Char}, Credential s →
    ∃ more left, rest = more ++ left ∧ Credential (s ++ more) ∧
      ∀ c ∈ left.head?, ¬Credential (s ++ more ++ [c])
  | [], s, h => ⟨[], [], rfl, by simpa using h, nofun⟩
  | c :: rest, s, h => by
    by_cases hnext : Credential (s ++ [c])
    · obtain ⟨more, left, rfl, hmore, hleft⟩ := exists_longest rest hnext
      exact ⟨c :: more, left, rfl, by simpa using hmore, by simpa using hleft⟩
    · exact ⟨[], c :: rest, rfl, by simpa using h, by simpa using hnext⟩

theorem credential?_append (h : Credential s) (rest : List Char) :
    (credential? (s ++ rest)).isSome = true := by
  obtain ⟨more, left, rfl, hmore, hleft⟩ := h.exists_longest rest
  rw [← List.append_assoc, credential?_of_longest hmore hleft]
  rfl

/-- What a text is read to start with is the longest credential that it starts with. -/
theorem credential?_eq_some_iff : credential? cs = some n ↔
    ∃ s rest, cs = s ++ rest ∧ s.length = n ∧ Credential s ∧
      ∀ c ∈ rest.head?, ¬Credential (s ++ [c]) := by
  constructor
  · intro h
    obtain ⟨s, rest, rfl, rfl, hs⟩ := credential?_eq_some h
    obtain ⟨more, left, rfl, hmore, hleft⟩ := hs.exists_longest rest
    rw [← List.append_assoc, credential?_of_longest hmore hleft, Option.some_inj,
      List.length_append] at h
    obtain rfl : more = [] := List.eq_nil_of_length_eq_zero (by omega)
    exact ⟨s, left, rfl, rfl, hs, by simpa using hleft⟩
  · rintro ⟨s, rest, rfl, rfl, hs, hlongest⟩
    exact credential?_of_longest hs hlongest

theorem isTokenChar_of_isKeyChar (h : isKeyChar c = true) : isTokenChar c = true := by
  simp [isTokenChar, h]

/-- Nothing else stands in a credential. -/
theorem Credential.isTokenChar_or_isBlank (h : Credential s) (hc : c ∈ s) :
    isTokenChar c = true ∨ Text.isBlank c = true := by
  cases h with
  | secretKey _ hok =>
    simp only [List.mem_cons] at hc
    rcases hc with rfl | rfl | rfl | hc
    iterate 3 exact .inl rfl
    exact .inl (isTokenChar_of_isKeyChar (hok c hc))
  | apiKey _ hok =>
    simp only [List.mem_cons] at hc
    rcases hc with rfl | rfl | rfl | rfl | hc
    iterate 4 exact .inl rfl
    exact .inl (isTokenChar_of_isKeyChar (hok c hc))
  | bearer _ hblank _ hok =>
    simp only [List.mem_cons, List.mem_append] at hc
    rcases hc with rfl | rfl | rfl | rfl | rfl | rfl | hc | hc
    iterate 6 exact .inl rfl
    · exact .inr (hblank c hc)
    · exact .inl (hok c hc)

/-- A character that a credential begins with. -/
def Starts (c : Char) : Prop := c ∈ ['s', 'A', 'B']

instance : Decidable (Starts c) := inferInstanceAs (Decidable (_ ∈ _))

theorem credential?_of_not_starts (h : ¬Starts c) (cs : List Char) :
    credential? (c :: cs) = none := by
  unfold credential?
  split <;> simp_all [Starts]

theorem clean_nil : Clean [] := by
  intro s hs h
  rw [List.infix_nil] at hs
  subst hs
  cases h

/-- A text without credentials is one that starts with none at any place. -/
theorem clean_cons : Clean (c :: cs) ↔ credential? (c :: cs) = none ∧ Clean cs := by
  constructor
  · refine fun h => ⟨?_, fun s hs => h s (hs.trans (List.suffix_cons c cs).isInfix)⟩
    by_contra hsome
    obtain ⟨n, hn⟩ := Option.ne_none_iff_exists'.1 hsome
    obtain ⟨s, rest, hsplit, -, hs⟩ := credential?_eq_some hn
    exact h s (hsplit ▸ (List.prefix_append s rest).isInfix) hs
  · rintro ⟨hnone, hrest⟩ s hs hcredential
    rcases List.infix_cons_iff.1 hs with ⟨rest, hsplit⟩ | hinfix
    · have hsome := credential?_append hcredential rest
      rw [hsplit, hnone] at hsome
      simp at hsome
    · exact hrest s hinfix hcredential

instance decidableClean : DecidablePred Clean
  | [] => isTrue clean_nil
  | _ :: cs => have := decidableClean cs; decidable_of_iff' _ clean_cons

theorem clean_cons_of_not_starts (hc : ¬Starts c) (h : Clean cs) : Clean (c :: cs) :=
  clean_cons.2 ⟨credential?_of_not_starts hc cs, h⟩

theorem clean_append_of_not_starts (hs : ∀ c ∈ s, ¬Starts c) (h : Clean cs) : Clean (s ++ cs) := by
  induction s with
  | nil => exact h
  | cons c s ih =>
    obtain ⟨hc, hrest⟩ := List.forall_mem_cons.1 hs
    exact clean_cons_of_not_starts hc (ih hrest)

/-- A text, and the same text where some of its parts gave way to something that begins with the
mark. -/
inductive Marked (mark : Char) : List Char → List Char → Prop
  | nil : Marked mark [] []
  | kept (c : Char) {cs shown : List Char} : Marked mark cs shown →
      Marked mark (c :: cs) (c :: shown)
  | marked (s instead : List Char) {cs shown : List Char} : Marked mark cs shown →
      Marked mark (s ++ cs) (mark :: (instead ++ shown))

/-- What does not reach a mark has stood there before. -/
theorem Marked.prefix_of_prefix (h : Marked mark cs shown) :
    ∀ {s : List Char}, mark ∉ s → s <+: shown → s <+: cs := by
  induction h with
  | nil => exact fun _ hs => hs
  | kept c _ ih =>
    intro s hmark hs
    rcases s with _ | ⟨d, s⟩
    · exact List.nil_prefix
    · obtain ⟨rfl, hrest⟩ := List.cons_prefix_cons.1 hs
      have hrestmark : mark ∉ s := fun hmem => hmark (List.mem_cons_of_mem _ hmem)
      exact List.cons_prefix_cons.2 ⟨rfl, ih hrestmark hrest⟩
  | marked _ _ _ _ =>
    intro s hmark hs
    rcases s with _ | ⟨d, s⟩
    · exact List.nil_prefix
    · obtain ⟨rfl, -⟩ := List.cons_prefix_cons.1 hs
      simp at hmark

/-- A character that no credential has. -/
def Separates (c : Char) : Prop := isTokenChar c = false ∧ Text.isBlank c = false

instance : Decidable (Separates c) := inferInstanceAs (Decidable (_ ∧ _))

theorem Credential.not_mem_of_separates (h : Credential s) (hmark : Separates mark) : mark ∉ s := by
  intro hmem
  rcases h.isTokenChar_or_isBlank hmem with htoken | hblank
  · simp [hmark.1] at htoken
  · simp [hmark.2] at hblank

theorem Marked.credential?_eq_none (h : Marked mark cs shown) (hmark : Separates mark)
    (hnone : credential? cs = none) : credential? shown = none := by
  by_contra hsome
  obtain ⟨n, hn⟩ := Option.ne_none_iff_exists'.1 hsome
  obtain ⟨s, rest, rfl, -, hs⟩ := credential?_eq_some hn
  obtain ⟨before, rfl⟩ :=
    h.prefix_of_prefix (hs.not_mem_of_separates hmark) (List.prefix_append s rest)
  have hfound := credential?_append hs before
  simp [hnone] at hfound

theorem Separates.not_starts (h : Separates c) : ¬Starts c := by
  intro hstarts
  simp only [Starts, List.mem_cons, List.not_mem_nil, or_false] at hstarts
  rcases hstarts with rfl | rfl | rfl <;> exact absurd h.1 (by decide)

theorem marked_append_cons (cs rest : List Char) : Marked mark cs (cs ++ mark :: rest) := by
  induction cs with
  | nil => simpa using Marked.marked [] rest (.nil : Marked mark [] [])
  | cons c cs ih => exact .kept c ih

/-- No credential reaches across a character that none has. -/
theorem clean_append_cons (hmark : Separates mark) (hcs : Clean cs) (hrest : Clean rest) :
    Clean (cs ++ mark :: rest) := by
  induction cs with
  | nil => exact clean_cons_of_not_starts hmark.not_starts hrest
  | cons c cs ih =>
    obtain ⟨hnone, hcs⟩ := clean_cons.1 hcs
    exact clean_cons.2 ⟨(marked_append_cons (c :: cs) rest).credential?_eq_none hmark hnone, ih hcs⟩

theorem Masked.marked (h : Masked cs shown) : Marked '[' cs shown := by
  induction h with
  | nil => exact .nil
  | kept c _ ih => exact .kept c ih
  | @masked s _ _ _ _ ih => exact .marked s "redacted]".toList ih

theorem masked_redactChars (cs : List Char) : Masked cs (redactChars cs) := by
  fun_induction redactChars cs with
  | case1 => exact .nil
  | case2 c cs n hn ih =>
    obtain ⟨s, rest, hsplit, rfl, hs⟩ := credential?_eq_some hn
    rcases s with _ | ⟨d, s⟩
    · cases hs
    · obtain ⟨rfl, rfl⟩ := List.cons.inj hsplit
      simpa using Masked.masked hs ih
  | case3 c cs hnone ih => exact .kept c ih

theorem not_starts_of_mem_mask : ∀ c ∈ mask, ¬Starts c := by
  have hmask : mask = ['[', 'r', 'e', 'd', 'a', 'c', 't', 'e', 'd', ']'] := by decide
  simp [hmask, Starts]

theorem clean_redactChars (cs : List Char) : Clean (redactChars cs) := by
  fun_induction redactChars cs with
  | case1 => exact clean_nil
  | case2 c cs n hn ih => exact clean_append_of_not_starts not_starts_of_mem_mask ih
  | case3 c cs hnone ih =>
    -- What is kept is still followed by what followed it, up to the next mask.
    have hmarked : Marked '[' (c :: cs) (c :: redactChars cs) :=
      .kept c (masked_redactChars cs).marked
    exact clean_cons.2 ⟨hmarked.credential?_eq_none (by decide) hnone, ih⟩

theorem redactChars_of_clean : ∀ {cs : List Char}, Clean cs → redactChars cs = cs
  | [], _ => by simp [redactChars]
  | c :: cs, h => by
    obtain ⟨hnone, hrest⟩ := clean_cons.1 h
    rw [redactChars, hnone, redactChars_of_clean hrest]

theorem toList_redact (text : String) : (redact text).toList = redactChars text.toList :=
  String.toList_ofList

end Redaction

namespace Json

open Redaction

theorem escapeChar_cases (c : Char) : escapeChar c = [c] ∨
    ∃ more, escapeChar c = '\\' :: more ∧ ∀ d ∈ more, ¬Starts d := by
  have hdigit : ∀ n < 16, ¬Starts (Nat.digitChar n) := by decide
  unfold escapeChar
  split_ifs with _ _ _ _ _ _ _ hcontrol
  iterate 7 exact .inr ⟨_, rfl, by simp [Starts]⟩
  · refine .inr ⟨['u', '0', '0', Nat.digitChar (c.toNat / 16), Nat.digitChar (c.toNat % 16)],
      rfl, ?_⟩
    simp only [List.forall_mem_cons]
    exact ⟨by decide, by decide, by decide, hdigit _ (by omega), hdigit _ (by omega), nofun⟩
  · exact .inl rfl

theorem marked_escape (cs : List Char) : Marked '\\' cs (cs.flatMap escapeChar) := by
  induction cs with
  | nil => exact .nil
  | cons c cs ih =>
    rw [List.flatMap_cons]
    rcases escapeChar_cases c with h | ⟨more, h, -⟩
    · rw [h]
      exact .kept c ih
    · rw [h]
      exact .marked [c] more ih

/-- A text without credentials is printed without any. -/
theorem clean_stringChars {text : String} (h : Clean text.toList) : Clean (stringChars text) := by
  have hescaped : ∀ cs, Clean cs → Clean (cs.flatMap escapeChar) := fun cs hcs => by
    induction cs with
    | nil => exact clean_nil
    | cons c cs ih =>
      obtain ⟨hnone, hcs⟩ := clean_cons.1 hcs
      have hmarked := marked_escape (c :: cs)
      rw [List.flatMap_cons] at hmarked ⊢
      rcases escapeChar_cases c with hc | ⟨more, hc, hmore⟩
      · rw [hc] at hmarked ⊢
        exact clean_cons.2 ⟨hmarked.credential?_eq_none (by decide) hnone, ih hcs⟩
      · rw [hc]
        exact clean_append_of_not_starts
          (List.forall_mem_cons.2 ⟨by decide, hmore⟩) (ih hcs)
  exact clean_cons_of_not_starts (by decide)
    (clean_append_cons (by decide) (hescaped _ h) clean_nil)

end Json

namespace Failure

open Redaction

theorem clean_publicMessage (f : Failure) : Clean f.publicMessage.toList := by
  unfold publicMessage
  split_ifs
  · decide
  · rw [toList_redact]
    exact clean_redactChars _

theorem clean_reason (f : Failure) : Clean f.kind.reason.toList := by
  rcases f.kind with _ | _ | _ | _ | _ | _ | (_ | _ | _ | _) | _ | _ | _ <;> decide

theorem body_eq (f : Failure) :
    f.body = .obj [("code", .str f.kind.reason), ("message", .str f.publicMessage)] :=
  rfl

theorem chars_body (f : Failure) : f.body.chars = '{' :: (Json.stringChars "code" ++
    ':' :: (Json.stringChars f.kind.reason ++ ',' :: (Json.stringChars "message" ++
      ':' :: (Json.stringChars f.publicMessage ++ ['}'])))) := by
  simp [body_eq, Json.chars, Json.membersChars, Json.moreMembersChars]

theorem clean_chars_body (f : Failure) : Clean f.body.chars := by
  have hreason := Json.clean_stringChars f.clean_reason
  have hmessage := Json.clean_stringChars f.clean_publicMessage
  rw [chars_body]
  refine clean_cons_of_not_starts (by decide) ?_
  refine clean_append_cons (by decide) (by decide) ?_
  refine clean_append_cons (by decide) hreason ?_
  refine clean_append_cons (by decide) (by decide) ?_
  exact clean_append_cons (by decide) hmessage clean_nil

theorem clean_chars_failureBody {f : Failure} {value : Json}
    (h : HttpAnswer.failureBody f = .json value) : Clean value.chars := by
  obtain rfl : .mkObj [("error", f.body)] = value := AnswerBody.json.inj h
  have hchars : (Json.mkObj [("error", f.body)]).chars =
      '{' :: (Json.stringChars "error" ++ ':' :: (f.body.chars ++ ['}'])) := by
    simp [Json.mkObj, Members.ofList, Members.insert, Json.chars, Json.membersChars,
      Json.moreMembersChars]
  rw [hchars]
  refine clean_cons_of_not_starts (by decide) ?_
  refine clean_append_cons (by decide) (by decide) ?_
  exact clean_append_cons (by decide) f.clean_chars_body clean_nil

theorem clean_chars_event {items : List (Outcome Chunk)} {event : String × Json}
    (h : event ∈ StreamCall.events items) (hname : event.1 = "error") : Clean event.2.chars := by
  obtain ⟨item, -, rfl⟩ := List.mem_map.1 h
  rcases item with f | chunk
  · exact f.clean_chars_body
  · simp at hname

/-- What is redacted has no credential left in it, and nothing is left to redact; it is the text
itself, with masks in the place of credentials. So what a caller is told of a failure, however it is
told, has none, and of an internal failure it says nothing. -/
theorem redact_conceals (text : String) (f : Failure) :
    Clean (redact text).toList
      ∧ redact (redact text) = redact text
      ∧ Masked text.toList (redact text).toList
      ∧ Clean f.publicMessage.toList
      ∧ (f.kind = .internal → f.publicMessage = "internal error")
      ∧ f.body.string? "message" = some f.publicMessage
      ∧ Clean f.body.chars
      ∧ (∀ value, HttpAnswer.failureBody f = .json value → Clean value.chars)
      ∧ ∀ items, ∀ event ∈ StreamCall.events items, event.1 = "error" → Clean event.2.chars := by
  have hclean : Clean (redact text).toList := by
    rw [toList_redact]
    exact clean_redactChars _
  refine ⟨hclean, ?_, ?_, f.clean_publicMessage, fun hkind => if_pos hkind, ?_,
    f.clean_chars_body, fun _ => clean_chars_failureBody, fun _ _ => clean_chars_event⟩
  · rw [← String.toList_inj, toList_redact (redact text), redactChars_of_clean hclean]
  · rw [toList_redact]
    exact masked_redactChars _
  · rw [body_eq]
    rfl

end Failure

end Switchboard
