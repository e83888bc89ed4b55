import Mathlib.Data.List.Infix
import Switchboard.Chat.Message

/-!
# Where the bytes of an image are

A text is cut at a mark where the mark stands for the first time (`Text.of_cutAt`, and
`Text.cutAt_append` the other way round). So a `data:` URL in base 64 has one media type and one run
of data (`Image.dataUrl?_eq_some_iff`), and the source of an image is inline data, what its `data:`
URL holds, or any other URL (`Image.liesAt_of_source`).
-/

namespace Switchboard

namespace Text

variable {mark before after : List Char}

theorem cutAt_eq_none_iff : ∀ {cs : List Char}, cutAt mark cs = none ↔ ¬mark <:+: cs
  | [] => by cases mark <;> simp [cutAt]
  | c :: cs => by
    rw [List.infix_cons_iff, not_or, ← cutAt_eq_none_iff, ← List.isPrefixOf_iff_prefix, cutAt]
    split_ifs with h <;> simp [h]

/-- A text is cut where the mark stands for the first time. -/
theorem of_cutAt (hmark : mark ≠ []) : ∀ {cs before after : List Char},
    cutAt mark cs = some (before, after) → cs = before ++ mark ++ after ∧ ¬mark <:+: before
  | [], before, after, h => by
    simp [cutAt, hmark] at h
  | c :: cs, before, after, h => by
    rw [cutAt] at h
    split_ifs at h with hfirst
    · simp only [Option.some.injEq, Prod.mk.injEq] at h
      obtain ⟨rfl, rfl⟩ := h
      obtain ⟨rest, hrest⟩ := List.isPrefixOf_iff_prefix.1 hfirst
      rw [← hrest, List.drop_left]
      simpa using hmark
    · obtain ⟨⟨upTo, rest⟩, hcut, heq⟩ := Option.map_eq_some_iff.1 h
      simp only [Prod.mk.injEq] at heq
      obtain ⟨rfl, rfl⟩ := heq
      obtain ⟨rfl, hnot⟩ := of_cutAt hmark hcut
      refine ⟨by simp, ?_⟩
      rw [List.infix_cons_iff, not_or]
      refine ⟨fun hprefix => hfirst (List.isPrefixOf_iff_prefix.2 ?_), hnot⟩
      exact hprefix.trans (by simp)

/-- Where the first character of a mark stands in it only once, no mark stands across the start of
another. -/
theorem cutAt_append {c : Char} {cs : List Char} (hc : c ∉ cs) : ∀ {before : List Char},
    ¬(c :: cs) <:+: before → cutAt (c :: cs) (before ++ (c :: cs) ++ after) = some (before, after)
  | [], _ => by simp [cutAt]
  | d :: before, h => by
    rw [List.infix_cons_iff, not_or] at h
    have hfirst : ¬(c :: cs) <+: d :: before ++ (c :: cs) ++ after := by
      rintro ⟨rest, hrest⟩
      rw [List.append_assoc] at hrest
      -- the mark would end within `d :: before`, or stand across the start of the one after it
      rcases List.append_eq_append_iff.1 hrest with ⟨more, hmore, -⟩ | ⟨more, hmore, hover⟩
      · exact h.1 ⟨more, hmore.symm⟩
      · rcases more with _ | ⟨e, more⟩
        · exact h.1 ⟨[], by simpa using hmore⟩
        · obtain ⟨rfl, -⟩ := List.cons.inj hover
          exact hc (by simp [(List.cons.inj hmore).2])
    rw [← List.isPrefixOf_iff_prefix] at hfirst
    rw [List.cons_append, List.cons_append] at hfirst ⊢
    rw [cutAt, if_neg hfirst, cutAt_append hc h.2]
    rfl

theorem contains_eq_false_iff {mark text : String} :
    contains mark text = false ↔ ¬mark.toList <:+: text.toList := by
  rw [contains, Option.isSome_eq_false_iff, Option.isNone_iff_eq_none, cutAt_eq_none_iff]

end Text

namespace Image

/-- Where the bytes of an image are: given inline, in its `data:` URL, or at any other URL. -/
inductive LiesAt : Image → ImageSource → Prop
  | inline (url : Option String) (data mimeType : String) :
      LiesAt ⟨url, some data, some mimeType⟩ (.base64 mimeType data)
  | dataUrl {mimeType : String} (data : String) (given : Option String) :
      Text.contains ";base64," mimeType = false →
      LiesAt ⟨some ("data:" ++ mimeType ++ ";base64," ++ data), none, given⟩ (.base64 mimeType data)
  | url {url : String} (given : Option String) :
      (∀ mimeType data, url ≠ "data:" ++ mimeType ++ ";base64," ++ data) →
      LiesAt ⟨some url, none, given⟩ (.url url)

variable {url mimeType data : String}

theorem dataUrl?_data (rest : String) : dataUrl? ("data:" ++ rest) =
    (Text.cutAt ";base64,".toList rest.toList).map fun (mimeType, data) =>
      (String.ofList mimeType, String.ofList data) := by
  have hafter : Text.after? "data:" ("data:" ++ rest) = some rest :=
    Text.after?_eq_some_iff.2 rfl
  rw [dataUrl?, hafter, Option.bind_eq_bind, Option.bind_some]
  cases Text.cutAt ";base64,".toList rest.toList <;> rfl

theorem dataUrl?_eq_some_iff : dataUrl? url = some (mimeType, data) ↔
    url = "data:" ++ mimeType ++ ";base64," ++ data
      ∧ Text.contains ";base64," mimeType = false := by
  rw [Text.contains_eq_false_iff]
  constructor
  · intro h
    obtain ⟨rest, hrest, -⟩ := Option.bind_eq_some_iff.1 h
    obtain rfl := Text.after?_eq_some_iff.1 hrest
    rw [dataUrl?_data] at h
    obtain ⟨⟨before, after⟩, hcut, heq⟩ := Option.map_eq_some_iff.1 h
    simp only [Prod.mk.injEq] at heq
    obtain ⟨rfl, rfl⟩ := heq
    obtain ⟨hrest, hnot⟩ := Text.of_cutAt (by decide) hcut
    refine ⟨?_, by simpa using hnot⟩
    rw [← String.toList_inj]
    simp [String.toList_append, hrest]
  · rintro ⟨rfl, hnot⟩
    have hmark : ";base64,".toList = ';' :: "base64,".toList := rfl
    rw [String.append_assoc, String.append_assoc, dataUrl?_data, String.toList_append,
      String.toList_append, ← List.append_assoc, hmark,
      Text.cutAt_append (by decide) (hmark ▸ hnot)]
    simp

theorem dataUrl?_eq_none_iff : dataUrl? url = none ↔
    ∀ mimeType data, url ≠ "data:" ++ mimeType ++ ";base64," ++ data := by
  constructor
  · rintro h mimeType data rfl
    rw [String.append_assoc, String.append_assoc, dataUrl?_data, Option.map_eq_none_iff,
      Text.cutAt_eq_none_iff] at h
    exact h ⟨mimeType.toList, data.toList, by simp [String.toList_append]⟩
  · intro h
    rcases hurl : dataUrl? url with _ | ⟨mimeType, data⟩
    · rfl
    · exact absurd (dataUrl?_eq_some_iff.1 hurl).1 (h mimeType data)

theorem liesAt_of_source {image : Image} {source : ImageSource} (h : image.source = .ok source) :
    LiesAt image source := by
  obtain ⟨url, data, given⟩ := image
  rcases data with _ | data
  · rcases url with _ | url
    · cases h
    · simp only [Image.source] at h
      rcases hurl : dataUrl? url with _ | ⟨mimeType, data⟩ <;> rw [hurl] at h <;>
        obtain rfl := Except.ok.inj h
      · exact .url _ (dataUrl?_eq_none_iff.1 hurl)
      · obtain ⟨rfl, hmark⟩ := dataUrl?_eq_some_iff.1 hurl
        exact .dataUrl _ _ hmark
  · rcases given with _ | mimeType
    · cases h
    · obtain rfl := Except.ok.inj h
      exact .inline ..

end Image

end Switchboard
