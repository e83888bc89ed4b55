import Mathlib.Logic.Function.Iterate
import Switchboard.Dialect.OpenAI.Answer
import Switchboard.Dialect.OpenAI.Messages
import Switchboard.Proofs.Json.Bounds

/-!
# Arguments through text

Arguments whose numbers are integers are read back from the text they are written as. A text that
arguments are read from may be written differently afterwards, but from then on it stays as it is,
unless a double in it is not what its own text is read as (`Arguments.ofText_text`). Such doubles
exist, and whole ones are among them (`Arguments.double_drifts`).
-/

namespace Switchboard.Arguments

open Json

variable {t : String} {v : Json}

/-- What is written of the arguments that are read from a text. -/
def rewritten (t : String) : String := text (ofText t)

theorem ofText_of_ofString? (h : Json.ofString? t = some v) : ofText t = v := by
  rw [ofText, not_blank h, if_neg Bool.false_ne_true, h, Option.getD_some]

theorem ofText_text_of_legible (hcanonical : v.Canonical) (hlegible : v.Legible)
    (hdepth : v.depth ≤ Document.maxDepth) : ofText (text v) = v :=
  ofText_of_ofString? (ofString?_render_of_legible hcanonical hlegible hdepth)

/-- The arguments are what the text holds, unless they are none at all or the text itself. -/
theorem ofText_cases (t : String) :
    Json.ofString? t = some (ofText t) ∨ ofText t = obj [] ∨ ofText t = str t := by
  unfold ofText
  split_ifs with hblank
  · exact .inr (.inl rfl)
  · rcases h : Json.ofString? t with _ | v
    · exact .inr (.inr rfl)
    · exact .inl rfl

theorem canonical_ofText (t : String) : (ofText t).Canonical := by
  rcases ofText_cases t with h | h | h
  · exact canonical_of_ofString? h
  · rw [h]
    exact ⟨.nil, trivial⟩
  · rw [h]
    trivial

theorem bounded_ofText (t : String) : (ofText t).Bounded Document.maxDepth := by
  rcases ofText_cases t with h | h | h
  · exact bounded_of_ofString? h
  · rw [h]
    exact ⟨by decide, List.forall_mem_nil _⟩
  · rw [h]
    exact ⟨Nat.zero_le _, List.forall_mem_nil _⟩

/-- Only a double can be other than what its text is read as. -/
theorem legible_ofText
    (h : ∀ x, Number.real x ∈ (ofText t).numbers → x = -0.0 ∨ (Number.real x).Legible) :
    (ofText t).Legible := by
  intro n hn
  have hreadable := (bounded_ofText t).numbers n hn
  cases n with
  | whole n => exact Number.legible_whole hreadable.1 hreadable.2
  | real x =>
    rcases h x hn with rfl | hlegible
    · exact Number.legible_negative_zero
    · exact hlegible
  | single x => exact hreadable.elim

theorem rewritten_iterate (h : ofText (rewritten t) = ofText t) (n : Nat) :
    rewritten^[n + 1] t = rewritten t := by
  induction n with
  | zero => rfl
  | succ n ih =>
    rw [Function.iterate_succ_apply', ih, rewritten, h]
    rfl

/-- Arguments whose numbers are integers of 64 bits are read back from the call they are written
into, if they are not too deep. Whatever text arguments are read from, what is written of them is
read as the same arguments, and so stays as it is, if every double in them is zero with a minus or
what its own text is read as. -/
theorem ofText_text :
    (∀ v : Json, v.Canonical → v.Integral → v.depth ≤ 127 →
      ofText (text v) = v
      ∧ ∀ id name,
        ofText (OpenAI.textIn ((OpenAI.callEntry id name v).get "function") "arguments") = v)
    ∧ ∀ t : String,
      (∀ x, Number.real x ∈ (ofText t).numbers → x = -0.0 ∨ (Number.real x).Legible) →
      ofText (rewritten t) = ofText t ∧ ∀ n, rewritten^[n + 1] t = rewritten t := by
  refine ⟨fun v hcanonical hintegral hdepth => ?_, fun t h => ?_⟩
  · have hback := ofText_text_of_legible hcanonical hintegral.legible hdepth
    exact ⟨hback, fun _ _ => hback⟩
  · have hback := ofText_text_of_legible (canonical_ofText t) (legible_ofText h)
      (bounded_ofText t).depth
    exact ⟨hback, rewritten_iterate hback⟩

section Forecasts

/-- Arguments that hold the greatest and the least integer, and texts that could be mistaken. -/
def forecast : Json :=
  .obj [("bounds", .arr [.num (.whole 18446744073709551615),
      .num (.whole (-9223372036854775808))]),
    ("note", " "), ("nothing", .obj []), ("place", "Älvdalen\n"), ("quoted", "\x7b\"a\":[1]\x7d")]

/-- A text that holds an integer, zero with a minus and a double. -/
def measured : String := " [7, -0, 1e2] "

theorem forecast_survives :
    ofText (text forecast) = forecast
    ∧ measured ≠ rewritten measured ∧ ofText (rewritten measured) = ofText measured := by
  have hnumbers : (ofText measured).numbers =
      [.whole 7, .real (-0.0), .real 100.0] := by decide +kernel
  have hlegible : (Number.real 100.0).Legible := by
    have hchars : numberChars (.real 100.0) = ['1', '0', '0', '.', '0'] := by decide +kernel
    refine ⟨⟨false, [1, 0, 0], some [0], none⟩, ?_, by decide +kernel⟩
    rw [hchars]
    rfl
  have hcanonical : forecast.Canonical :=
    ⟨by rw [Members.Ordered]; decide +kernel, ⟨trivial, trivial, trivial⟩, trivial,
      ⟨.nil, trivial⟩, trivial, trivial, trivial⟩
  have hintegral : forecast.Integral :=
    ⟨⟨⟨by decide, by decide⟩, ⟨by decide, by decide⟩, trivial⟩, trivial, trivial, trivial, trivial,
      trivial⟩
  refine ⟨(ofText_text.1 forecast hcanonical hintegral (by decide)).1, by decide +kernel,
    (ofText_text.2 measured fun x hx => ?_).1⟩
  rw [hnumbers] at hx
  obtain rfl | rfl : x = -0.0 ∨ x = 100.0 := by simpa using hx
  · exact .inl rfl
  · exact .inr hlegible

/-- A whole double that is not what its own text is read as. -/
theorem double_drifts :
    ofText "4229547668785374e0" = .num (.real 4229547668785374.0)
    ∧ rewritten "4229547668785374e0" = "4229547668785374.0"
    ∧ ofText (rewritten "4229547668785374e0") = .num (.real 4229547668785374.5)
    ∧ ofText (rewritten "4229547668785374e0") ≠ ofText "4229547668785374e0" := by
  decide +kernel

end Forecasts

end Switchboard.Arguments
