import Switchboard.Dialect.OpenAI.Answer
import Switchboard.Proofs.Dialect.Requests

/-!
# Names of functions on the wire

Tools with different names can be declared under one name, since every character that may not be in
the name of a function is written as a low line. Which tools a call means, and whether it is heard
at all, follows from what their names look like (`functions_named`).
-/

namespace Switchboard

namespace FunctionName

variable {a b name : String} {x y : Char}

/-- A character that is written as a low line. -/
def Blank (c : Char) : Prop := c = '_' ∨ isNameChar c = false

/-- Names that are the same up to their blanks. -/
def Alike (a b : String) : Prop :=
  List.Forall₂ (fun x y => x = y ∨ (Blank x ∧ Blank y)) a.toList b.toList

theorem isNameChar_low_line : isNameChar '_' = true := by decide

theorem written_eq_iff :
    ((if isNameChar x then x else '_') = if isNameChar y then y else '_') ↔
      x = y ∨ (Blank x ∧ Blank y) := by
  have hlow := isNameChar_low_line
  unfold Blank
  split_ifs with hx hy hy <;> grind

theorem sanitize_eq_iff : sanitize a = sanitize b ↔ Alike a b := by
  rw [sanitize, sanitize, String.ofList_inj, ← List.forall₂_eq_eq_eq, List.forall₂_map_left_iff,
    List.forall₂_map_right_iff, Alike]
  simp only [written_eq_iff]

instance : Decidable (Alike a b) := decidable_of_iff _ sanitize_eq_iff

theorem isNameChar_of_mem_sanitize (h : x ∈ (sanitize name).toList) : isNameChar x = true := by
  rw [sanitize, String.toList_ofList, List.mem_map] at h
  obtain ⟨c, -, rfl⟩ := h
  split_ifs with hc
  · exact hc
  · exact isNameChar_low_line

/-- Only the empty name has nothing that could be written. -/
theorem isValid_sanitize_iff : isValid (sanitize name) = true ↔ name ≠ "" := by
  have hall : (sanitize name).toList.all isNameChar = true :=
    List.all_eq_true.2 fun _ => isNameChar_of_mem_sanitize
  have hempty : sanitize name = "" ↔ name = "" := by
    rw [sanitize, ← String.toList_inj, String.toList_ofList, ← String.toList_inj]
    exact List.map_eq_nil_iff
  simp [isValid, hall, hempty]

theorem sanitize_of_isValid (h : isValid name = true) : sanitize name = name := by
  have hchars : ∀ c ∈ name.toList, isNameChar c = true := by
    simp only [isValid, Bool.and_eq_true, List.all_eq_true] at h
    exact h.2
  rw [sanitize, ← String.toList_inj, String.toList_ofList]
  exact (List.map_congr_left fun c hc => if_pos (hchars c hc)).trans (List.map_id _)

end FunctionName

namespace OpenAI

open FunctionName

variable {ts : List Tool} {ds : List Json}

def declaredName? (declaration : Json) : Option String :=
  (declaration.get "function").string? "name"

/-- The call is one of the function under whose name the tool is declared. -/
def Calls (call : Json) (t : Tool) : Prop :=
  textIn (call.get "function") "name" = sanitize t.name

theorem toolCall_of_calls {call : Json} {t : Tool} (h : Calls call t) (hname : t.name ≠ "") :
    toolCall call = .ok (.toolCall (textIn call "id") (sanitize t.name)
      (Arguments.ofText (textIn (call.get "function") "arguments"))) := by
  have hvalid : isValid (textIn (call.get "function") "name") = true :=
    h ▸ isValid_sanitize_iff.2 hname
  rw [toolCall, if_pos hvalid, h]

theorem toolCall_of_calls_empty {call : Json} {t : Tool} (h : Calls call t) (hname : t.name = "") :
    ∃ text, toolCall call = .error (.untranslatable text) := by
  have hinvalid : ¬isValid (textIn (call.get "function") "name") = true := by
    rw [show textIn (call.get "function") "name" = _ from h, isValid_sanitize_iff, hname]
    exact not_not_intro rfl
  exact ⟨_, by rw [toolCall, if_neg hinvalid]⟩

theorem calls_iff {call : Json} {t u : Tool} (h : Calls call t) :
    Calls call u ↔ Alike u.name t.name := by
  rw [← sanitize_eq_iff, Calls, show textIn (call.get "function") "name" = _ from h, eq_comm]

/-- The names that are declared are different exactly when no two of the tools' own are alike, and
valid but for the empty name's. A call is heard exactly when its tool has a name, and it means one
tool exactly when no other is named alike. -/
theorem functions_named (h : tools ts = .ok ds) :
    ds.map declaredName? = ts.map (fun t => some (sanitize t.name))
    ∧ ((ds.map declaredName?).Nodup ↔ ts.Pairwise fun t u => ¬Alike t.name u.name)
    ∧ (∀ t ∈ ts, (isValid (sanitize t.name) = true ↔ t.name ≠ "")
      ∧ (isValid t.name = true → sanitize t.name = t.name))
    ∧ ∀ t ∈ ts, ∀ call, Calls call t →
      ((∃! u, u ∈ ts ∧ Calls call u) ↔ ∀ u ∈ ts, Alike u.name t.name → u = t)
      ∧ (t.name ≠ "" → toolCall call = .ok (.toolCall (textIn call "id") (sanitize t.name)
        (Arguments.ofText (textIn (call.get "function") "arguments"))))
      ∧ (t.name = "" → ∃ text, toolCall call = .error (.untranslatable text)) := by
  obtain ⟨-, rfl⟩ := Tool.declareDistinct_eq_ok_iff.1 h
  have hnames : (ts.map declaration).map declaredName? = ts.map (fun t => some (sanitize t.name)) :=
    List.map_map
  refine ⟨hnames, ?_, fun t _ => ⟨isValid_sanitize_iff, sanitize_of_isValid⟩,
    fun t ht call hcall => ⟨?_, toolCall_of_calls hcall, toolCall_of_calls_empty hcall⟩⟩
  · rw [hnames, List.Nodup, List.pairwise_map]
    simp only [ne_eq, Option.some.injEq, sanitize_eq_iff]
  · simp only [calls_iff hcall]
    constructor
    -- The tool itself is among those that the call means, so the one that it means is this tool.
    · rintro ⟨v, -, hunique⟩ u hu halike
      rw [hunique u ⟨hu, halike⟩, hunique t ⟨ht, sanitize_eq_iff.1 rfl⟩]
    · exact fun hunique => ⟨t, ⟨ht, sanitize_eq_iff.1 rfl⟩, fun u hu => hunique u hu.1 hu.2⟩

section Forecasts

def today : Tool := ⟨"weather today", "", .empty⟩

def tomorrow : Tool := ⟨"weather-tomorrow", "", .empty⟩

def todayCall : Json :=
  .mkObj [("id", "a"), ("function", .mkObj [("name", "weather_today"), ("arguments", "\x7b\x7d")])]

theorem forecasts_named : ∃ ds, tools [today, tomorrow] = .ok ds
    ∧ ds.map declaredName? = [some "weather_today", some "weather-tomorrow"]
    ∧ (ds.map declaredName?).Nodup
    ∧ (∃! t, t ∈ [today, tomorrow] ∧ Calls todayCall t)
    ∧ toolCall todayCall = .ok (.toolCall "a" "weather_today" (.obj [])) := by
  have htools : tools [today, tomorrow] = .ok _ := rfl
  obtain ⟨hnames, hdistinct, -, hcalls⟩ := functions_named htools
  obtain ⟨hmeant, hheard, -⟩ := hcalls today (by simp) todayCall rfl
  exact ⟨_, htools, hnames, hdistinct.2 (by decide), hmeant.2 (by decide), hheard (by decide)⟩

end Forecasts

/-- Two tools are declared under one name, and another under none. -/
theorem functions_confused :
    (∃ ds, tools [⟨"a b", "", .empty⟩, ⟨"a_b", "", .empty⟩] = .ok ds
      ∧ ¬(ds.map declaredName?).Nodup)
    ∧ ∃ ds, tools [⟨"", "", .empty⟩] = .ok ds
      ∧ ∃ name, ds.map declaredName? = [some name] ∧ isValid name = false := by
  have hblank : ¬[some "a_b", some "a_b"].Nodup := by decide
  exact ⟨⟨_, rfl, hblank⟩, _, rfl, "", rfl, rfl⟩

end OpenAI

end Switchboard
