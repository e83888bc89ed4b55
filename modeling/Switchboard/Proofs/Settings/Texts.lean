import Mathlib.Data.List.DropRight
import Switchboard.Proofs.Settings.Reading
import Switchboard.Settings.Providers

/-!
# Texts of the operator

The secret, and of each provider its key, its address, its version and its models, are texts that
an operator chooses. A variable for one of them sets it and nothing else (`Settings.text_loaded`),
so those for several do not disturb each other (`TextSetting.apart_of_ne`). What it is set to is the
text as it stands if that says neither true nor false and reads as no number
(`SettingValue.Verbatim`), as no text does that begins like none (`SettingValue.verbatim_of_head`).
Otherwise it is what was read, written anew, and no list is made of it at all.
-/

namespace Switchboard

namespace Text

theorem splitOn_eq (sep : Char) (cs : List Char) : splitOn sep cs = cs.splitOn sep := by
  induction cs with
  | nil => rfl
  | cons c cs ih =>
    rw [splitOn, ih, List.splitOn, List.splitOn, List.splitOnP_cons_eq_if_modifyHead]
    rcases hpieces : cs.splitOnP (· == sep) with _ | ⟨piece, pieces⟩
    · exact absurd hpieces (List.splitOnP_ne_nil _ _)
    · rfl

/-- Nothing is left of a text between its blanks if all of it is blank. -/
theorem isEmpty_trim (s : String) : (trim s).isEmpty = blank s := by
  rw [Bool.eq_iff_iff, String.isEmpty_iff, ← String.toList_inj, trim, String.toList_ofList]
  have hend : trimEnd (trimStart s.toList) = [] ↔ ∀ c ∈ trimStart s.toList, isBlank c = true :=
    List.rdropWhile_eq_nil_iff
  rw [show "".toList = [] from rfl, hend, blank, List.all_eq_true]
  constructor
  · intro h
    refine List.dropWhile_eq_nil_iff.1 (by_contra fun hne => ?_)
    have hfirst := List.head_dropWhile_not isBlank hne
    rw [h _ (List.head_mem hne)] at hfirst
    exact absurd hfirst (by decide)
  · exact fun h c hc => h c ((List.dropWhile_sublist _).subset hc)

end Text

namespace SettingValue

/-! ## What texts are stored as -/

/-- A text that says neither true nor false and reads as no number. -/
def Verbatim (text : String) : Prop :=
  text.toLower ≠ "true" ∧ text.toLower ≠ "false"
    ∧ whole? text.toList = none ∧ real? text.toList = none

instance (text : String) : Decidable (Verbatim text) :=
  inferInstanceAs (Decidable (text.toLower ≠ "true" ∧ text.toLower ≠ "false"
    ∧ whole? text.toList = none ∧ real? text.toList = none))

variable {text : String}

theorem ofText_of_verbatim (h : Verbatim text) : ofText text = .text text := by
  obtain ⟨htrue, hfalse, hwhole, hreal⟩ := h
  unfold ofText
  split
  · exact absurd ‹_› htrue
  · exact absurd ‹_› hfalse
  · rw [hwhole, hreal]

/-- What is not stored as it stands is stored as true, false or a number. -/
theorem ofText_of_not_verbatim (h : ¬Verbatim text) :
    (∃ b, ofText text = .flag b) ∨ (∃ n, ofText text = .whole n) ∨ ∃ x, ofText text = .real x := by
  unfold ofText
  split
  · exact .inl ⟨_, rfl⟩
  · exact .inl ⟨_, rfl⟩
  · rename_i htrue hfalse
    rcases hwhole : whole? text.toList with _ | n
    · rcases hreal : real? text.toList with _ | x
      · exact absurd ⟨htrue, hfalse, hwhole, hreal⟩ h
      · exact .inr (.inr ⟨x, rfl⟩)
    · exact .inr (.inl ⟨n, rfl⟩)

theorem ofText_ne_nil (text : String) : ofText text ≠ .nil := by
  by_cases h : Verbatim text
  · simp [ofText_of_verbatim h]
  · rcases ofText_of_not_verbatim h with ⟨b, h⟩ | ⟨n, h⟩ | ⟨x, h⟩ <;> simp [h]

/-- A character that a number may begin with. -/
def opensNumber (c : Char) : Bool := c.isDigit || c == '-' || c == '+' || c == '.'

section Opening

variable {cs : List Char}

theorem isDigit_of_opensNumber {c : Char} (h : opensNumber c = false) : c.isDigit = false := by
  simp_all [opensNumber]

theorem splitSign_of_head (h : ∀ c ∈ cs.head?, opensNumber c = false) :
    splitSign cs = (false, cs) := by
  unfold splitSign
  split
  · exact absurd (h _ rfl) (by decide)
  · exact absurd (h _ rfl) (by decide)
  · rfl

theorem digits?_of_head (h : ∀ c ∈ cs.head?, opensNumber c = false) : digits? cs = none := by
  rcases cs with _ | ⟨c, cs⟩
  · rfl
  · simp [digits?, isDigit_of_opensNumber (h c rfl)]

theorem decimal?_of_head (h : ∀ c ∈ cs.head?, opensNumber c = false) : decimal? cs = none := by
  have hwhole : cs.takeWhile Char.isDigit = [] := by
    rcases cs with _ | ⟨c, cs⟩
    · rfl
    · simp [isDigit_of_opensNumber (h c rfl)]
  have hpoint : cs.head? ≠ some '.' := fun hpoint => absurd (h _ hpoint) (by decide)
  simp [decimal?, hwhole, hpoint, digits?]

end Opening

/-- What does not begin like a number is none, but for three words. -/
theorem verbatim_of_head (hhead : ∀ c ∈ text.toList.head?, opensNumber c = false)
    (hwords : text.toLower ∉ ["true", "false", "inf", "infinity", "nan"]) : Verbatim text := by
  have hlower : String.ofList (text.toList.map Char.toLower) = text.toLower := by
    show _ = text.map Char.toLower
    rw [← String.toList_inj, String.toList_map, String.toList_ofList]
  simp only [List.mem_cons, List.not_mem_nil, or_false, not_or] at hwords
  obtain ⟨htrue, hfalse, hinf, hinfinity, hnan⟩ := hwords
  have hwhole : whole? text.toList = none := by
    simp [whole?, splitSign_of_head hhead, digits?_of_head hhead]
  have hreal : real? text.toList = none := by
    simp [real?, splitSign_of_head hhead, hlower, decimal?_of_head hhead]
  exact ⟨htrue, hfalse, hwhole, hreal⟩

/-- The text that is written for what a text is stored as. -/
def written (text : String) : String := (ofText text).string?.getD text

theorem string?_ofText (text : String) : (ofText text).string? = some (written text) := by
  unfold written
  by_cases h : Verbatim text
  · simp [ofText_of_verbatim h, string?]
  · rcases ofText_of_not_verbatim h with ⟨b, h⟩ | ⟨n, h⟩ | ⟨x, h⟩ <;> simp [h, string?]

theorem written_of_verbatim (h : Verbatim text) : written text = text := by
  simp [written, ofText_of_verbatim h, string?]

/-- The items between the commas of a text that are not blank, trimmed. -/
def items (text : String) : List String :=
  (((text.toList.splitOn ',').map String.ofList).filter fun item => !Text.blank item).map Text.trim

theorem list?_text (text : String) : (SettingValue.text text).list? = some (items text) := by
  simp only [list?, Text.splitOn_eq, items, List.filter_map, List.map_map, Function.comp_def,
    Text.isEmpty_trim]

/-- A list is made of a text that is stored as it stands, and of no other. -/
theorem list?_ofText_eq_some_iff {xs : List String} :
    (ofText text).list? = some xs ↔ Verbatim text ∧ items text = xs := by
  by_cases h : Verbatim text
  · rw [ofText_of_verbatim h, list?_text]
    simp [h]
  · have hnone : (ofText text).list? = none := by
      rcases ofText_of_not_verbatim h with ⟨b, h⟩ | ⟨n, h⟩ | ⟨x, h⟩ <;> simp [h, list?]
    simp [hnone, h]

end SettingValue

/-! ## The way to a setting -/

namespace Environment

/-- The letter that a character of a name counts as. -/
def lowerChar (c : Char) : Char := if c == '\u212a' then 'k' else c.toLower

theorem toList_variableOf (field : String) : (variableOf field).toList =
    mark.toList ++ '_' :: (Text.replaceAll ['.'] ['_', '_'] field.toList).flatMap
      Text.upperChar := by
  simp [variableOf, Text.upper]

/-- A variable is told by its mark, so what it stands for is what its field is written as. -/
theorem pathOf?_variableOf (field : String) : pathOf? (variableOf field) =
    some (steps (Text.replaceAll ['_', '_'] ['.'] (((Text.replaceAll ['.'] ['_', '_']
      field.toList).flatMap Text.upperChar).map lowerChar))) := by
  have hmark : (mark.toList ++ ['_']).map lowerChar = (mark.toLower ++ "_").toList := by
    decide +kernel
  have hlower : lower (variableOf field) = mark.toLower ++ "_" ++ String.ofList
      (((Text.replaceAll ['.'] ['_', '_'] field.toList).flatMap Text.upperChar).map
        lowerChar) := by
    rw [← String.toList_inj, lower, String.toList_map, toList_variableOf, String.toList_append,
      ← hmark, String.toList_ofList, ← List.map_append, List.append_assoc]
    rfl
  rw [pathOf?, Text.after?_eq_some_iff.2 hlower]
  simp

/-- Where nothing stands in the way of a path, a table stands under its first name, or nothing. -/
theorem Clear.within {name a : String} {p : List Step} {es : Settings.Entries}
    (h : Clear (.name a :: p) (Members.lookup name es)) :
    Settings.Within name es ((Members.lookup name es).getD .nil).held := by
  rcases hfound : Members.lookup name es with _ | v
  · exact .inl ⟨hfound, rfl⟩
  · rw [hfound] at h
    cases v <;> first | exact .inr hfound | exact h.elim

end Environment

/-! ## Settings that are texts -/

/-- The settings that are texts, or lists of texts, of an operator. -/
inductive TextSetting where
  | secret
  | provider (family : Family) (field : ProviderText)
deriving DecidableEq

/-- What is set of a provider once a text says what one setting is. -/
def ProviderText.withText (text : String) (p : ProviderSettings) : ProviderText → ProviderSettings
  | apiKey => { p with apiKey := some (SettingValue.written text) }
  | baseUrl => { p with baseUrl := some (SettingValue.written text) }
  | version => { p with version := some (SettingValue.written text) }
  | models => { p with models := SettingValue.items text }
  | embeddingModels => { p with embeddingModels := SettingValue.items text }

def ProviderText.IsList : ProviderText → Prop
  | apiKey | baseUrl | version => False
  | models | embeddingModels => True

theorem ProviderText.sets_ofText_iff {F : ProviderText} {text : String} {p p' : ProviderSettings} :
    F.Sets (.ofText text) p p' ↔
      (F.IsList → SettingValue.Verbatim text) ∧ p' = F.withText text p := by
  cases F <;> simp [Sets, withText, IsList, SettingValue.string?_ofText,
    SettingValue.list?_ofText_eq_some_iff, and_assoc]

namespace TextSetting

open Environment SettingValue

/-- The variable for a setting. -/
def variableName : TextSetting → String
  | secret => variableOf "auth.secret"
  | provider family F => ProviderSettings.variableOf family F.key

/-- The way to a setting. -/
def path : TextSetting → List Step
  | secret => [.name "auth", .name "secret"]
  | provider family F => [.name "providers", .name family.name, .name F.key]

/-- Whether a setting is a list of texts. -/
def IsList : TextSetting → Prop
  | secret => False
  | provider _ F => F.IsList

/-- The settings once a text says what one of them is. -/
def withText (text : String) (s : Settings) : TextSetting → Settings
  | secret => { s with secret := some (written text) }
  | provider family F => s.withProvider family (F.withText text ((s.providers family).getD .unset))

theorem pathOf?_variableName (X : TextSetting) : pathOf? X.variableName = some X.path := by
  rcases X with _ | ⟨family, F⟩
  · exact (pathOf?_variableOf _).trans (by decide +kernel)
  · rw [variableName, ProviderSettings.variableOf, pathOf?_variableOf]
    cases family <;> cases F <;>
      simp only [String.toList_append, Family.name, ProviderText.key, path] <;> decide +kernel

/-- Different settings are kept apart. -/
theorem apart_of_ne {X Y : TextSetting} (h : X ≠ Y) : Apart X.path Y.path := by
  rcases X with _ | ⟨family, F⟩ <;> rcases Y with _ | ⟨other, G⟩
  · exact absurd rfl h
  · exact .inl (by decide)
  · exact .inl (by decide)
  · refine .inr ?_
    by_cases hfamily : family = other
    · subst hfamily
      refine .inr (.inl ?_)
      have hfield : F ≠ G := fun heq => h (heq ▸ rfl)
      revert hfield
      cases F <;> cases G <;> decide
    · refine .inl ?_
      revert hfamily
      cases family <;> cases other <;> decide

/-- What a text stores at the end of the way to a setting is read as that setting, and what is set
besides is what it would be without it. -/
theorem exists_insertAt (X : TextSetting) (text : String) {es : Settings.Entries}
    (hclear : Clear X.path (some (.table es))) :
    ∃ es', insertAt (.ofText text) X.path (.table es) = some (.table es') ∧ ∀ s',
      Settings.read es' = .ok s' ↔ ∃ s, Settings.read es = .ok s
        ∧ (X.IsList → Verbatim text) ∧ s' = X.withText text s := by
  have hv := ofText_ne_nil text
  rcases X with _ | ⟨family, F⟩
  · have hauth : Clear [.name "secret"] (Members.lookup "auth" es) := hclear
    refine ⟨_, by simp only [path, insertAt_name, insertAt_nil, Option.map_some, held_table]; rfl,
      fun s' => ?_⟩
    rw [Settings.read_insert_secret_eq_ok_iff hv hauth.within hauth.lookup.eq_none]
    simp [string?_ofText, IsList, withText]
  · have houter : Clear [.name family.name, .name F.key] (Members.lookup "providers" es) := hclear
    have hinner := houter.lookup
    refine ⟨_, by simp only [path, insertAt_name, insertAt_nil, Option.map_some, held_table]; rfl,
      fun s' => ?_⟩
    rw [Settings.read_insert_provider_eq_ok_iff family F hv houter.within hinner.within
      hinner.lookup.eq_none]
    simp [ProviderText.sets_ofText_iff, IsList, withText, and_assoc]

theorem server_withText (X : TextSetting) (text : String) (s : Settings) :
    (X.withText text s).server = s.server := by
  cases X <;> rfl

end TextSetting

namespace Settings

open Environment SettingValue

theorem ofEnvironment_eq_ok_iff {assigned : List (String × String)} {s : Settings} :
    ofEnvironment assigned = .ok s ↔
      ∃ es, settings? assigned = some es ∧ read es = .ok s ∧ s.server.streamBuffer ≠ 0 := by
  unfold ofEnvironment
  rcases settings? assigned with _ | es
  · simp
  · have hvalidate : ∀ a : Settings, a.validate = .ok s ↔ a = s ∧ s.server.streamBuffer ≠ 0 :=
      fun a => by
        unfold validate
        split_ifs with h <;> grind
    simp only [bind_eq_ok_iff, hvalidate, Option.some.injEq, exists_eq_left']
    constructor
    · rintro ⟨_, hread, rfl, hbuffer⟩
      exact ⟨hread, hbuffer⟩
    · rintro ⟨hread, hbuffer⟩
      exact ⟨s, hread, rfl, hbuffer⟩

/-- A variable for a text, among others that are kept apart from it, sets that text and nothing
else: to the text as it stands if it says neither true nor false and reads as no number, and
otherwise to what was read, written anew. Only what stands as it is makes a list. -/
theorem text_loaded (X : TextSetting) {before after : List (String × String)}
    (h : KeepsApart X.path (before ++ after)) (text : String) (s' : Settings) :
    (ofEnvironment (before ++ (X.variableName, text) :: after) = .ok s' ↔
      ∃ s, ofEnvironment (before ++ after) = .ok s
        ∧ (X.IsList → Verbatim text) ∧ s' = X.withText text s)
    ∧ (Verbatim text → written text = text) := by
  refine ⟨?_, written_of_verbatim⟩
  obtain ⟨a, p, hpath⟩ : ∃ a p, X.path = .name a :: p := by cases X <;> exact ⟨_, _, rfl⟩
  have hname := X.pathOf?_variableName
  simp only [ofEnvironment_eq_ok_iff]
  rw [hpath] at h hname
  rw [settings?_middle hname h]
  rcases hsettings : settings? (before ++ after) with _ | es
  · simp
  · obtain ⟨es', hstored, hread⟩ := X.exists_insertAt text (hpath ▸ clear_settings? h hsettings)
    rw [hpath] at hstored
    simp only [Option.bind_some, hstored, table?, Option.some.injEq, exists_eq_left', hread]
    constructor
    · rintro ⟨⟨s, hs, hlist, rfl⟩, hbuffer⟩
      rw [X.server_withText] at hbuffer
      exact ⟨s, ⟨hs, hbuffer⟩, hlist, rfl⟩
    · rintro ⟨s, ⟨hs, hbuffer⟩, hlist, rfl⟩
      rw [X.server_withText]
      exact ⟨⟨s, hs, hlist, rfl⟩, hbuffer⟩

/-- The models that are set beside a port, a key and a secret are the items of their text. -/
theorem models_loaded :
    KeepsApart (TextSetting.provider .openai .models).path
      ([("MODELGATE_SERVER__PORT", "8080")] ++
        [("MODELGATE_PROVIDERS__OPENAI__API_KEY", "sk-1"), ("MODELGATE_AUTH__SECRET", "s3cret")])
    ∧ (TextSetting.provider .openai .models).variableName = "MODELGATE_PROVIDERS__OPENAI__MODELS"
    ∧ ∃ s, ofEnvironment ([("MODELGATE_SERVER__PORT", "8080")] ++
          ((TextSetting.provider .openai .models).variableName, "gpt-4o, ,gpt-4o-mini,") ::
          [("MODELGATE_PROVIDERS__OPENAI__API_KEY", "sk-1"),
            ("MODELGATE_AUTH__SECRET", "s3cret")]) =
        .ok s
      ∧ (s.providers .openai).map (·.models) = some ["gpt-4o", "gpt-4o-mini"] := by
  have hapart : KeepsApart (TextSetting.provider .openai .models).path
      ([("MODELGATE_SERVER__PORT", "8080")] ++
        [("MODELGATE_PROVIDERS__OPENAI__API_KEY", "sk-1"),
          ("MODELGATE_AUTH__SECRET", "s3cret")]) := by
    decide +kernel
  obtain ⟨s, hs⟩ : ∃ s, ofEnvironment ([("MODELGATE_SERVER__PORT", "8080")] ++
      [("MODELGATE_PROVIDERS__OPENAI__API_KEY", "sk-1"), ("MODELGATE_AUTH__SECRET", "s3cret")]) =
        .ok s :=
    exists_of_toBool (by decide +kernel)
  have hverbatim : Verbatim "gpt-4o, ,gpt-4o-mini," := by decide +kernel
  have hitems : items "gpt-4o, ,gpt-4o-mini," = ["gpt-4o", "gpt-4o-mini"] := by decide +kernel
  refine ⟨hapart, by decide +kernel, _,
    (text_loaded _ hapart _ _).1.2 ⟨s, hs, fun _ => hverbatim, rfl⟩, ?_⟩
  simp [TextSetting.withText, withProvider, ProviderText.withText, hitems]

/-- A secret of digits loses the noughts that it begins with, and a list of one number is none. -/
theorem secret_rewritten :
    TextSetting.secret.variableName = "MODELGATE_AUTH__SECRET"
    ∧ (ofEnvironment [("MODELGATE_AUTH__SECRET", "007")]).toOption.map (·.secret) = some (some "7")
    ∧ (ofEnvironment [("MODELGATE_PROVIDERS__OPENAI__MODELS", "2024")]).toBool = false := by
  decide +kernel

end Settings

end Switchboard
