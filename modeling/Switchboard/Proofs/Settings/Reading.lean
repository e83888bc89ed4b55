import Mathlib.Logic.Function.Basic
import Switchboard.Proofs.Outcome
import Switchboard.Proofs.Settings.Environment
import Switchboard.Settings.Basic

/-!
# Settings read field by field

Settings are read if each of them is, from the entries it stands among (`Settings.read_eq_ok_iff`,
`Settings.readProvider_eq_ok_iff`). A value among entries is read by the one field that has its
name, so the settings that it makes with others are those that the others make, but for that field.
-/

namespace Switchboard

/-- What holds of a provider as long as nothing is set of it. -/
def ProviderSettings.unset : ProviderSettings :=
  ⟨true, none, none, [], [], none, .unset, none, none⟩

/-- The settings of a provider that are texts or lists of texts. -/
inductive ProviderText where
  | apiKey
  | baseUrl
  | version
  | models
  | embeddingModels
deriving DecidableEq

namespace ProviderText

def key : ProviderText → String
  | apiKey => "api_key"
  | baseUrl => "base_url"
  | version => "version"
  | models => "models"
  | embeddingModels => "embedding_models"

/-- What is set of a provider but for one setting. -/
def unset (p : ProviderSettings) : ProviderText → ProviderSettings
  | apiKey => { p with apiKey := none }
  | baseUrl => { p with baseUrl := none }
  | version => { p with version := none }
  | models => { p with models := [] }
  | embeddingModels => { p with embeddingModels := [] }

/-- A stored value, read as one setting of a provider, makes `p'` of what is set besides. -/
def Sets (v : SettingValue) (p p' : ProviderSettings) : ProviderText → Prop
  | apiKey => ∃ x, v.string? = some x ∧ p' = { p with apiKey := some x }
  | baseUrl => ∃ x, v.string? = some x ∧ p' = { p with baseUrl := some x }
  | version => ∃ x, v.string? = some x ∧ p' = { p with version := some x }
  | models => ∃ xs, v.list? = some xs ∧ p' = { p with models := xs }
  | embeddingModels => ∃ xs, v.list? = some xs ∧ p' = { p with embeddingModels := xs }

end ProviderText

namespace Settings

/-! ## Entries -/

section Entries

variable {α : Type} {read : SettingValue → Option α} {default x : α} {name key : String}
  {fields : List String} {v : SettingValue} {es inner : Entries}

theorem reading_eq_ok_iff : reading read v = .ok x ↔ read v = some x := by
  unfold reading
  cases read v <;> simp

theorem entry?_of_none (read : SettingValue → Option α) (h : Members.lookup name es = none) :
    entry? name read es = .ok none := by
  unfold entry?
  rw [h]

theorem entryOr_of_none (default : α) (read : SettingValue → Option α)
    (h : Members.lookup name es = none) : entryOr default name read es = .ok default := by
  simp [entryOr, h]

theorem entry?_insert_of_ne (h : key ≠ name) :
    entry? name read (Members.insert key v es) = entry? name read es := by
  unfold entry?
  rw [Members.lookup_insert, if_neg h]

theorem entryOr_insert_of_ne (h : key ≠ name) :
    entryOr default name read (Members.insert key v es) = entryOr default name read es := by
  simp [entryOr, Members.lookup_insert, h]

theorem recordAt_insert_of_ne (h : key ≠ name) :
    recordAt name fields (Members.insert key v es) = recordAt name fields es :=
  entryOr_insert_of_ne h

/-- A value is read as what it says, if anything is stored in it. -/
theorem entry?_insert_eq_ok_iff (hv : v ≠ .nil) {o : Option α} :
    entry? name read (Members.insert name v es) = .ok o ↔ ∃ x, read v = some x ∧ o = some x := by
  have hread : entry? name read (Members.insert name v es) = some <$> reading read v := by
    unfold entry?
    rw [Members.lookup_insert, if_pos rfl]
    cases v <;> first | rfl | exact absurd rfl hv
  rw [hread, reading]
  cases read v <;> simp [Functor.map, Except.map, eq_comm]

theorem entryOr_insert_eq_ok_iff :
    entryOr default name read (Members.insert name v es) = .ok x ↔ read v = some x := by
  simp only [entryOr, Members.lookup_insert, if_true, reading_eq_ok_iff]

/-- The table that stands under a name; nothing is in it if none does. -/
def Within (name : String) (es inner : Entries) : Prop :=
  (Members.lookup name es = none ∧ inner = []) ∨ Members.lookup name es = some (.table inner)

theorem recordAt_of_within (h : Within name es inner) : recordAt name fields es = .ok inner := by
  rcases h with ⟨hnone, rfl⟩ | hsome
  · exact entryOr_of_none [] _ hnone
  · simp [recordAt, entryOr, hsome, reading, SettingValue.record?]

theorem recordAt_insert_self :
    recordAt name fields (Members.insert name (.table inner) es) = .ok inner := by
  simp [recordAt, entryOr, Members.lookup_insert, reading, SettingValue.record?]

end Entries

/-! ## One provider -/

section Provider

variable {es : Entries} {p : ProviderSettings}

theorem readProvider_eq_ok_iff : readProvider es = .ok p ↔
    entryOr true "enabled" SettingValue.flag? es = .ok p.isEnabled
    ∧ entry? "api_key" SettingValue.string? es = .ok p.apiKey
    ∧ entry? "base_url" SettingValue.string? es = .ok p.baseUrl
    ∧ entryOr [] "models" SettingValue.list? es = .ok p.models
    ∧ entryOr [] "embedding_models" SettingValue.list? es = .ok p.embeddingModels
    ∧ entry? "connect_timeout_secs" (SettingValue.nat? (Nat.pow 2 64)) es = .ok p.connectTimeout
    ∧ (∃ flags, recordAt "collapse" ["system", "user", "assistant", "tool"] es = .ok flags
      ∧ readCollapse flags = .ok p.collapse)
    ∧ entry? "version" SettingValue.string? es = .ok p.version
    ∧ entry? "default_max_tokens" (SettingValue.nat? (Nat.pow 2 32)) es =
      .ok p.defaultMaxTokens := by
  simp only [readProvider, bind_eq_ok_iff, pure_eq_ok_iff]
  constructor
  · rintro ⟨_, h₁, _, h₂, _, h₃, _, h₄, _, h₅, _, h₆, flags, h₇, _, h₈, _, h₉, _, h₁₀, rfl⟩
    exact ⟨h₁, h₂, h₃, h₄, h₅, h₆, ⟨flags, h₇, h₈⟩, h₉, h₁₀⟩
  · rintro ⟨h₁, h₂, h₃, h₄, h₅, h₆, ⟨flags, h₇, h₈⟩, h₉, h₁₀⟩
    exact ⟨_, h₁, _, h₂, _, h₃, _, h₄, _, h₅, _, h₆, flags, h₇, _, h₈, _, h₉, _, h₁₀, rfl⟩

theorem readProvider_nil : readProvider [] = .ok .unset := rfl

/-- A value under the name of one setting of a provider is read as that setting, and what is set
besides is read as it would be without it. -/
theorem readProvider_insert_eq_ok_iff (F : ProviderText) {v : SettingValue} (hv : v ≠ .nil)
    (hnone : Members.lookup F.key es = none) : readProvider (Members.insert F.key v es) = .ok p ↔
      ∃ p₀, readProvider es = .ok p₀ ∧ F.Sets v p₀ p := by
  have hentry : entry? F.key SettingValue.string? es = .ok none := entry?_of_none _ hnone
  have hlist : entryOr [] F.key SettingValue.list? es = .ok [] := entryOr_of_none _ _ hnone
  -- of the fields of a provider, the one that `F` names sees the value and the others do not
  constructor
  · intro h
    obtain ⟨isEnabled, key, url, models, embeddings, timeout, collapse, version, tokens⟩ := p
    refine ⟨F.unset ⟨isEnabled, key, url, models, embeddings, timeout, collapse, version, tokens⟩,
      ?_⟩
    cases F <;> simp (disch := decide) only [readProvider_eq_ok_iff, ProviderText.key,
      entry?_insert_of_ne, entryOr_insert_of_ne, recordAt_insert_of_ne, entry?_insert_eq_ok_iff hv,
      entryOr_insert_eq_ok_iff, ProviderText.Sets, ProviderText.unset] at hentry hlist h ⊢ <;> grind
  · rintro ⟨p₀, h, hsets⟩
    cases F <;> simp (disch := decide) only [readProvider_eq_ok_iff, ProviderText.key,
      entry?_insert_of_ne, entryOr_insert_of_ne, recordAt_insert_of_ne, entry?_insert_eq_ok_iff hv,
      entryOr_insert_eq_ok_iff, ProviderText.Sets] at h hsets ⊢ <;> grind

end Provider

/-! ## All providers -/

section Providers

variable {es inner : Entries} {family other : Family} {v : SettingValue} {p : ProviderSettings}
  {o : Option ProviderSettings}

/-- What is set of a family, if anything is. -/
def readFamily (es : Entries) (family : Family) :
    Except SettingFault (Option ProviderSettings) := do
  match ← entry? family.name (SettingValue.record? providerFields) es with
  | none => return none
  | some inner => return some (← readProvider inner)

theorem readProviders_cons (family : Family) (rest : List Family) :
    readProviders es (family :: rest) = do
      let o ← readFamily es family
      return (o.map (family, ·)).toList ++ (← readProviders es rest) := by
  rw [readProviders, readFamily]
  rcases entry? family.name (SettingValue.record? providerFields) es with f | _ | inner
  · rfl
  · simp [bind, Except.bind, pure, Except.pure]
    cases readProviders es rest <;> rfl
  · simp only [bind, Except.bind, pure, Except.pure]
    cases readProvider inner <;> rfl

theorem exists_readProviders : ∀ {families : List Family},
    (∀ family ∈ families, ∃ o, readFamily es family = .ok o) →
      ∃ found, readProviders es families = .ok found
  | [], _ => ⟨[], rfl⟩
  | family :: rest, h => by
    obtain ⟨⟨o, ho⟩, hrest⟩ := List.forall_mem_cons.1 h
    obtain ⟨found, hfound⟩ := exists_readProviders hrest
    simp only [readProviders_cons, bind_eq_ok_iff, pure_eq_ok_iff]
    exact ⟨_, o, ho, found, hfound, rfl⟩

theorem mem_of_readProviders :
    ∀ {families : List Family} {found : List (Family × ProviderSettings)},
      readProviders es families = .ok found → ∀ m ∈ found, m.1 ∈ families
  | [], found, h => by
    obtain rfl := Except.ok.inj h
    simp
  | family :: rest, found, h => by
    simp only [readProviders_cons, bind_eq_ok_iff, pure_eq_ok_iff] at h
    obtain ⟨o, -, found, hfound, rfl⟩ := h
    intro m hm
    rcases List.mem_append.1 hm with hm | hm
    · obtain ⟨p, -, rfl⟩ := Option.map_eq_some_iff.1 (Option.mem_toList.1 hm)
      exact List.mem_cons_self
    · exact List.mem_cons_of_mem _ (mem_of_readProviders hfound m hm)

/-- Of families that are read, each is found with what is set of it. -/
theorem lookup_of_readProviders : ∀ {families : List Family}
    {found : List (Family × ProviderSettings)}, families.Nodup →
      readProviders es families = .ok found →
        ∀ family ∈ families, readFamily es family = .ok (found.lookup family)
  | [], _, _, _ => by simp
  | family :: rest, found, hnodup, h => by
    simp only [readProviders_cons, bind_eq_ok_iff, pure_eq_ok_iff] at h
    obtain ⟨o, ho, found, hfound, rfl⟩ := h
    obtain ⟨hnew, hrest⟩ := List.nodup_cons.1 hnodup
    intro other hother
    rw [List.lookup_append]
    by_cases heq : other = family
    · subst heq
      have hlater : found.lookup other = none := List.lookup_eq_none_iff.2 fun m hm => by
        have hne : other ≠ m.1 := fun heq => hnew (heq ▸ mem_of_readProviders hfound m hm)
        simpa using hne
      rw [ho, hlater]
      cases o <;> simp
    · have hne : (other == family) = false := beq_false_of_ne heq
      have hfirst : ((o.map (family, ·)).toList).lookup other = none := by
        cases o <;> simp [List.lookup_cons, hne]
      rw [hfirst, Option.none_or]
      exact lookup_of_readProviders hrest hfound other
        ((List.mem_cons.1 hother).resolve_left heq)

theorem readFamily_insert_of_ne (h : family ≠ other) :
    readFamily (Members.insert family.name v es) other = readFamily es other := by
  have hname : family.name ≠ other.name := fun heq => h <| by
    have hsame := congrArg Family.ofName? heq
    rw [Family.ofName?_name, Family.ofName?_name] at hsame
    exact Option.some.inj hsame
  rw [readFamily, entry?_insert_of_ne hname]
  rfl

theorem readFamily_of_table (h : Members.lookup family.name es = some (.table inner)) :
    readFamily es family = .ok o ↔ ∃ p, readProvider inner = .ok p ∧ some p = o := by
  have hentry : entry? family.name (SettingValue.record? providerFields) es = .ok (some inner) := by
    unfold entry?
    rw [h]
    rfl
  rw [readFamily, hentry]
  show (readProvider inner >>= fun p => pure (some p)) = .ok o ↔ _
  simp only [bind_eq_ok_iff, pure_eq_ok_iff]

theorem readFamily_of_none (h : Members.lookup family.name es = none) :
    readFamily es family = .ok none := by
  rw [readFamily, entry?_of_none _ h]
  rfl

/-- What the table of a family says is set of it; nothing is if there is none. -/
theorem readProvider_of_within (h : Within family.name es inner) :
    readProvider inner = .ok p ↔ ∃ o, readFamily es family = .ok o ∧ o.getD .unset = p := by
  rcases h with ⟨hnone, rfl⟩ | htable
  · rw [readFamily_of_none hnone, readProvider_nil]
    simp
  · simp only [readFamily_of_table htable]
    constructor
    · exact fun hp => ⟨some p, ⟨p, hp, rfl⟩, rfl⟩
    · rintro ⟨_, ⟨q, hq, rfl⟩, rfl⟩
      exact hq

/-- A value under the name of one setting in the table of a family is that setting of it, and what
is set of it besides is what it would be without it. -/
theorem readFamily_insert_eq_ok_iff (F : ProviderText) {v : SettingValue} (hv : v ≠ .nil)
    (hinner : Within family.name es inner) (hnone : Members.lookup F.key inner = none) :
    readFamily (Members.insert family.name (.table (Members.insert F.key v inner)) es) family =
        .ok o ↔
      ∃ before, readFamily es family = .ok before
        ∧ ∃ p, F.Sets v (before.getD .unset) p ∧ some p = o := by
  have htable : Members.lookup family.name (Members.insert family.name
      (.table (Members.insert F.key v inner)) es) =
        some (.table (Members.insert F.key v inner)) := by
    rw [Members.lookup_insert, if_pos rfl]
  simp only [readFamily_of_table htable, readProvider_insert_eq_ok_iff F hv hnone,
    readProvider_of_within hinner]
  constructor
  · rintro ⟨p, ⟨_, ⟨before, hbefore, rfl⟩, hsets⟩, hp⟩
    exact ⟨before, hbefore, p, hsets, hp⟩
  · rintro ⟨before, hbefore, p, hsets, hp⟩
    exact ⟨p, ⟨_, ⟨before, hbefore, rfl⟩, hsets⟩, hp⟩

end Providers

/-! ## All settings -/

section All

variable {es : Entries} {s : Settings}

theorem read_eq_ok_iff : read es = .ok s ↔
    (∃ fields, recordAt "server" ["host", "port", "request_timeout_secs", "stream_buffer"] es =
      .ok fields ∧ readServer fields = .ok s.server)
    ∧ (∃ fields, recordAt "auth" ["secret"] es = .ok fields
      ∧ entry? "secret" SettingValue.string? fields = .ok s.secret)
    ∧ (∃ fields, recordAt "log" ["format"] es = .ok fields
      ∧ entryOr .pretty "format" (fun v => v.word?.bind LogFormat.ofName?) fields =
        .ok s.logFormat)
    ∧ (∃ fields, recordAt "defaults" ["max_tokens", "temperature"] es = .ok fields
      ∧ readDefaults fields = .ok s.defaults)
    ∧ ∃ fields, recordAt "providers" (Family.all.map Family.name) es = .ok fields
      ∧ ∀ family, readFamily fields family = .ok (s.providers family) := by
  have hall : ∀ family, family ∈ Family.all := fun family => by cases family <;> decide
  simp only [read, bind_eq_ok_iff, pure_eq_ok_iff]
  constructor
  · rintro ⟨fields, hfields, found, hfound, server, hserver, _, hs, auth, hauth, _, ha, log, hlog,
      _, hl, defaults, hdefaults, _, hd, rfl⟩
    exact ⟨⟨server, hserver, hs⟩, ⟨auth, hauth, ha⟩, ⟨log, hlog, hl⟩, ⟨defaults, hdefaults, hd⟩,
      fields, hfields,
      fun family => lookup_of_readProviders (by decide) hfound family (hall family)⟩
  · rintro ⟨⟨server, hserver, hs⟩, ⟨auth, hauth, ha⟩, ⟨log, hlog, hl⟩, ⟨defaults, hdefaults, hd⟩,
      fields, hfields, hfamilies⟩
    obtain ⟨found, hfound⟩ : ∃ found, readProviders fields Family.all = .ok found :=
      exists_readProviders fun family _ => ⟨_, hfamilies family⟩
    have hsame : (fun family => found.lookup family) = s.providers := funext fun family => by
      have hlookup := lookup_of_readProviders (by decide) hfound family (hall family)
      exact Except.ok.inj (hlookup.symm.trans (hfamilies family))
    refine ⟨fields, hfields, found, hfound, server, hserver, _, hs, auth, hauth, _, ha, log, hlog,
      _, hl, defaults, hdefaults, _, hd, ?_⟩
    rw [hsame]

/-- A value under the name of the secret is the secret, and what is set besides is what it would be
without it. -/
theorem read_insert_secret_eq_ok_iff {inner : Entries} {v : SettingValue} {s' : Settings}
    (hv : v ≠ .nil) (hauth : Within "auth" es inner)
    (hnone : Members.lookup "secret" inner = none) :
    read (Members.insert "auth" (.table (Members.insert "secret" v inner)) es) = .ok s' ↔
      ∃ s, read es = .ok s ∧ ∃ x, v.string? = some x ∧ s' = { s with secret := some x } := by
  have hsecret : entry? "secret" SettingValue.string? inner = .ok none := entry?_of_none _ hnone
  simp (disch := decide) only [read_eq_ok_iff, recordAt_insert_of_ne, recordAt_insert_self,
    recordAt_of_within hauth, Except.ok.injEq, exists_eq_left', entry?_insert_eq_ok_iff hv, hsecret]
  constructor
  · rintro ⟨hserver, ⟨x, hx, hset⟩, hlog, hdefaults, hproviders⟩
    refine ⟨{ s' with secret := none }, ⟨hserver, rfl, hlog, hdefaults, hproviders⟩, x, hx, ?_⟩
    rw [← hset]
  · rintro ⟨s, ⟨hserver, -, hlog, hdefaults, hproviders⟩, x, hx, rfl⟩
    exact ⟨hserver, ⟨x, hx, rfl⟩, hlog, hdefaults, hproviders⟩

/-- The settings with what is set of one family. -/
def withProvider (family : Family) (p : ProviderSettings) (s : Settings) : Settings :=
  { s with providers := Function.update s.providers family (some p) }

/-- A value under the name of one setting of a provider is that setting, and what is set besides is
what it would be without it. -/
theorem read_insert_provider_eq_ok_iff (family : Family) (F : ProviderText) {outer inner : Entries}
    {v : SettingValue} {s' : Settings} (hv : v ≠ .nil) (houter : Within "providers" es outer)
    (hinner : Within family.name outer inner) (hnone : Members.lookup F.key inner = none) :
    read (Members.insert "providers" (.table (Members.insert family.name
        (.table (Members.insert F.key v inner)) outer)) es) = .ok s' ↔
      ∃ s, read es = .ok s ∧ ∃ p, F.Sets v ((s.providers family).getD .unset) p
        ∧ s' = s.withProvider family p := by
  have hfamily := fun o => readFamily_insert_eq_ok_iff (o := o) F hv hinner hnone
  simp (disch := decide) only [read_eq_ok_iff, recordAt_insert_of_ne, recordAt_insert_self,
    recordAt_of_within houter, Except.ok.injEq, exists_eq_left']
  constructor
  · rintro ⟨hserver, hauth, hlog, hdefaults, hproviders⟩
    obtain ⟨before, hbefore, p, hset, hp⟩ := (hfamily _).1 (hproviders family)
    refine ⟨{ s' with providers := Function.update s'.providers family before },
      ⟨hserver, hauth, hlog, hdefaults, fun other => ?_⟩, p, ?_, ?_⟩
    · by_cases h : other = family
      · subst h
        simpa using hbefore
      · rw [← readFamily_insert_of_ne (Ne.symm h), hproviders other]
        exact congrArg _ (Function.update_of_ne h _ _).symm
    · simpa using hset
    · simp [withProvider, hp]
  · rintro ⟨s, ⟨hserver, hauth, hlog, hdefaults, hproviders⟩, p, hset, rfl⟩
    refine ⟨hserver, hauth, hlog, hdefaults, fun other => ?_⟩
    by_cases h : other = family
    · subst h
      exact (hfamily _).2 ⟨_, hproviders other, p, hset, by simp [withProvider]⟩
    · rw [readFamily_insert_of_ne (Ne.symm h), hproviders other]
      exact congrArg _ (Function.update_of_ne h _ _).symm

end All

end Settings

end Switchboard
