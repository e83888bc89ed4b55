import Switchboard.Proofs.Provider.Registry
import Switchboard.Settings.Providers

/-!
# From settings to providers

A family that is enabled makes a configuration if everything is set that it needs
(`ProviderSettings.exists_config_iff`), and the configuration says what is set, or what the family
assumes where nothing is (`ProviderSettings.configures_of_config`). What then keeps it from being a
provider is an address that was set and is no web address, and nothing else
(`ProviderSettings.validate_eq_error_iff`). So settings make all the providers they enable, in the
order of the families, or none (`Settings.startup`).
-/

namespace Switchboard

open Endpoint (IsWeb Unreachable)

namespace ProviderSettings

/-- Everything is set that a provider of a family needs. -/
structure Complete (s : ProviderSettings) (family : Family) : Prop where
  keyed : ∃ key, s.apiKey = some key ∧ Text.blank key = false
  placed : family = .internal → s.baseUrl ≠ none
  stocked : family = .internal → s.models ≠ [] ∨ s.embeddingModels ≠ []

/-- What a configuration says is set, or else assumed of its family. -/
structure Configures (s : ProviderSettings) (c : ProviderConfig) : Prop where
  key : s.apiKey = some c.endpoint.apiKey
  host : c.endpoint.host = s.baseUrl.getD c.family.defaultHost
  timeout : c.endpoint.connectTimeout = s.connectTimeout.getD Endpoint.defaultConnectTimeout
  models : c.models = if s.models = [] ∧ s.embeddingModels = [] then c.family.defaultModels else
    s.models.map (Model.chat · c.family) ++ s.embeddingModels.map (Model.embedding · c.family)
  collapse : c.settings.collapse? = (FamilySettings.ofFamily c.family).collapse?.map fun assumed =>
    ⟨s.collapse.system.getD assumed.system, s.collapse.user.getD assumed.user,
      s.collapse.assistant.getD assumed.assistant, s.collapse.tool.getD assumed.tool⟩
  dialect : ∀ collapse version maxTokens, c.settings = .anthropic collapse version maxTokens →
    version = s.version.getD "2023-06-01" ∧ maxTokens = s.defaultMaxTokens.getD 4096

variable {s : ProviderSettings} {family : Family} {c : ProviderConfig} {k : String}

theorem key_eq_ok_iff : s.key family = .ok k ↔ s.apiKey = some k ∧ Text.blank k = false := by
  unfold key key.missing
  rcases s.apiKey with _ | l
  · simp
  · by_cases hblank : Text.blank l = true
    · have hne : l = k → Text.blank k = true := fun h => h ▸ hblank
      simpa [hblank] using hne
    · have heq : l = k → Text.blank k = false := fun h => h ▸ Bool.eq_false_iff.2 hblank
      simpa [hblank] using heq

theorem listed_isEmpty_iff :
    (s.listed family).isEmpty = true ↔ s.models = [] ∧ s.embeddingModels = [] := by
  simp [listed]

theorem require_eq_ok_iff : s.require family = .ok () ↔
    (family = .internal → s.baseUrl ≠ none ∧ (s.models ≠ [] ∨ s.embeddingModels ≠ [])) := by
  unfold require
  simp only [listed_isEmpty_iff, ← not_and_or]
  by_cases hinternal : family = .internal
  · by_cases hbase : s.baseUrl = none
    · simp [hinternal, hbase]
    · by_cases hlisted : s.models = [] ∧ s.embeddingModels = [] <;>
        simp [hinternal, hbase, hlisted]
  · simp [hinternal]

theorem config_eq_ok_iff : s.config family = .ok c ↔
    s.require family = .ok () ∧
      ∃ key, s.key family = .ok key ∧ s.apply (.ofFamily family key) = c := by
  simp only [config, bind_eq_ok_iff, pure_eq_ok_iff]
  constructor
  · rintro ⟨_, hrequire, hkey⟩
    exact ⟨hrequire, hkey⟩
  · rintro ⟨hrequire, hkey⟩
    exact ⟨_, hrequire, hkey⟩

theorem exists_config_iff : (∃ c, s.config family = .ok c) ↔ s.Complete family := by
  simp only [config_eq_ok_iff, exists_and_left, require_eq_ok_iff, key_eq_ok_iff]
  constructor
  · rintro ⟨hneeds, c, key, hkey, -⟩
    exact ⟨⟨key, hkey⟩, fun h => (hneeds h).1, fun h => (hneeds h).2⟩
  · rintro ⟨⟨key, hkey⟩, hplaced, hstocked⟩
    exact ⟨fun h => ⟨hplaced h, hstocked h⟩, _, key, hkey, rfl⟩

theorem models_apply : (s.apply c).models =
    if s.models = [] ∧ s.embeddingModels = [] then c.models else s.listed c.family := by
  simp only [apply, listed_isEmpty_iff]

theorem family_apply : (s.apply (.ofFamily family k)).family = family := by
  cases family <;> rfl

theorem family_of_config (h : s.config family = .ok c) : c.family = family := by
  obtain ⟨-, key, -, rfl⟩ := config_eq_ok_iff.1 h
  exact family_apply

theorem configures_apply (h : s.apiKey = some k) :
    s.Configures (s.apply (.ofFamily family k)) where
  key := h
  host := by rw [family_apply]; rfl
  timeout := rfl
  models := by
    have hfamily : (ProviderConfig.ofFamily family k).family = family := by cases family <;> rfl
    rw [models_apply, family_apply, hfamily]
    rfl
  collapse := by cases family <;> rfl
  dialect collapse version maxTokens h := by
    cases family with
    | anthropic =>
      obtain ⟨-, rfl, rfl⟩ := FamilySettings.anthropic.inj h
      exact ⟨rfl, rfl⟩
    | openai | google | deepseek | internal => cases h

theorem configures_of_config (h : s.config family = .ok c) : s.Configures c := by
  obtain ⟨-, key, hkey, rfl⟩ := config_eq_ok_iff.1 h
  exact configures_apply (key_eq_ok_iff.1 hkey).1

/-! ## The second check -/

theorem isWeb_defaultHost (h : family ≠ .internal) : IsWeb family.defaultHost := by
  cases family with
  | openai => exact ⟨⟨"https", "api.openai.com".toList⟩, by decide +kernel, .inr rfl⟩
  | anthropic => exact ⟨⟨"https", "api.anthropic.com".toList⟩, by decide +kernel, .inr rfl⟩
  | google =>
    exact ⟨⟨"https", "generativelanguage.googleapis.com".toList⟩, by decide +kernel, .inr rfl⟩
  | deepseek => exact ⟨⟨"https", "api.deepseek.com".toList⟩, by decide +kernel, .inr rfl⟩
  | internal => exact absurd rfl h

theorem models_ne_nil (h : s.config family = .ok c) (hinternal : c.family = .internal) :
    c.models ≠ [] := by
  have hstocked := (exists_config_iff.1 ⟨c, h⟩).stocked (family_of_config h ▸ hinternal)
  have hlisted := not_and_or.2 hstocked
  rw [(configures_of_config h).models, if_neg hlisted]
  simpa using hlisted

/-- A host of a configuration is one that was set, or a web address. -/
theorem host_of_config (h : s.config family = .ok c) :
    s.baseUrl = some c.endpoint.host ∨ (s.baseUrl = none ∧ IsWeb c.endpoint.host) := by
  have hhost := (configures_of_config h).host
  rw [family_of_config h] at hhost
  rcases hbase : s.baseUrl with _ | host
  · refine .inr ⟨rfl, ?_⟩
    rw [hhost, hbase]
    exact isWeb_defaultHost fun hinternal => (exists_config_iff.1 ⟨c, h⟩).placed hinternal hbase
  · rw [hhost, hbase]
    exact .inl rfl

theorem keyed_of_config (h : s.config family = .ok c) : Text.blank c.endpoint.apiKey = false := by
  obtain ⟨k, hk, hblank⟩ := (exists_config_iff.1 ⟨c, h⟩).keyed
  obtain rfl := Option.some.inj ((configures_of_config h).key.symm.trans hk)
  exact hblank

/-- A configuration from settings passes its check if the address that was set is a web address. -/
theorem validate_eq_ok_iff (h : s.config family = .ok c) :
    c.validate = .ok () ↔ ∀ host ∈ s.baseUrl, IsWeb host := by
  rw [ProviderConfig.validate_eq_ok_iff, Endpoint.validate_eq_ok_iff,
    and_iff_right (models_ne_nil h), and_iff_right (keyed_of_config h)]
  rcases host_of_config h with hhost | ⟨hnone, hweb⟩
  · simp [hhost]
  · simp [hnone, hweb]

theorem not_unreachable {host : String} {f : Failure} (h : IsWeb host) :
    ¬Unreachable family host f := by
  obtain ⟨url, hurl, hscheme⟩ := h
  rintro (⟨fault, hfault, -⟩ | ⟨other, hother, hnot, -⟩)
  · simp [hurl] at hfault
  · obtain rfl := Except.ok.inj (hurl.symm.trans hother)
    exact hnot hscheme

/-- It fails the check for an address that was set, and nothing else. -/
theorem validate_eq_error_iff {f : Failure} (h : s.config family = .ok c) :
    c.validate = .error f ↔ ∃ host ∈ s.baseUrl, Unreachable family host f := by
  have hmodels : ¬(c.family = .internal ∧ c.models = [] ∧ f = ProviderConfig.modelless) :=
    fun ⟨hinternal, hnil, _⟩ => models_ne_nil h hinternal hnil
  have hkey : ¬(Text.blank c.endpoint.apiKey = true ∧ f = Endpoint.keyless c.family) := by
    simp [keyed_of_config h]
  rw [ProviderConfig.validate_eq_error_iff, or_iff_right hmodels,
    and_iff_right (models_ne_nil h), Endpoint.validate_eq_error_iff, or_iff_right hkey,
    and_iff_right (keyed_of_config h), family_of_config h]
  rcases host_of_config h with hhost | ⟨hnone, hweb⟩
  · simp [hhost]
  · simp [hnone, not_unreachable hweb]

end ProviderSettings

namespace Settings

/-- Something is set of a family, and it is not switched off. -/
def Enables (s : Settings) (family : Family) (p : ProviderSettings) : Prop :=
  s.providers family = some p ∧ p.isEnabled = true

variable {s : Settings} {family : Family} {p : ProviderSettings} {configs : List ProviderConfig}

theorem mem_enabled_iff : (family, p) ∈ s.enabled ↔ s.Enables family p := by
  have hall : family ∈ Family.all := by cases family <;> decide
  simp [enabled, Enables, Option.filter_eq_some_iff, hall]

theorem families_enabled : s.enabled.map Prod.fst =
    Family.all.filter fun family => (s.providers family).any (·.isEnabled) := by
  unfold enabled
  induction Family.all with
  | nil => rfl
  | cons family rest ih =>
    rcases hp : s.providers family with _ | p
    · simp [hp, ih]
    · by_cases hon : p.isEnabled = true <;> simp [hp, hon, ih]

theorem nodup_families_enabled : (s.enabled.map Prod.fst).Nodup := by
  rw [families_enabled]
  exact List.Nodup.filter _ (by decide)

/-- Configurations are made of all that is enabled, one after the other. -/
theorem providerConfigs_eq_ok_iff : s.providerConfigs = .ok configs ↔
    (s.enabled.mapM fun (family, p) => p.config family) = .ok configs ∧ configs ≠ [] := by
  simp only [providerConfigs, bind_eq_ok_iff]
  constructor
  · rintro ⟨cs, hcs, h⟩
    split_ifs at h with hnil
    obtain rfl := Except.ok.inj h
    exact ⟨hcs, by simpa using hnil⟩
  · rintro ⟨hcs, hnil⟩
    exact ⟨configs, hcs, by simp [hnil, pure, Except.pure]⟩

theorem exists_providerConfigs_iff : (∃ configs, s.providerConfigs = .ok configs) ↔
    (∃ family p, s.Enables family p) ∧ ∀ family p, s.Enables family p → p.Complete family := by
  simp only [providerConfigs_eq_ok_iff]
  constructor
  · rintro ⟨configs, hcs, hnil⟩
    obtain ⟨c, hc⟩ := List.exists_mem_of_ne_nil _ hnil
    obtain ⟨⟨family, p⟩, hp, -⟩ := exists_source_of_mapM hcs hc
    refine ⟨⟨family, p, mem_enabled_iff.1 hp⟩, fun family p hp => ?_⟩
    obtain ⟨c, -, hc⟩ := exists_result_of_mapM hcs (mem_enabled_iff.2 hp)
    exact ProviderSettings.exists_config_iff.1 ⟨c, hc⟩
  · rintro ⟨⟨family, p, hp⟩, hcomplete⟩
    obtain ⟨configs, hcs⟩ := exists_mapM_eq_ok_iff.2 fun (e : Family × ProviderSettings) he =>
      ProviderSettings.exists_config_iff.2 (hcomplete e.1 e.2 (mem_enabled_iff.1 he))
    obtain ⟨c, hc, -⟩ := exists_result_of_mapM hcs (mem_enabled_iff.2 hp)
    exact ⟨configs, hcs, List.ne_nil_of_mem hc⟩

theorem exists_enables_of_mem (h : s.providerConfigs = .ok configs) {c : ProviderConfig}
    (hc : c ∈ configs) : ∃ p, s.Enables c.family p ∧ p.config c.family = .ok c := by
  obtain ⟨⟨family, p⟩, hp, hconfig⟩ := exists_source_of_mapM (providerConfigs_eq_ok_iff.1 h).1 hc
  rw [ProviderSettings.family_of_config hconfig]
  exact ⟨p, mem_enabled_iff.1 hp, hconfig⟩

theorem families_providerConfigs (h : s.providerConfigs = .ok configs) :
    configs.map ProviderConfig.family = s.enabled.map Prod.fst :=
  map_of_mapM (fun _ _ => ProviderSettings.family_of_config) (providerConfigs_eq_ok_iff.1 h).1

/-- A registry of what settings make fails for an address that was set. -/
theorem unreachable_of_ofConfigs (h : s.providerConfigs = .ok configs) {network : Network}
    {f : Failure} (hf : (Registry.ofConfigs network configs).1 = .error f) :
    ∃ family p host, s.Enables family p ∧ p.baseUrl = some host ∧ Unreachable family host f := by
  obtain ⟨before, c, after, rfl, -, href⟩ := Registry.ofConfigs_eq_error_iff.1 hf
  obtain ⟨p, hp, hc⟩ := exists_enables_of_mem h (c := c) (by simp)
  rcases href with hinvalid | ⟨-, hmem, -⟩
  · obtain ⟨host, hhost, hunreachable⟩ := (ProviderSettings.validate_eq_error_iff hc).1 hinvalid
    exact ⟨c.family, p, host, hp, hhost, hunreachable⟩
  · have hnodup := families_providerConfigs h ▸ nodup_families_enabled
    rw [List.map_append, List.map_cons] at hnodup
    exact absurd rfl ((List.nodup_append.1 hnodup).2.2 _ hmem _ List.mem_cons_self)

/-- It is the registry of one adapter for each configuration if all addresses that were set are web
addresses. -/
theorem ofConfigs_eq_ok_iff (h : s.providerConfigs = .ok configs) {network : Network}
    {r : Registry} : (Registry.ofConfigs network configs).1 = .ok r ↔
      (∀ family p, s.Enables family p → ∀ host ∈ p.baseUrl, IsWeb host)
        ∧ r.providers = configs.map (·.adapter network) := by
  have hvalid : (∀ c ∈ configs, c.validate = .ok ()) ↔
      ∀ family p, s.Enables family p → ∀ host ∈ p.baseUrl, IsWeb host := by
    constructor
    · intro hvalid family p hp
      obtain ⟨c, hmem, hc⟩ :=
        exists_result_of_mapM (providerConfigs_eq_ok_iff.1 h).1 (mem_enabled_iff.2 hp)
      exact (ProviderSettings.validate_eq_ok_iff hc).1 (hvalid c hmem)
    · intro hweb c hmem
      obtain ⟨p, hp, hc⟩ := exists_enables_of_mem h hmem
      exact (ProviderSettings.validate_eq_ok_iff hc).2 (hweb c.family p hp)
  have hnodup := families_providerConfigs h ▸ nodup_families_enabled
  rw [Registry.ofConfigs_eq_ok_iff, Registry.Addable, hvalid, List.nil_append, and_iff_left hnodup]

/-- Starting up is all or nothing, and the check of the settings leaves to that of the providers
only whether the addresses that were set are web addresses. -/
theorem startup (s : Settings) :
    ((∃ configs, s.providerConfigs = .ok configs) ↔
      (∃ family p, s.Enables family p) ∧ ∀ family p, s.Enables family p → p.Complete family)
    ∧ (∀ configs, s.providerConfigs = .ok configs →
      configs.map ProviderConfig.family =
        [Family.openai, .anthropic, .google, .deepseek, .internal].filter
          (fun family => (s.providers family).any (·.isEnabled))
      ∧ (∀ c ∈ configs, ∃ p, s.Enables c.family p ∧ p.Configures c)
      ∧ ∀ network,
        (∀ r, (Registry.ofConfigs network configs).1 = .ok r ↔
          (∀ family p, s.Enables family p → ∀ host ∈ p.baseUrl, IsWeb host)
            ∧ r.providers = configs.map (·.adapter network))
        ∧ ∀ f, (Registry.ofConfigs network configs).1 = .error f →
          ∃ family p host, s.Enables family p ∧ p.baseUrl = some host
            ∧ Unreachable family host f)
    ∧ (∀ network cs f, (Registry.ofConfigs network cs).1 = .error f ↔
      ∃ before c after, cs = before ++ c :: after ∧ Registry.Addable [] before
        ∧ Registry.Refused (before.map ProviderConfig.family) c f)
    ∧ ∀ (r : Registry) p f, (r.register p).2 = .error f →
      (r.register p).1 = r ∧ p.family ∈ r.families := by
  refine ⟨exists_providerConfigs_iff, fun configs h => ⟨?_, fun c hc => ?_, fun network =>
    ⟨fun _ => ofConfigs_eq_ok_iff h, fun _ => unreachable_of_ofConfigs h⟩⟩,
    fun _ _ _ => Registry.ofConfigs_eq_error_iff, fun r p f h => ?_⟩
  · rw [families_providerConfigs h, families_enabled]
    rfl
  · obtain ⟨p, hp, hconfig⟩ := exists_enables_of_mem h hc
    exact ⟨p, hp, ProviderSettings.configures_of_config hconfig⟩
  · rcases Registry.register_cases (r := r) (p := p) with ⟨-, heq⟩ | ⟨hmem, heq⟩
    · simp [heq] at h
    · exact ⟨by rw [heq], hmem⟩

/-- What is set of a provider with a key, an address and a model. -/
def stocked (key host model : String) : ProviderSettings where
  isEnabled := true
  apiKey := some key
  baseUrl := some host
  models := [model]
  embeddingModels := []
  connectTimeout := none
  collapse := { CollapseSettings.unset with user := some true }
  version := none
  defaultMaxTokens := none

/-- Settings of two providers, the internal one at an address, and of one that is switched off. -/
def pair (host : String) : Settings where
  server := .assumed
  secret := none
  logFormat := .pretty
  defaults := .unset
  providers
    | .openai => some { stocked "key" host "gpt" with baseUrl := none }
    | .google => some { stocked "key" host "gemini" with isEnabled := false }
    | .internal => some (stocked "key" host "house")
    | .anthropic | .deepseek => none

/-- A network that nobody answers on. -/
def silence : Network := fun _ => ⟨none, .error (.transport "silence")⟩

theorem enables_pair {host : String} (h : (pair host).Enables family p) :
    p.Complete family ∧ ∀ h ∈ p.baseUrl, family = .internal ∧ h = host := by
  have hkey : Text.blank "key" = false := by decide
  obtain ⟨hp, hon⟩ := h
  cases family <;> simp only [pair, Option.some.injEq, reduceCtorEq] at hp <;> subst hp
  · exact ⟨⟨⟨_, rfl, hkey⟩, by simp, by simp⟩, by simp⟩
  · exact absurd hon Bool.false_ne_true
  · exact ⟨⟨⟨_, rfl, hkey⟩, by simp [stocked], by simp [stocked]⟩, by simp [stocked]⟩

theorem exists_providerConfigs_pair (host : String) :
    (∃ family p, (pair host).Enables family p)
      ∧ ∀ family p, (pair host).Enables family p → p.Complete family :=
  ⟨⟨.openai, _, rfl, rfl⟩, fun _ _ h => (enables_pair h).1⟩

/-- Two providers start up if one is at a web address, and neither does if it is elsewhere. -/
theorem pair_started :
    (∃ configs r, (pair "https://models.local").providerConfigs = .ok configs
      ∧ (Registry.ofConfigs silence configs).1 = .ok r
      ∧ configs.map ProviderConfig.family = [.openai, .internal]
      ∧ r.providers = configs.map (·.adapter silence))
    ∧ ∃ configs f, (pair "ftp://models.local").providerConfigs = .ok configs
      ∧ (Registry.ofConfigs silence configs).1 = .error f
      ∧ Unreachable .internal "ftp://models.local" f := by
  have hweb : IsWeb "https://models.local" :=
    ⟨⟨"https", "models.local".toList⟩, by decide +kernel, .inr rfl⟩
  have hfile : Net.Url.ofString "ftp://models.local" = .ok ⟨"ftp", "models.local".toList⟩ := by
    decide +kernel
  constructor
  · obtain ⟨hall, hready, -⟩ := startup (pair "https://models.local")
    obtain ⟨configs, hconfigs⟩ := hall.2 (exists_providerConfigs_pair _)
    obtain ⟨hfamilies, -, hregistry⟩ := hready configs hconfigs
    have hwebs : ∀ family p, (pair "https://models.local").Enables family p →
        ∀ host ∈ p.baseUrl, IsWeb host := fun family p hp host hhost => by
      rw [((enables_pair hp).2 host hhost).2]
      exact hweb
    exact ⟨configs, ⟨_⟩, hconfigs, ((hregistry silence).1 _).2 ⟨hwebs, rfl⟩, hfamilies, rfl⟩
  · obtain ⟨hall, hready, -⟩ := startup (pair "ftp://models.local")
    obtain ⟨configs, hconfigs⟩ := hall.2 (exists_providerConfigs_pair _)
    obtain ⟨-, -, hregistry⟩ := hready configs hconfigs
    rcases hr : (Registry.ofConfigs silence configs).1 with f | r
    · obtain ⟨family, p, host, hp, hhost, hf⟩ := (hregistry silence).2 f hr
      obtain ⟨rfl, rfl⟩ := (enables_pair hp).2 host hhost
      exact ⟨configs, f, hconfigs, hr, hf⟩
    · obtain ⟨url, hurl, hscheme⟩ :=
        (((hregistry silence).1 r).1 hr).1 .internal _ ⟨rfl, rfl⟩ _ rfl
      obtain rfl := Except.ok.inj (hfile.symm.trans hurl)
      exact absurd hscheme (by decide)

end Settings

end Switchboard
