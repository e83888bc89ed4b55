import Mathlib.Data.List.Nodup
import Switchboard.Proofs.Outcome
import Switchboard.Provider.Registry

/-!
# Setting up all providers

A configuration makes its adapter if it passes its check, which takes a key, a web address and, of
the internal provider, a model (`ProviderConfig.validate_eq_ok_iff`). In a registry a family comes
once: what would bring it in again is refused and changes nothing (`Registry.register_cases`). So a
list of configurations makes the registry of its adapters, one for each in their order
(`Registry.ofConfigs_eq_ok_iff`), or it fails as its first configuration that cannot be added
(`Registry.ofConfigs_eq_error_iff`).
-/

namespace Switchboard

namespace Endpoint

/-- A text that is a web address. -/
def IsWeb (host : String) : Prop :=
  ∃ url, Net.Url.ofString host = .ok url ∧ (url.scheme = "http" ∨ url.scheme = "https")

/-- How a family fails to be reached at a text that is no web address. -/
def Unreachable (family : Family) (host : String) (f : Failure) : Prop :=
  (∃ fault, Net.Url.ofString host = .error fault ∧ f = .configuration
      (family.name ++ " base url '" ++ host ++ "' is invalid: " ++ fault.message))
    ∨ ∃ url, Net.Url.ofString host = .ok url ∧ ¬(url.scheme = "http" ∨ url.scheme = "https")
      ∧ f = .configuration
        (family.name ++ " base url must be http or https, got '" ++ url.scheme ++ "'")

def keyless (family : Family) : Failure :=
  .configuration (family.name ++ " is enabled but has no api key")

variable {e : Endpoint} {family : Family} {f : Failure}

theorem validate_eq_ok_iff :
    e.validate family = .ok () ↔ Text.blank e.apiKey = false ∧ IsWeb e.host := by
  unfold validate IsWeb
  cases Text.blank e.apiKey
  · rcases Net.Url.ofString e.host with fault | url
    · simp
    · by_cases hscheme : url.scheme = "http" ∨ url.scheme = "https" <;> simp [hscheme]
  · simp

theorem validate_eq_error_iff : e.validate family = .error f ↔
    (Text.blank e.apiKey = true ∧ f = keyless family)
      ∨ (Text.blank e.apiKey = false ∧ Unreachable family e.host f) := by
  unfold validate Unreachable
  cases Text.blank e.apiKey
  · rcases Net.Url.ofString e.host with fault | url
    · simp [eq_comm (a := f)]
    · by_cases hscheme : url.scheme = "http" ∨ url.scheme = "https"
      · rcases hscheme with hscheme | hscheme <;> simp [hscheme]
      · simp [not_or.1 hscheme, eq_comm (a := f)]
  · simp [keyless, eq_comm (a := f)]

end Endpoint

namespace ProviderConfig

variable {c : ProviderConfig} {network : Network} {p : Provider} {f : Failure}

/-- The internal provider is the one that has no models by itself. -/
def modelless : Failure :=
  .configuration "internal provider needs at least one configured model"

theorem validate_eq_ok_iff : c.validate = .ok () ↔
    (c.family = .internal → c.models ≠ []) ∧ c.endpoint.validate c.family = .ok () := by
  unfold validate
  by_cases h : c.family = .internal ∧ c.models.isEmpty
  · simp_all
  · simp only [h, if_false, iff_and_self]
    exact fun _ hinternal hmodels => h ⟨hinternal, by simp [hmodels]⟩

theorem validate_eq_error_iff : c.validate = .error f ↔
    (c.family = .internal ∧ c.models = [] ∧ f = modelless)
      ∨ ((c.family = .internal → c.models ≠ []) ∧ c.endpoint.validate c.family = .error f) := by
  unfold validate
  by_cases h : c.family = .internal ∧ c.models.isEmpty
  · obtain ⟨hinternal, hmodels⟩ := h
    simp [hinternal, List.isEmpty_iff.1 hmodels, modelless, eq_comm]
  · have hmodels : c.family = .internal → c.models ≠ [] :=
      fun hinternal hmodels => h ⟨hinternal, by simp [hmodels]⟩
    rw [if_neg h]
    exact ⟨fun hf => .inr ⟨hmodels, hf⟩,
      fun hf => hf.elim (fun ⟨hinternal, hnone, _⟩ => absurd hnone (hmodels hinternal)) And.right⟩

theorem family_adapter (network : Network) : (c.adapter network).family = c.family := by
  obtain ⟨endpoint, models, settings⟩ := c
  cases settings <;> rfl

theorem provider_of_valid (h : c.validate = .ok ()) :
    c.provider network = .ok (c.adapter network) := by
  rw [provider, h]
  rfl

theorem provider_of_invalid (h : c.validate = .error f) : c.provider network = .error f := by
  rw [provider, h]
  rfl

end ProviderConfig

namespace Registry

variable {r : Registry} {p : Provider} {network : Network} {c : ProviderConfig}
  {cs : List ProviderConfig} {f : Failure}

theorem isSome_get?_iff {family : Family} :
    (r.get? family).isSome = true ↔ family ∈ r.families := by
  simp [get?, families, List.find?_isSome]

/-- A provider is added behind the others if it is the first of its family; if it is not, it is
refused and the registry stays as it was. -/
theorem register_cases :
    (p.family ∉ r.families ∧ r.register p = (⟨r.providers ++ [p]⟩, .ok ()))
      ∨ (p.family ∈ r.families ∧ r.register p = (r, .error (registeredTwice p.family))) := by
  unfold register
  by_cases h : p.family ∈ r.families
  · exact .inr ⟨h, if_pos (isSome_get?_iff.2 h)⟩
  · exact .inl ⟨h, if_neg fun hsome => h (isSome_get?_iff.1 hsome)⟩

theorem nodup_snoc_iff {taken : List Family} {family : Family} :
    (taken ++ [family]).Nodup ↔ family ∉ taken ∧ taken.Nodup :=
  List.nodup_append_comm.trans List.nodup_cons

/-! ## Configurations one after the other -/

/-- How a configuration cannot be added where `taken` are the families before it. -/
def Refused (taken : List Family) (c : ProviderConfig) (f : Failure) : Prop :=
  c.validate = .error f ∨ (c.validate = .ok () ∧ c.family ∈ taken ∧ f = registeredTwice c.family)

/-- Configurations that can be added one after the other to providers of the families `taken`. -/
def Addable (taken : List Family) (cs : List ProviderConfig) : Prop :=
  (∀ c ∈ cs, c.validate = .ok ()) ∧ (taken ++ cs.map ProviderConfig.family).Nodup

theorem refused_or (taken : List Family) (c : ProviderConfig) :
    (∃ f, Refused taken c f) ∨ (c.validate = .ok () ∧ c.family ∉ taken) := by
  rcases hc : c.validate with f | ⟨⟩
  · exact .inl ⟨f, .inl hc⟩
  · by_cases hmem : c.family ∈ taken
    · exact .inl ⟨_, .inr ⟨hc, hmem, rfl⟩⟩
    · exact .inr ⟨rfl, hmem⟩

theorem Refused.not_new {taken : List Family} (h : Refused taken c f) :
    ¬(c.validate = .ok () ∧ c.family ∉ taken) := by
  rintro ⟨hc, hnew⟩
  rcases h with hf | ⟨-, hmem, -⟩
  · simp [hc] at hf
  · exact hnew hmem

theorem Refused.unique {taken : List Family} {g : Failure} (hf : Refused taken c f)
    (hg : Refused taken c g) : f = g := by
  rcases hf with hf | ⟨hf, -, rfl⟩ <;> rcases hg with hg | ⟨hg, -, rfl⟩ <;> simp_all

theorem addable_nil {taken : List Family} (h : taken.Nodup) : Addable taken [] :=
  ⟨by simp, by simpa using h⟩

theorem addable_cons_iff {taken : List Family} : Addable taken (c :: cs) ↔
    (c.validate = .ok () ∧ c.family ∉ taken) ∧ Addable (taken ++ [c.family]) cs := by
  have hsplit : taken ++ (c :: cs).map ProviderConfig.family =
      (taken ++ [c.family]) ++ cs.map ProviderConfig.family := by simp
  simp only [Addable, List.forall_mem_cons, hsplit]
  constructor
  · rintro ⟨⟨hc, hcs⟩, hnodup⟩
    exact ⟨⟨hc, (nodup_snoc_iff.1 (List.nodup_append.1 hnodup).1).1⟩, hcs, hnodup⟩
  · rintro ⟨⟨hc, -⟩, hcs, hnodup⟩
    exact ⟨⟨hc, hcs⟩, hnodup⟩

/-- The registry with the adapters of configurations behind its providers. -/
def adding (r : Registry) (network : Network) (cs : List ProviderConfig) : Registry :=
  ⟨r.providers ++ cs.map (·.adapter network)⟩

theorem families_adding :
    (r.adding network cs).families = r.families ++ cs.map ProviderConfig.family := by
  simp [adding, families, ProviderConfig.family_adapter]

theorem adding_cons : r.adding network (c :: cs) = (r.adding network [c]).adding network cs := by
  simp [adding]

theorem extend_cons_of_refused (h : Refused r.families c f) :
    (extend network r (c :: cs)).1 = .error f := by
  rcases h with hc | ⟨hc, hmem, rfl⟩
  · simp [extend, ProviderConfig.provider_of_invalid hc]
  · rw [← ProviderConfig.family_adapter network] at hmem ⊢
    rcases register_cases (r := r) (p := c.adapter network) with ⟨hnew, -⟩ | ⟨-, heq⟩
    · exact absurd hmem hnew
    · simp [extend, ProviderConfig.provider_of_valid hc, heq]

theorem extend_cons_of_new (hc : c.validate = .ok ()) (hnew : c.family ∉ r.families) :
    (extend network r (c :: cs)).1 = (extend network (r.adding network [c]) cs).1 := by
  rw [← ProviderConfig.family_adapter network] at hnew
  rcases register_cases (r := r) (p := c.adapter network) with ⟨-, heq⟩ | ⟨hmem, -⟩
  · simp [extend, ProviderConfig.provider_of_valid hc, heq, adding]
  · exact absurd hmem hnew

/-- Adding the first of its family leaves none twice. -/
theorem nodup_adding (h : r.families.Nodup) (hnew : c.family ∉ r.families) :
    (r.adding network [c]).families.Nodup := by
  rw [families_adding]
  exact nodup_snoc_iff.2 ⟨hnew, h⟩

/-- Configurations that can be added are, and none if one of them cannot. -/
theorem extend_eq_ok_iff {r' : Registry} (h : r.families.Nodup) :
    (extend network r cs).1 = .ok r' ↔ Addable r.families cs ∧ r' = r.adding network cs := by
  induction cs generalizing r with
  | nil => simp [extend, addable_nil h, adding, eq_comm]
  | cons c cs ih =>
    rw [addable_cons_iff]
    rcases refused_or r.families c with ⟨f, hf⟩ | hnew
    · rw [extend_cons_of_refused hf]
      exact ⟨by simp, fun hadd => absurd hadd.1.1 hf.not_new⟩
    · rw [extend_cons_of_new hnew.1 hnew.2, ih (nodup_adding h hnew.2), families_adding,
        ← adding_cons, and_iff_right hnew]
      rfl

/-- Configurations that cannot be added fail as the first that cannot. -/
theorem extend_eq_error_iff (h : r.families.Nodup) : (extend network r cs).1 = .error f ↔
    ∃ before c after, cs = before ++ c :: after ∧ Addable r.families before
      ∧ Refused (r.families ++ before.map ProviderConfig.family) c f := by
  induction cs generalizing r with
  | nil => simp [extend]
  | cons c cs ih =>
    rcases refused_or r.families c with ⟨g, hg⟩ | hnew
    · rw [extend_cons_of_refused hg]
      constructor
      · intro hf
        obtain rfl := Except.error.inj hf
        exact ⟨[], c, cs, rfl, addable_nil h, by simpa using hg⟩
      · rintro ⟨_ | ⟨d, before⟩, e, after, heq, hadd, hf⟩
        · obtain ⟨rfl, rfl⟩ := List.cons.inj heq
          rw [List.map_nil, List.append_nil] at hf
          rw [hg.unique hf]
        · obtain ⟨rfl, rfl⟩ := List.cons.inj heq
          exact absurd (addable_cons_iff.1 hadd).1 hg.not_new
    · rw [extend_cons_of_new hnew.1 hnew.2, ih (nodup_adding h hnew.2), families_adding]
      constructor
      · rintro ⟨before, d, after, rfl, hadd, hf⟩
        exact ⟨c :: before, d, after, rfl, addable_cons_iff.2 ⟨hnew, hadd⟩, by simpa using hf⟩
      · rintro ⟨_ | ⟨d, before⟩, e, after, heq, hadd, hf⟩
        · obtain ⟨rfl, rfl⟩ := List.cons.inj heq
          exact absurd hnew (by simpa using hf.not_new)
        · obtain ⟨rfl, rfl⟩ := List.cons.inj heq
          exact ⟨before, e, after, rfl, (addable_cons_iff.1 hadd).2, by simpa using hf⟩

theorem ofConfigs_eq_ok_iff : (ofConfigs network cs).1 = .ok r ↔
    Addable [] cs ∧ r.providers = cs.map (·.adapter network) := by
  have hempty : r = empty.adding network cs ↔ r.providers = cs.map (·.adapter network) := by
    obtain ⟨providers⟩ := r
    simp [adding, empty]
  rw [ofConfigs, extend_eq_ok_iff (r := empty) List.nodup_nil, hempty]
  rfl

theorem ofConfigs_eq_error_iff : (ofConfigs network cs).1 = .error f ↔
    ∃ before c after, cs = before ++ c :: after ∧ Addable [] before
      ∧ Refused (before.map ProviderConfig.family) c f :=
  extend_eq_error_iff (r := empty) List.nodup_nil

end Registry

end Switchboard
