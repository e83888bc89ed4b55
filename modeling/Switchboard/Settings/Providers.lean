import Switchboard.Provider.Configuration
import Switchboard.Settings.Basic

/-!
# Providers from settings

Every family that is enabled makes one configuration, in the order of the families. A family that
lacks what it needs refuses all of them, and so does having none.
-/

namespace Switchboard

namespace ProviderSettings

/-- The variable for a setting of a family. -/
def variableOf (family : Family) (name : String) : String :=
  Environment.variableOf ("providers." ++ family.name ++ "." ++ name)

def key (s : ProviderSettings) (family : Family) : Except SettingFault String :=
  match s.apiKey with
  | some key => if Text.blank key then missing else .ok key
  | none => missing
where
  missing : Except SettingFault String := .error (.missing (variableOf family "api_key"))

/-- The models that are set. -/
def listed (s : ProviderSettings) (family : Family) : List Model :=
  s.models.map (Model.chat · family) ++ s.embeddingModels.map (Model.embedding · family)

/-- The configuration with what is set in place of what is assumed. -/
def apply (s : ProviderSettings) (c : ProviderConfig) : ProviderConfig where
  endpoint := {
    host := s.baseUrl.getD c.endpoint.host
    apiKey := c.endpoint.apiKey
    connectTimeout := s.connectTimeout.getD c.endpoint.connectTimeout }
  models := if (s.listed c.family).isEmpty then c.models else s.listed c.family
  settings := match c.settings with
    | .openai collapse => .openai (s.collapse.apply collapse)
    | .anthropic collapse version maxTokens => .anthropic (s.collapse.apply collapse)
        (s.version.getD version) (s.defaultMaxTokens.getD maxTokens)
    | .google => .google
    | .deepseek collapse => .deepseek (s.collapse.apply collapse)
    | .internal collapse => .internal (s.collapse.apply collapse)

/-- What a family needs beside a key: the internal one is nowhere and has no models by itself. -/
def require (s : ProviderSettings) (family : Family) : Except SettingFault Unit :=
  if family ≠ .internal then .ok ()
  else if s.baseUrl.isNone then .error (.missing (variableOf family "base_url"))
  else if (s.listed family).isEmpty then .error (.missing (variableOf family "models"))
  else .ok ()

def config (s : ProviderSettings) (family : Family) : Except SettingFault ProviderConfig := do
  s.require family
  return s.apply (.ofFamily family (← s.key family))

end ProviderSettings

namespace Settings

/-- The families that are enabled, with what is set of them. -/
def enabled (s : Settings) : List (Family × ProviderSettings) :=
  Family.all.filterMap fun family =>
    ((s.providers family).filter (·.isEnabled)).map fun p => (family, p)

/-- One configuration for each family that is enabled. -/
def providerConfigs (s : Settings) : Except SettingFault (List ProviderConfig) := do
  let configs ← s.enabled.mapM fun (family, p) => p.config family
  if configs.isEmpty then .error .noProviders else return configs

end Settings

end Switchboard
