import Switchboard.Dialect.Collapse
import Switchboard.Provider.Endpoint

/-!
# Configurations of providers

What has to be known to set up a provider of each family, and what is assumed where nothing else is
said.
-/

namespace Switchboard

/-- What only some families have to be told. -/
inductive FamilySettings where
  | openai (collapse : Collapse)
  | anthropic (collapse : Collapse) (version : String) (defaultMaxTokens : Nat)
  | google
  | deepseek (collapse : Collapse)
  | internal (collapse : Collapse)
deriving DecidableEq, Repr

namespace FamilySettings

def family : FamilySettings → Family
  | openai _ => .openai
  | anthropic .. => .anthropic
  | google => .google
  | deepseek _ => .deepseek
  | internal _ => .internal

/-- What is assumed of a family. -/
def ofFamily : Family → FamilySettings
  | .openai => openai .never
  | .anthropic => anthropic .never "2023-06-01" 4096
  | .google => google
  | .deepseek => deepseek .always
  | .internal => internal .always

def collapse? : FamilySettings → Option Collapse
  | openai c | anthropic c _ _ | deepseek c | internal c => some c
  | google => none

/-- The settings with other flags for collapsing, where there are any. -/
def withCollapse (c : Collapse) : FamilySettings → FamilySettings
  | openai _ => openai c
  | anthropic _ version maxTokens => anthropic c version maxTokens
  | google => google
  | deepseek _ => deepseek c
  | internal _ => internal c

end FamilySettings

structure ProviderConfig where
  endpoint : Endpoint
  models : List Model
  settings : FamilySettings
deriving DecidableEq, Repr

namespace Family

/-- Where a family is reached if not told otherwise; by default the internal one is nowhere. -/
def defaultHost : Family → String
  | openai => "https://api.openai.com"
  | anthropic => "https://api.anthropic.com"
  | google => "https://generativelanguage.googleapis.com"
  | deepseek => "https://api.deepseek.com"
  | internal => ""

def defaultModels : Family → List Model
  | openai => [(Model.chat "gpt-4o" openai).called "GPT-4o",
    (Model.chat "gpt-4o-mini" openai).called "GPT-4o mini",
    .embedding "text-embedding-3-small" openai, .embedding "text-embedding-3-large" openai]
  | anthropic => [(Model.chat "claude-3-5-sonnet-latest" anthropic).called "Claude 3.5 Sonnet",
    (Model.chat "claude-3-5-haiku-latest" anthropic).called "Claude 3.5 Haiku"]
  | google => [(Model.chat "gemini-1.5-pro" google).called "Gemini 1.5 Pro",
    (Model.chat "gemini-1.5-flash" google).called "Gemini 1.5 Flash",
    .embedding "text-embedding-004" google]
  | deepseek => [(Model.chat "deepseek-chat" deepseek).called "DeepSeek V3",
    (Model.chat "deepseek-reasoner" deepseek).called "DeepSeek R1"]
  | internal => []

end Family

namespace ProviderConfig

def family (c : ProviderConfig) : Family := c.settings.family

/-- A family with its key and nothing else said. -/
def ofFamily (family : Family) (apiKey : String) : ProviderConfig :=
  ⟨.of family.defaultHost apiKey, family.defaultModels, .ofFamily family⟩

/-- Refuses what no provider can be set up with. -/
def validate (c : ProviderConfig) : Outcome Unit :=
  if c.family = .internal ∧ c.models.isEmpty then
    .error (.configuration "internal provider needs at least one configured model")
  else c.endpoint.validate c.family

end ProviderConfig

end Switchboard
