import Switchboard.Dialect.Collapse
import Switchboard.Gateway.Chat
import Switchboard.Net.SocketAddress
import Switchboard.Settings.Environment

/-!
# Settings

Everything an operator can set, with what holds where nothing is set. Settings of the wrong type are
refused as a whole, and so is a stream without any buffer.
-/

namespace Switchboard

/-- Why settings cannot be used. -/
inductive SettingFault where
  | missing (name : String)
  | invalid (name message : String)
  | noProviders
  /-- Something is of the wrong type. -/
  | unreadable
  /-- The place of a setting is before the first item of its array. -/
  | misplaced
deriving DecidableEq, Repr

namespace SettingFault

def message : SettingFault → String
  | missing name => "Missing required environment variable: " ++ name
  | invalid name message => "Invalid configuration for " ++ name ++ ": " ++ message
  | noProviders => "No provider is enabled; configure at least one " ++ Environment.mark ++
      "_PROVIDERS__<NAME>__API_KEY"
  | unreadable => "Configuration error"
  | misplaced => "attempt to subtract with overflow"

end SettingFault

inductive LogFormat where
  | pretty
  | json
deriving DecidableEq, Repr

namespace LogFormat

def name : LogFormat → String
  | pretty => "pretty"
  | json => "json"

def ofName? (name : String) : Option LogFormat :=
  [pretty, json].find? fun f => f.name == name.toLower

end LogFormat

structure ServerSettings where
  host : String
  port : Nat
  requestTimeout : Nat
  streamBuffer : Nat
deriving DecidableEq, Repr

namespace ServerSettings

def assumed : ServerSettings := ⟨"127.0.0.1", 3000, 300, 32⟩

/-- The address to listen on. -/
def socketAddress (s : ServerSettings) : Except SettingFault Net.SocketAddress :=
  match Net.SocketAddress.ofString? (s.host ++ ":" ++ toString s.port) with
  | some address => .ok address
  | none => .error (.invalid (Environment.variableOf "server.host")
      ("'" ++ s.host ++ "' is not a socket address: invalid socket address syntax"))

end ServerSettings

/-- Flags for collapsing that are set, each in place of what a family assumes. -/
structure CollapseSettings where
  system : Option Bool
  user : Option Bool
  assistant : Option Bool
  tool : Option Bool
deriving DecidableEq, Repr

namespace CollapseSettings

def unset : CollapseSettings := ⟨none, none, none, none⟩

def apply (s : CollapseSettings) (c : Collapse) : Collapse :=
  ⟨s.system.getD c.system, s.user.getD c.user, s.assistant.getD c.assistant, s.tool.getD c.tool⟩

end CollapseSettings

/-- What is set of one provider. -/
structure ProviderSettings where
  isEnabled : Bool
  apiKey : Option String
  baseUrl : Option String
  models : List String
  embeddingModels : List String
  connectTimeout : Option Nat
  collapse : CollapseSettings
  version : Option String
  defaultMaxTokens : Option Nat
deriving DecidableEq, Repr

structure Settings where
  server : ServerSettings
  secret : Option String
  logFormat : LogFormat
  defaults : SamplingDefaults
  /-- What is set of each family, if anything is. -/
  providers : Family → Option ProviderSettings

namespace Settings

abbrev Entries := List (String × SettingValue)

/-- What a value says, if it is of the right type. -/
def reading {α : Type} (read : SettingValue → Option α) (value : SettingValue) :
    Except SettingFault α :=
  (read value).elim (.error .unreadable) .ok

/-- What an entry says, if there is one with something stored. -/
def entry? {α : Type} (name : String) (read : SettingValue → Option α) (entries : Entries) :
    Except SettingFault (Option α) :=
  match Members.lookup name entries with
  | none | some .nil => .ok none
  | some value => some <$> reading read value

/-- What an entry says, or what holds without it. -/
def entryOr {α : Type} (default : α) (name : String) (read : SettingValue → Option α)
    (entries : Entries) : Except SettingFault α :=
  match Members.lookup name entries with
  | none => .ok default
  | some value => reading read value

/-- The entries of a record with these fields, which may be missing. -/
def recordAt (name : String) (fields : List String) (entries : Entries) :
    Except SettingFault Entries :=
  entryOr [] name (SettingValue.record? fields) entries

def readServer (es : Entries) : Except SettingFault ServerSettings := do
  let assumed := ServerSettings.assumed
  return ⟨← entryOr assumed.host "host" SettingValue.string? es,
    ← entryOr assumed.port "port" (SettingValue.nat? (Nat.pow 2 16)) es,
    ← entryOr assumed.requestTimeout "request_timeout_secs" (SettingValue.nat? (Nat.pow 2 64)) es,
    ← entryOr assumed.streamBuffer "stream_buffer" (SettingValue.nat? (Nat.pow 2 64)) es⟩

def readCollapse (es : Entries) : Except SettingFault CollapseSettings := do
  return ⟨← entry? "system" SettingValue.flag? es, ← entry? "user" SettingValue.flag? es,
    ← entry? "assistant" SettingValue.flag? es, ← entry? "tool" SettingValue.flag? es⟩

def providerFields : List String :=
  ["enabled", "api_key", "base_url", "models", "embedding_models", "connect_timeout_secs",
    "collapse", "version", "default_max_tokens"]

def readProvider (es : Entries) : Except SettingFault ProviderSettings := do
  return ⟨← entryOr true "enabled" SettingValue.flag? es,
    ← entry? "api_key" SettingValue.string? es,
    ← entry? "base_url" SettingValue.string? es,
    ← entryOr [] "models" SettingValue.list? es,
    ← entryOr [] "embedding_models" SettingValue.list? es,
    ← entry? "connect_timeout_secs" (SettingValue.nat? (Nat.pow 2 64)) es,
    ← readCollapse (← recordAt "collapse" ["system", "user", "assistant", "tool"] es),
    ← entry? "version" SettingValue.string? es,
    ← entry? "default_max_tokens" (SettingValue.nat? (Nat.pow 2 32)) es⟩

/-- The families of which anything is set, in their order. -/
def readProviders (es : Entries) :
    List Family → Except SettingFault (List (Family × ProviderSettings))
  | [] => .ok []
  | family :: rest => do
    match ← entry? family.name (SettingValue.record? providerFields) es with
    | none => readProviders es rest
    | some inner => return (family, ← readProvider inner) :: (← readProviders es rest)

def readDefaults (es : Entries) : Except SettingFault SamplingDefaults := do
  return ⟨← entry? "max_tokens" (SettingValue.nat? (Nat.pow 2 32)) es,
    ← entry? "temperature" SettingValue.single? es⟩

def read (es : Entries) : Except SettingFault Settings := do
  let providers ← readProviders (← recordAt "providers" (Family.all.map Family.name) es) Family.all
  return ⟨← readServer
      (← recordAt "server" ["host", "port", "request_timeout_secs", "stream_buffer"] es),
    ← entry? "secret" SettingValue.string? (← recordAt "auth" ["secret"] es),
    ← entryOr .pretty "format" (fun v => v.word?.bind LogFormat.ofName?)
      (← recordAt "log" ["format"] es),
    ← readDefaults (← recordAt "defaults" ["max_tokens", "temperature"] es),
    fun family => providers.lookup family⟩

/-- Refuses a stream without any buffer. -/
def validate (s : Settings) : Except SettingFault Settings :=
  if s.server.streamBuffer = 0 then
    .error (.invalid (Environment.variableOf "server.stream_buffer") "must be at least 1")
  else .ok s

/-- The settings that variables make. -/
def ofEnvironment (assigned : List (String × String)) : Except SettingFault Settings := do
  match Environment.settings? assigned with
  | none => .error .misplaced
  | some entries => (← read entries).validate

end Settings

end Switchboard
