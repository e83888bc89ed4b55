import Switchboard.Router
import Switchboard.Text.Blank

/-!
# Chatting through the gateway

A request is checked, given an id if it has none, and routed; what its model cannot do is refused;
parameters the caller leaves open are filled in. Then the provider that serves the model is called,
once, and its failures name the model.
-/

namespace Switchboard

/-- Parameters for callers that leave them open. -/
structure SamplingDefaults where
  maxTokens : Option Nat
  temperature : Option Float32
deriving DecidableEq

namespace SamplingDefaults

def unset : SamplingDefaults := ⟨none, none⟩

def json (d : SamplingDefaults) : Json :=
  .mkObj [("max_tokens", d.maxTokens.elim .null .nat),
    ("temperature", d.temperature.elim .null .single)]

def read (d : Document) : Reading SamplingDefaults := do
  let fs ← d.fields ["max_tokens", "temperature"] 0
  return ⟨← Document.fieldOption "max_tokens" Document.nat32 fs,
    ← Document.fieldOption "temperature" Document.single fs⟩

/-- The parameters a request is sent with. -/
def fill (d : SamplingDefaults) (s : Sampling) : Sampling :=
  { s with
    maxTokens := s.maxTokens <|> d.maxTokens
    temperature := s.temperature <|> d.temperature }

end SamplingDefaults

/-- The id of a request, `fresh` if the caller gives none that says anything. -/
def requestIdOr (fresh : String) (id : Option String) : String :=
  match id with
  | some id => if Text.blank id then fresh else id
  | none => fresh

/-- A call of a provider. -/
structure Dispatch (α : Type) where
  provider : Provider
  route : Route
  request : α

/-- What came of a call through the gateway, with the calls of providers made for it. -/
structure Handled (α : Type) where
  ending : Ending α
  /-- The places of the providers that were called. -/
  called : List Nat
  sent : List WireRequest

namespace Handled

variable {α : Type}

/-- A call that was refused before any provider was called. -/
def refused (f : Failure) : Handled α := ⟨.returned (.error f), [], []⟩

end Handled

namespace Router

/-- The capability that a model lacks for a chat. -/
def missing? (c : Capabilities) (wanted : Capability) (s : Sampling) : Option Capability :=
  if !c.supports wanted then some wanted
  else if !s.tools.isEmpty && !c.supports .tools then some .tools
  else none

/-- The call that a chat request leads to. -/
def dispatch (router : Router) (defaults : SamplingDefaults) (fresh : String)
    (wanted : Capability) (r : ChatRequest) : Outcome (Dispatch ChatRequest) := do
  r.validate
  let (provider, route) ← router.resolve r.model
  match missing? route.model.capabilities wanted r.sampling with
  | some capability =>
    .error ((Provider.lacks route.model.family capability).withModel r.model)
  | none => return {
      provider, route
      request := { r with
        id := some (requestIdOr fresh r.id)
        sampling := defaults.fill r.sampling } }

def chat (router : Router) (defaults : SamplingDefaults) (fresh : String) (c : CallContext)
    (now : Nat) (r : ChatRequest) : Handled ChatResponse :=
  match router.dispatch defaults fresh .chat r with
  | .error f => .refused f
  | .ok d =>
    let served := d.provider.chat c now d.request
    ⟨served.ending.map (Outcome.ofModel r.model), [d.route.provider], served.sent⟩

/-- What came of a streamed chat: what the sink was offered, beside how it ended. -/
structure ChatStream where
  handled : Handled Unit
  intake : Intake

def chatStream (router : Router) (defaults : SamplingDefaults) (fresh : String) (sink : Sink)
    (c : CallContext) (now : Nat) (r : ChatRequest) : ChatStream :=
  match router.dispatch defaults fresh .chatStream { r with stream := true } with
  | .error f => ⟨.refused f, .start c now⟩
  | .ok d =>
    let streamed := d.provider.stream sink c now d.request
    ⟨⟨streamed.ending.map (Outcome.ofModel r.model), [d.route.provider], streamed.sent⟩,
      streamed.intake⟩

end Router

end Switchboard
