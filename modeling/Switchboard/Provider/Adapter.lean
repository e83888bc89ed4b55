import Switchboard.Dialect.Anthropic.Payload
import Switchboard.Dialect.Anthropic.Stream
import Switchboard.Dialect.Google.Payload
import Switchboard.Dialect.Google.Stream
import Switchboard.Dialect.OpenAI.Payload
import Switchboard.Dialect.OpenAI.Stream
import Switchboard.Provider.Basic
import Switchboard.Provider.Configuration

/-!
# Adapters

The providers behind configurations. Each operation says the request in the dialect of its family,
makes one exchange, and reads the answer; what cannot be said is refused before anything is sent.
-/

namespace Switchboard

/-- Milliseconds as whole seconds. -/
def seconds (now : Nat) : Int := (now / 1000 : Nat)

namespace OpenAI

/-- An endpoint of the chat completions dialect. -/
structure Client where
  endpoint : Endpoint
  dialect : Dialect
  collapse : Collapse
  chatPath : String
  embedPath : Option String
  /-- It reports usage at the end of a stream, if asked to. -/
  reportsUsage : Bool

namespace Client

def request (client : Client) (path : String) (body : Json) : WireRequest :=
  ⟨client.endpoint.url path, [("authorization", "Bearer " ++ client.endpoint.apiKey)], body⟩

/-- Refuses an answer that is a failure despite its status. -/
def sound (answer : Json) : Outcome Json :=
  match failureIn? answer with
  | some f => .error f
  | none => .ok answer

def chat (client : Client) (network : Network) (c : CallContext) (now : Nat)
    (r : ChatRequest) : Served ChatResponse :=
  match payload client.dialect client.collapse r .whole with
  | .error f => .unsent (.error f)
  | .ok body =>
    .ofExchange (network.postJson c now (client.request client.chatPath body))
      fun answer now => do chatResponse (seconds now) r.requestId r.model (← sound answer)

def stream (client : Client) (network : Network) (sink : Sink) (c : CallContext) (now : Nat)
    (r : ChatRequest) : Streamed :=
  match payload client.dialect client.collapse r (.streamed client.reportsUsage) with
  | .error f => .failed c now f []
  | .ok body =>
    network.postStream c now (client.request client.chatPath body) decoder r.requestId r.model sink

def embed (client : Client) (network : Network) (c : CallContext) (now : Nat)
    (r : EmbedRequest) : Served EmbedResponse :=
  match client.embedPath with
  | none => .unsent (.error (Provider.lacks client.dialect.family .embed))
  | some path =>
    .ofExchange (network.postJson c now (client.request path (embedPayload r)))
      fun answer _ => do embedResponse r (← sound answer)

end Client

end OpenAI

namespace Anthropic

structure Client where
  endpoint : Endpoint
  collapse : Collapse
  version : String
  defaultMaxTokens : Nat

namespace Client

def request (client : Client) (body : Json) : WireRequest :=
  ⟨client.endpoint.url "/v1/messages",
    [("x-api-key", client.endpoint.apiKey), ("anthropic-version", client.version)], body⟩

def chat (client : Client) (network : Network) (c : CallContext) (now : Nat)
    (r : ChatRequest) : Served ChatResponse :=
  match payload client.collapse client.defaultMaxTokens r false with
  | .error f => .unsent (.error f)
  | .ok body =>
    .ofExchange (network.postJson c now (client.request body))
      fun answer now => chatResponse (seconds now) r answer

def stream (client : Client) (network : Network) (sink : Sink) (c : CallContext) (now : Nat)
    (r : ChatRequest) : Streamed :=
  match payload client.collapse client.defaultMaxTokens r true with
  | .error f => .failed c now f []
  | .ok body =>
    network.postStream c now (client.request body) decoder r.requestId r.model sink

end Client

end Anthropic

namespace Google

def request (e : Endpoint) (path : String) (body : Json) : WireRequest :=
  ⟨e.url path, [("x-goog-api-key", e.apiKey)], body⟩

def chat (e : Endpoint) (network : Network) (c : CallContext) (now : Nat) (r : ChatRequest) :
    Served ChatResponse :=
  match payload r with
  | .error f => .unsent (.error f)
  | .ok body =>
    .ofExchange (network.postJson c now (request e (chatPath r.model) body))
      fun answer now => chatResponse (seconds now) r answer

def stream (e : Endpoint) (network : Network) (sink : Sink) (c : CallContext) (now : Nat)
    (r : ChatRequest) : Streamed :=
  match payload r with
  | .error f => .failed c now f []
  | .ok body =>
    network.postStream c now (request e (streamPath r.model) body) decoder r.requestId r.model sink

def embed (e : Endpoint) (network : Network) (c : CallContext) (now : Nat) (r : EmbedRequest) :
    Served EmbedResponse :=
  .ofExchange (network.postJson c now (request e (embedPath r.model) (embedPayload r)))
    fun answer _ => embedResponse r answer

end Google

namespace ProviderConfig

/-- The provider a configuration describes. -/
def adapter (c : ProviderConfig) (network : Network) : Provider :=
  let bare := Provider.bare c.family c.models
  let speaking (client : OpenAI.Client) : Provider := { bare with
    chat := client.chat network
    stream := client.stream network
    embed := client.embed network }
  match c.settings with
  | .openai collapse => speaking ⟨c.endpoint, ⟨.openai, true, true⟩, collapse,
      "/v1/chat/completions", some "/v1/embeddings", true⟩
  | .deepseek collapse => speaking ⟨c.endpoint, ⟨.deepseek, true, false⟩, collapse,
      "/chat/completions", none, true⟩
  | .internal collapse => speaking ⟨c.endpoint, ⟨.internal, false, true⟩, collapse,
      "/v1/chat/completions", some "/v1/embeddings", false⟩
  | .anthropic collapse version maxTokens =>
    let client : Anthropic.Client := ⟨c.endpoint, collapse, version, maxTokens⟩
    { bare with
      chat := client.chat network
      stream := client.stream network }
  | .google => { bare with
      chat := Google.chat c.endpoint network
      stream := Google.stream c.endpoint network
      embed := Google.embed c.endpoint network }

/-- Sets up the provider, unless no provider can be. -/
def provider (c : ProviderConfig) (network : Network) : Outcome Provider := do
  c.validate
  return c.adapter network

end ProviderConfig

end Switchboard
