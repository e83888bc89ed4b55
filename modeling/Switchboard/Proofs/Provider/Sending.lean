import Switchboard.Proofs.Call.Guard
import Switchboard.Proofs.Dialect.Requests
import Switchboard.Provider.Adapter

/-!
# What an operation sends

An operation of an adapter says the request in a dialect, posts what is said once, and reads the
answer. So it sends one request at most, whatever comes back, and none if the request cannot be said
or the call is over by then (`SendsOnce`). The exchange is where that is decided
(`Network.post_cases`); what is read of the answer sends no more. Every adapter is such
(`ProviderConfig.adapter_sends_once`).
-/

namespace Switchboard

/-- What is seen of an operation from outside: how it ended, the requests it sent, and the chunks it
offered. -/
structure Course (α : Type) where
  ending : Ending α
  sent : List WireRequest
  offered : List Chunk

namespace Course

variable {α : Type}

/-- The course of an operation that failed before it did anything. -/
def failed (f : Failure) : Course α := ⟨.returned (.error f), [], []⟩

end Course

def Served.course {α : Type} (s : Served α) : Course α := ⟨s.ending, s.sent, []⟩

def Streamed.course (s : Streamed) : Course Unit := ⟨s.ending, s.sent, s.intake.offered⟩

/-- The failure to write a request. -/
def WireRequest.unwritable (fault : String) : Failure := .transport ("builder error: " ++ fault)

/-- An operation that sends what it has to say once, in a call begun at the instant `now`. If it
cannot say it, it fails for that; if the call is over, it fails for that; and neither happens with
anything sent or offered. -/
structure SendsOnce {α : Type} (said : Outcome Json) (c : CallContext) (now : Nat)
    (o : Course α) : Prop where
  once : o.sent.length ≤ 1
  unsaid : ∀ f, said = .error f → o = .failed f
  expired : ∀ body f, said = .ok body → c.over? now = some f → o = .failed f
  posted : ∀ body, said = .ok body → c.over? now = none → ∃ w : WireRequest, w.body = body
    ∧ match w.fault? with
      | none => o.sent = [w]
      | some fault => o = .failed (WireRequest.unwritable fault)

namespace SendsOnce

variable {α : Type} {c : CallContext} {now : Nat} {f : Failure}

theorem of_unsaid : SendsOnce (.error f) c now (.failed f : Course α) where
  once := by simp [Course.failed]
  unsaid g hg := by rw [Except.error.inj hg]
  expired body g h := by cases h
  posted body h := by cases h

end SendsOnce

section Exchange

variable {network : Network} {c : CallContext} {now : Nat} {w : WireRequest}

/-- A post is not begun in a call that is over, nor with a request that cannot be written; otherwise
its request is what it sends. -/
theorem Network.post_cases (network : Network) (c : CallContext) (now : Nat) (w : WireRequest) :
    (∃ f, c.over? now = some f ∧ network.post c now w = ⟨some (.error f, now), []⟩)
    ∨ (∃ fault, c.over? now = none ∧ w.fault? = some fault
      ∧ network.post c now w = ⟨some (.error (WireRequest.unwritable fault), now), []⟩)
    ∨ (c.over? now = none ∧ w.fault? = none ∧ (network.post c now w).sent = [w]) := by
  rcases hover : c.over? now with _ | f
  · refine .inr ?_
    rcases hfault : w.fault? with _ | fault
    · exact .inr ⟨rfl, rfl, by simp [post, hfault, CallContext.admits_iff.2 hover]⟩
    · refine .inl ⟨fault, rfl, rfl, ?_⟩
      simp only [post, hfault, CallContext.guard_done hover]
      rfl
  · refine .inl ⟨f, rfl, ?_⟩
    have hadmits : c.admits now = false := by
      rw [← Bool.not_eq_true, CallContext.admits_iff, hover]
      simp
    unfold post
    split <;> simp [CallContext.guard_of_over hover, hadmits]

variable (network) in
/-- What goes by the outcome of a post sends once, if it sends no more itself and fails as the post
does when that is not begun. -/
theorem SendsOnce.of_post {α : Type} {o : Course α} {body : Json} (hw : w.body = body)
    (hsent : o.sent = (network.post c now w).sent)
    (hfailed : ∀ f, network.post c now w = ⟨some (.error f, now), []⟩ → o = .failed f) :
    SendsOnce (.ok body) c now o := by
  subst hw
  rcases network.post_cases c now w with
    ⟨f, hover, hpost⟩ | ⟨fault, hover, hfault, hpost⟩ | ⟨hover, hfault, hpost⟩
  · have ho := hfailed f hpost
    refine ⟨by simp [ho, Course.failed], nofun, fun body g _ hg => ?_, fun body _ hnone => ?_⟩
    · rw [ho, Option.some.inj (hover.symm.trans hg)]
    · simp [hover] at hnone
  · have ho := hfailed _ hpost
    refine ⟨by simp [ho, Course.failed], nofun, fun body g _ hg => ?_, fun body hbody _ => ?_⟩
    · simp [hover] at hg
    · exact ⟨w, Except.ok.inj hbody, by rw [hfault]; exact ho⟩
  · rw [hpost] at hsent
    refine ⟨by simp [hsent], nofun, fun body g _ hg => ?_, fun body hbody _ => ?_⟩
    · simp [hover] at hg
    · exact ⟨w, Except.ok.inj hbody, by rw [hfault]; exact hsent⟩

variable {α : Type} {body : Json}

theorem SendsOnce.postJson (hw : w.body = body) (read : Json → Nat → Outcome α) :
    SendsOnce (.ok body) c now (Served.ofExchange (network.postJson c now w) read).course := by
  refine .of_post network hw rfl fun f h => ?_
  simp only [Network.postJson, h]
  rfl

theorem SendsOnce.postStream {σ : Type} (hw : w.body = body) (d : Decoder σ) (id model : String)
    (sink : Sink) :
    SendsOnce (.ok body) c now (network.postStream c now w d id model sink).course := by
  refine .of_post network hw ?_ fun f h => ?_
  · unfold Network.postStream
    simp only
    split <;> rfl
  · simp only [Network.postStream, h]
    rfl

end Exchange

/-! ## The operations of each dialect -/

section Clients

variable (network : Network) (sink : Sink) (c : CallContext) (now : Nat) (r : ChatRequest)

namespace OpenAI.Client

variable (client : OpenAI.Client)

/-- What a request for embeddings is, if the endpoint has any. -/
def embedSaid (client : OpenAI.Client) (r : EmbedRequest) : Outcome Json :=
  match client.embedPath with
  | some _ => .ok (embedPayload r)
  | none => .error (Provider.lacks client.dialect.family .embed)

theorem chat_sends : SendsOnce (payload client.dialect client.collapse r .whole) c now
    (client.chat network c now r).course := by
  unfold OpenAI.Client.chat
  rcases payload client.dialect client.collapse r .whole with f | body <;> dsimp only
  · exact .of_unsaid
  · exact .postJson (by rfl) _

theorem stream_sends :
    SendsOnce (payload client.dialect client.collapse r (.streamed client.reportsUsage)) c now
      (client.stream network sink c now r).course := by
  unfold OpenAI.Client.stream
  rcases payload client.dialect client.collapse r (.streamed client.reportsUsage) with f | body <;>
    dsimp only
  · exact .of_unsaid
  · exact .postStream (by rfl) _ _ _ _

theorem embed_sends (r : EmbedRequest) :
    SendsOnce (client.embedSaid r) c now (client.embed network c now r).course := by
  unfold embedSaid OpenAI.Client.embed
  rcases client.embedPath with _ | path <;> dsimp only
  · exact .of_unsaid
  · exact .postJson (by rfl) _

end OpenAI.Client

namespace Anthropic.Client

variable (client : Anthropic.Client)

theorem chat_sends : SendsOnce (payload client.collapse client.defaultMaxTokens r false) c now
    (client.chat network c now r).course := by
  unfold Anthropic.Client.chat
  rcases payload client.collapse client.defaultMaxTokens r false with f | body <;> dsimp only
  · exact .of_unsaid
  · exact .postJson (by rfl) _

theorem stream_sends : SendsOnce (payload client.collapse client.defaultMaxTokens r true) c now
    (client.stream network sink c now r).course := by
  unfold Anthropic.Client.stream
  rcases payload client.collapse client.defaultMaxTokens r true with f | body <;> dsimp only
  · exact .of_unsaid
  · exact .postStream (by rfl) _ _ _ _

end Anthropic.Client

namespace Google

variable (e : Endpoint)

theorem chat_sends : SendsOnce (payload r) c now (Google.chat e network c now r).course := by
  unfold Google.chat
  rcases payload r with f | body <;> dsimp only
  · exact .of_unsaid
  · exact .postJson (by rfl) _

theorem stream_sends :
    SendsOnce (payload r) c now (Google.stream e network sink c now r).course := by
  unfold Google.stream
  rcases payload r with f | body <;> dsimp only
  · exact .of_unsaid
  · exact .postStream (by rfl) _ _ _ _

theorem embed_sends (r : EmbedRequest) :
    SendsOnce (.ok (embedPayload r)) c now (Google.embed e network c now r).course :=
  .postJson (by rfl) _

end Google

end Clients

/-! ## Every adapter -/

namespace ProviderConfig

/-- What a request for a chat is in the dialect of an adapter. -/
def chatSaid (config : ProviderConfig) (r : ChatRequest) (streamed : Bool) : Outcome Json :=
  match config.settings with
  | .openai collapse => OpenAI.payload ⟨.openai, true, true⟩ collapse r (delivery true)
  | .deepseek collapse => OpenAI.payload ⟨.deepseek, true, false⟩ collapse r (delivery true)
  | .internal collapse => OpenAI.payload ⟨.internal, false, true⟩ collapse r (delivery false)
  | .anthropic collapse _ maxTokens => Anthropic.payload collapse maxTokens r streamed
  | .google => Google.payload r
where
  delivery (reportsUsage : Bool) : OpenAI.Delivery :=
    if streamed then .streamed reportsUsage else .whole

/-- What a request for embeddings is, where the endpoint has any. -/
def embedSaid (config : ProviderConfig) (r : EmbedRequest) : Outcome Json :=
  match config.settings with
  | .openai _ | .internal _ => .ok (OpenAI.embedPayload r)
  | .google => .ok (Google.embedPayload r)
  | .anthropic .. | .deepseek _ => .error (Provider.lacks config.family .embed)

/-- A request for a chat that an adapter can say. -/
def Accepts (config : ProviderConfig) (r : ChatRequest) : Prop :=
  match config.family with
  | .openai => OpenAI.Accepts ⟨.openai, true, true⟩ r
  | .deepseek => OpenAI.Accepts ⟨.deepseek, true, false⟩ r
  | .internal => OpenAI.Accepts ⟨.internal, false, true⟩ r
  | .anthropic => Anthropic.Accepts r
  | .google => Google.Accepts r

section Said

variable {config : ProviderConfig} {r : ChatRequest} {streamed : Bool} {f : Failure}

theorem exists_chatSaid_iff :
    (∃ body, config.chatSaid r streamed = .ok body) ↔ config.Accepts r := by
  obtain ⟨e, models, settings⟩ := config
  cases settings with
  | openai | deepseek | internal => exact OpenAI.exists_payload_iff
  | anthropic => exact Anthropic.exists_payload_iff
  | google => exact Google.exists_payload_iff

theorem untranslated_of_chatSaid (h : config.chatSaid r streamed = .error f) :
    Untranslated config.family f := by
  obtain ⟨e, models, settings⟩ := config
  cases settings with
  | openai | deepseek | internal => exact OpenAI.untranslated_of_payload h
  | anthropic => exact .inr (Anthropic.untranslatable_of_payload h)
  | google => exact .inr (Google.untranslatable_of_payload h)

theorem embedSaid_eq_error_iff {r : EmbedRequest} : config.embedSaid r = .error f ↔
    config.family ∈ [Family.anthropic, .deepseek]
      ∧ f = .unsupported config.family.name .embed := by
  obtain ⟨e, models, settings⟩ := config
  cases settings <;> simp [embedSaid, family, FamilySettings.family, Provider.lacks, eq_comm]

end Said

variable (config : ProviderConfig) (network : Network) (c : CallContext) (now : Nat)

theorem adapter_sends :
    (∀ r, SendsOnce (config.chatSaid r false) c now
      ((config.adapter network).chat c now r).course)
    ∧ (∀ sink r, SendsOnce (config.chatSaid r true) c now
      ((config.adapter network).stream sink c now r).course)
    ∧ ∀ r, SendsOnce (config.embedSaid r) c now
      ((config.adapter network).embed c now r).course := by
  obtain ⟨e, models, settings⟩ := config
  -- the client behind each adapter, as the adapter sets it up
  have hclient : ∀ client : OpenAI.Client, _ ∧ _ ∧ _ := fun client =>
    ⟨fun r => client.chat_sends network c now r,
      fun sink r => client.stream_sends network sink c now r,
      fun r => client.embed_sends network c now r⟩
  cases settings with
  | openai collapse =>
    exact hclient
      ⟨e, ⟨.openai, true, true⟩, collapse, "/v1/chat/completions", some "/v1/embeddings", true⟩
  | deepseek collapse =>
    exact hclient ⟨e, ⟨.deepseek, true, false⟩, collapse, "/chat/completions", none, true⟩
  | internal collapse =>
    exact hclient
      ⟨e, ⟨.internal, false, true⟩, collapse, "/v1/chat/completions", some "/v1/embeddings", false⟩
  | anthropic collapse version maxTokens =>
    let client : Anthropic.Client := ⟨e, collapse, version, maxTokens⟩
    exact ⟨fun r => client.chat_sends network c now r,
      fun sink r => client.stream_sends network sink c now r, fun r => .of_unsaid⟩
  | google =>
    exact ⟨fun r => Google.chat_sends network c now r e,
      fun sink r => Google.stream_sends network sink c now r e,
      fun r => Google.embed_sends network c now e r⟩

/-- Every operation of every adapter sends one request at most, whatever the network does with it.
It sends none if the request cannot be said in the dialect, if the endpoint has no embeddings, or if
the call is over when it begins, and it fails for that without offering a chunk. -/
theorem adapter_sends_once :
    (∀ r, SendsOnce (config.chatSaid r false) c now
      ((config.adapter network).chat c now r).course)
    ∧ (∀ sink r, SendsOnce (config.chatSaid r true) c now
      ((config.adapter network).stream sink c now r).course)
    ∧ (∀ r, SendsOnce (config.embedSaid r) c now ((config.adapter network).embed c now r).course)
    ∧ (∀ r streamed, ((∃ body, config.chatSaid r streamed = .ok body) ↔ config.Accepts r)
      ∧ ∀ f, config.chatSaid r streamed = .error f → Untranslated config.family f)
    ∧ ∀ r f, config.embedSaid r = .error f ↔ config.family ∈ [Family.anthropic, .deepseek]
      ∧ f = .unsupported config.family.name .embed := by
  obtain ⟨hchat, hstream, hembed⟩ := config.adapter_sends network c now
  exact ⟨hchat, hstream, hembed,
    fun r streamed => ⟨exists_chatSaid_iff, fun f => untranslated_of_chatSaid⟩,
    fun r f => embedSaid_eq_error_iff⟩

section Outage

/-- A network on which every endpoint is out of service. -/
def outage : Network := fun _ => .done (.ok ⟨503, [], .done (.ok ())⟩)

def outageAdapter : Provider := (ofFamily .deepseek "key").adapter outage

def outageRequest : ChatRequest := .of "deepseek-chat" [.of .user (.text "Hello.")]

/-- A request that shows an image. -/
def imageRequest : ChatRequest :=
  .of "deepseek-chat" [.of .user (.parts [.image (.ofUrl "https://example.com/cat.png")])]

/-- One request goes out, and is not repeated when it fails. None does for an image, for
embeddings, or in a call that is over. -/
theorem outage_not_retried :
    (outageAdapter.chat .unbounded 0 outageRequest).course.sent.map (·.url) =
      ["https://api.deepseek.com/chat/completions"]
    ∧ (outageAdapter.chat .unbounded 0 outageRequest).course.sent.length ≤ 1
    ∧ (outageAdapter.chat .unbounded 0 imageRequest).course =
      .failed (.untranslatable "deepseek does not accept image content")
    ∧ (outageAdapter.embed .unbounded 0 ⟨none, "m", ["a"]⟩).course =
      .failed (.unsupported "deepseek" .embed)
    ∧ (outageAdapter.stream .all ⟨some 3, some 5⟩ 7 outageRequest).course = .failed .cancelled
    ∧ (outageAdapter.stream .all ⟨none, some 5⟩ 7 outageRequest).course =
      .failed (.transport "deadline exceeded") := by
  obtain ⟨hchat, -, hembed, hsaid, hlacks⟩ :=
    adapter_sends_once (ofFamily .deepseek "key") outage .unbounded 0
  have haccepts : (ofFamily .deepseek "key").Accepts outageRequest :=
    ⟨List.forall_mem_singleton.2 nofun, List.nodup_nil⟩
  obtain ⟨body, hbody⟩ := (hsaid outageRequest true).1.2 haccepts
  refine ⟨by decide +kernel, (hchat outageRequest).once, (hchat imageRequest).unsaid _ rfl,
    (hembed _).unsaid _ ((hlacks _ _).2 ⟨by decide, rfl⟩), ?_, ?_⟩
  · exact ((adapter_sends_once (ofFamily .deepseek "key") outage ⟨some 3, some 5⟩ 7).2.1 .all
      outageRequest).expired body _ hbody rfl
  · exact ((adapter_sends_once (ofFamily .deepseek "key") outage ⟨none, some 5⟩ 7).2.1 .all
      outageRequest).expired body _ hbody rfl

end Outage

end ProviderConfig

end Switchboard
