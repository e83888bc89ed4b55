import Mathlib.Tactic.ByContra
import Mathlib.Tactic.SplitIfs
import Switchboard.Gateway.Chat

/-!
# What a chat through the gateway comes to

A request is either admitted, for the provider and the route of its model (`Router.Admits`), or
refused for one reason (`Router.Refuses`), and `dispatch` tells which (`Router.dispatch_cases`).
Both entry points go by it: they call no provider for a request that is refused, and for one that is
admitted the provider of its model, once (`Router.handles_chat_and_chatStream`). What the provider
gets is the caller's request with its gaps filled (`SamplingDefaults.Completes`), and what comes of
it is passed on, failures under the name of their model (`Ending.PassedOn`).
-/

namespace Switchboard

namespace SamplingDefaults

/-- The request that is sent for a caller's. It has an id that says something, the caller's own if
that does; open parameters have their defaults; everything else is the caller's. -/
structure Completes (d : SamplingDefaults) (fresh : String) (r sent : ChatRequest) : Prop where
  id : ∃ id, sent.id = some id ∧ Text.blank id = false
    ∧ (r.id = some id ∨ id = fresh ∧ ∀ own, r.id = some own → Text.blank own = true)
  maxTokens : sent.sampling.maxTokens = r.sampling.maxTokens.elim d.maxTokens some
  temperature : sent.sampling.temperature = r.sampling.temperature.elim d.temperature some
  rest : sent = { r with
    id := sent.id
    sampling := { r.sampling with
      maxTokens := sent.sampling.maxTokens
      temperature := sent.sampling.temperature } }

/-- The caller's request with its gaps filled. -/
def completed (d : SamplingDefaults) (fresh : String) (r : ChatRequest) : ChatRequest :=
  { r with id := some (requestIdOr fresh r.id), sampling := d.fill r.sampling }

theorem completes_completed (d : SamplingDefaults) {fresh : String}
    (hfresh : Text.blank fresh = false) (r : ChatRequest) :
    d.Completes fresh r (d.completed fresh r) where
  id := by
    refine ⟨requestIdOr fresh r.id, rfl, ?_⟩
    unfold requestIdOr
    rcases hid : r.id with _ | own
    · exact ⟨hfresh, .inr ⟨rfl, by simp⟩⟩
    · by_cases hown : Text.blank own = true
      · simp [hown, hfresh]
      · simp [hown]
  maxTokens := by
    show (r.sampling.maxTokens <|> d.maxTokens) = _
    cases r.sampling.maxTokens <;> rfl
  temperature := by
    show (r.sampling.temperature <|> d.temperature) = _
    cases r.sampling.temperature <;> rfl
  rest := rfl

end SamplingDefaults

/-- A failure as a caller gets it from a call for `model`: under that name, unless it has one of its
own. -/
inductive Failure.Named (model : String) : Failure → Failure → Prop
  | own (m : String) (f : Failure) : Named model (.ofModel m f) (.ofModel m f)
  | given {f : Failure} (h : ∀ m e, f ≠ .ofModel m e) : Named model f (.ofModel model f)

theorem Failure.named_withModel (model : String) (f : Failure) :
    f.Named model (f.withModel model) := by
  cases f with
  | ofModel m f => exact .own m f
  | _ => exact .given (by simp)

/-- An ending as a caller gets it from a call for `model`: as it is, but for the name of a failure,
which stays of its kind. -/
inductive Ending.PassedOn {α : Type} (model : String) : Ending α → Ending α → Prop
  | ok (x : α) : PassedOn model (.returned (.ok x)) (.returned (.ok x))
  | error {e f : Failure} : e.Named model f → f.kind = e.kind →
      PassedOn model (.returned (.error e)) (.returned (.error f))
  | crashed (message : String) : PassedOn model (.crashed message) (.crashed message)
  | waiting : PassedOn model .waiting .waiting

theorem Ending.passedOn_map {α : Type} (model : String) (e : Ending α) :
    e.PassedOn model (e.map (Outcome.ofModel model)) := by
  rcases e with (f | x) | message | _
  · exact .error (f.named_withModel model) (f.kind_withModel model)
  · exact .ok x
  · exact .crashed message
  · exact .waiting

namespace Router

variable {router : Router} {wanted : Capability} {r : ChatRequest} {f : Failure} {p : Provider}
  {route : Route}

/-- A request is in order, its model has a route and a provider, and the model can do what is
wanted, and use tools if the request has any. -/
structure Admits (router : Router) (wanted : Capability) (r : ChatRequest) (p : Provider)
    (route : Route) : Prop where
  named : Text.blank r.model = false
  asking : r.messages ≠ []
  resolved : router.resolve r.model = .ok (p, route)
  wanted : route.model.capabilities.supports wanted = true
  tools : r.sampling.tools ≠ [] → route.model.capabilities.supports .tools = true

/-- Why a request is refused. Only a failure for want of a capability names the model. -/
inductive Refuses (router : Router) (wanted : Capability) (r : ChatRequest) : Failure → Prop
  | nameless : Text.blank r.model = true →
      Refuses router wanted r (.invalidRequest "model id must not be empty")
  | silent : Text.blank r.model = false → r.messages = [] →
      Refuses router wanted r (.invalidRequest "chat requests need at least one message")
  | unknown : Text.blank r.model = false → r.messages ≠ [] →
      (∀ p route, router.resolve r.model ≠ .ok (p, route)) →
      Refuses router wanted r (.modelNotFound r.model)
  | unwanted {p : Provider} {route : Route} : Text.blank r.model = false → r.messages ≠ [] →
      router.resolve r.model = .ok (p, route) →
      route.model.capabilities.supports wanted = false →
      Refuses router wanted r
        (.ofModel r.model (.unsupported route.model.family.name wanted))
  | toolless {p : Provider} {route : Route} : Text.blank r.model = false → r.messages ≠ [] →
      router.resolve r.model = .ok (p, route) →
      route.model.capabilities.supports wanted = true → r.sampling.tools ≠ [] →
      route.model.capabilities.supports .tools = false →
      Refuses router wanted r
        (.ofModel r.model (.unsupported route.model.family.name .tools))

theorem Refuses.not_admits (h : router.Refuses wanted r f) : ¬router.Admits wanted r p route := by
  intro ha
  cases h with
  | nameless hblank => simp [ha.named] at hblank
  | silent _ hnone => exact ha.asking hnone
  | unknown _ _ hnone => exact hnone p route ha.resolved
  | unwanted _ _ hresolved hwanted =>
    obtain ⟨rfl, rfl⟩ := Prod.mk.inj (Except.ok.inj (hresolved.symm.trans ha.resolved))
    simp [ha.wanted] at hwanted
  | toolless _ _ hresolved _ htools hno =>
    obtain ⟨rfl, rfl⟩ := Prod.mk.inj (Except.ok.inj (hresolved.symm.trans ha.resolved))
    simp [ha.tools htools] at hno

theorem resolve_error {id : String} (h : router.resolve id = .error f) : f = .modelNotFound id := by
  unfold resolve at h
  split at h
  · exact (Except.error.inj h).symm
  · split at h
    · exact (Except.error.inj h).symm
    · simp at h

/-- The provider of a model is the one at the place its route says. -/
theorem resolve_ok {id : String} (h : router.resolve id = .ok (p, route)) :
    router.providers[route.provider]? = some p := by
  unfold resolve at h
  split at h
  · simp at h
  · split at h
    · simp at h
    · rename_i hp
      obtain ⟨rfl, rfl⟩ := Prod.mk.inj (Except.ok.inj h)
      exact hp

theorem missing?_eq_none {c : Capabilities} {s : Sampling} (h : missing? c wanted s = none) :
    c.supports wanted = true ∧ (s.tools ≠ [] → c.supports .tools = true) := by
  unfold missing? at h
  split_ifs at h with hwanted htools
  simp only [Bool.not_eq_true', Bool.not_eq_false] at hwanted
  simp only [Bool.and_eq_true, Bool.not_eq_true', List.isEmpty_eq_false_iff] at htools
  refine ⟨hwanted, fun hne => ?_⟩
  by_contra hno
  exact htools ⟨hne, by simpa using hno⟩

theorem missing?_eq_some {c : Capabilities} {s : Sampling} {lacking : Capability}
    (h : missing? c wanted s = some lacking) :
    c.supports wanted = false ∧ lacking = wanted
      ∨ c.supports wanted = true ∧ s.tools ≠ [] ∧ c.supports .tools = false
        ∧ lacking = .tools := by
  unfold missing? at h
  split_ifs at h with hwanted htools
  · exact .inl ⟨by simpa using hwanted, (Option.some.inj h).symm⟩
  · simp only [Bool.not_eq_true', Bool.not_eq_false] at hwanted
    simp only [Bool.and_eq_true, Bool.not_eq_true', List.isEmpty_eq_false_iff] at htools
    exact .inr ⟨hwanted, htools.1, htools.2, (Option.some.inj h).symm⟩

theorem dispatch_of_resolve {defaults : SamplingDefaults} {fresh : String}
    (hvalid : r.validate = .ok ()) (hresolved : router.resolve r.model = .ok (p, route)) :
    router.dispatch defaults fresh wanted r =
      match missing? route.model.capabilities wanted r.sampling with
      | some lacking => .error (.ofModel r.model (.unsupported route.model.family.name lacking))
      | none => .ok ⟨p, route, defaults.completed fresh r⟩ := by
  unfold dispatch
  rw [hvalid, hresolved]
  rfl

/-- A request is admitted, and leads to a call with its gaps filled, or is refused. -/
theorem dispatch_cases (router : Router) (defaults : SamplingDefaults) (fresh : String)
    (wanted : Capability) (r : ChatRequest) :
    (∃ p route, router.Admits wanted r p route
        ∧ router.dispatch defaults fresh wanted r = .ok ⟨p, route, defaults.completed fresh r⟩)
      ∨ ∃ f, router.Refuses wanted r f ∧ router.dispatch defaults fresh wanted r = .error f := by
  by_cases hblank : Text.blank r.model = true
  · refine .inr ⟨_, .nameless hblank, ?_⟩
    unfold dispatch ChatRequest.validate
    rw [if_pos hblank]
    rfl
  have hnamed : Text.blank r.model = false := by simpa using hblank
  by_cases hasking : r.messages = []
  · refine .inr ⟨_, .silent hnamed hasking, ?_⟩
    unfold dispatch ChatRequest.validate
    rw [if_neg hblank, if_pos (by simp [hasking])]
    rfl
  have hvalid : r.validate = .ok () := by
    unfold ChatRequest.validate
    rw [if_neg hblank, if_neg (by simpa using hasking)]
  rcases hresolved : router.resolve r.model with e | ⟨p, route⟩
  · obtain rfl := resolve_error hresolved
    refine .inr ⟨_, .unknown hnamed hasking (by simp [hresolved]), ?_⟩
    unfold dispatch
    rw [hvalid, hresolved]
    rfl
  rw [dispatch_of_resolve hvalid hresolved]
  rcases hmissing : missing? route.model.capabilities wanted r.sampling with _ | lacking
  · obtain ⟨hwanted, htools⟩ := missing?_eq_none hmissing
    exact .inl ⟨p, route, ⟨hnamed, hasking, hresolved, hwanted, htools⟩, rfl⟩
  · rcases missing?_eq_some hmissing with ⟨hwanted, rfl⟩ | ⟨hwanted, htools, hno, rfl⟩
    · exact .inr ⟨_, .unwanted hnamed hasking hresolved hwanted, rfl⟩
    · exact .inr ⟨_, .toolless hnamed hasking hresolved hwanted htools hno, rfl⟩

theorem Admits.unique {p' : Provider} {route' : Route} (h : router.Admits wanted r p route)
    (h' : router.Admits wanted r p' route') : p = p' ∧ route = route' :=
  Prod.mk.inj (Except.ok.inj (h.resolved.symm.trans h'.resolved))

/-- What comes of a request at an entry point of the gateway that wants `wanted` of a model and
asks `serve` of its provider. -/
structure Handles {α : Type} (router : Router) (wanted : Capability) (r : ChatRequest)
    (serve : Provider → Served α) (handled : Handled α) : Prop where
  once : handled.called.length ≤ 1
  called : handled.called ≠ [] ↔ ∃ p route, router.Admits wanted r p route
  /-- The provider that is called is the one the model resolves to; what it sends is all that is
  sent, and how it ends is passed on. -/
  served : ∀ p route, router.Admits wanted r p route → handled.called = [route.provider]
    ∧ router.providers[route.provider]? = some p ∧ handled.sent = (serve p).sent
    ∧ (serve p).ending.PassedOn r.model handled.ending
  refused : handled.called = [] → handled.sent = []
    ∧ ∃ f, router.Refuses wanted r f ∧ handled.ending = .returned (.error f)

theorem handles_of_refuses {α : Type} (serve : Provider → Served α)
    (h : router.Refuses wanted r f) : router.Handles wanted r serve (.refused f) where
  once := Nat.zero_le 1
  called := ⟨fun hne => absurd rfl hne, fun ⟨_, _, ha⟩ => absurd ha h.not_admits⟩
  served := fun _ _ ha => absurd ha h.not_admits
  refused := fun _ => ⟨rfl, f, h, rfl⟩

theorem handles_of_admits {α : Type} (serve : Provider → Served α)
    (h : router.Admits wanted r p route) :
    router.Handles wanted r serve ⟨(serve p).ending.map (Outcome.ofModel r.model),
      [route.provider], (serve p).sent⟩ where
  once := Nat.le_refl 1
  called := ⟨fun _ => ⟨p, route, h⟩, fun _ => List.cons_ne_nil _ _⟩
  served := by
    intro p' route' h'
    obtain ⟨rfl, rfl⟩ := h.unique h'
    exact ⟨rfl, resolve_ok h.resolved, rfl, Ending.passedOn_map r.model (serve p).ending⟩
  refused := fun hnil => absurd hnil (List.cons_ne_nil _ _)

theorem admits_streaming : router.Admits wanted { r with stream := true } p route ↔
    router.Admits wanted r p route :=
  ⟨fun h => ⟨h.named, h.asking, h.resolved, h.wanted, h.tools⟩,
    fun h => ⟨h.named, h.asking, h.resolved, h.wanted, h.tools⟩⟩

theorem refuses_of_streaming (h : router.Refuses wanted { r with stream := true } f) :
    router.Refuses wanted r f := by
  cases h with
  | nameless hblank => exact .nameless hblank
  | silent hnamed hnone => exact .silent hnamed hnone
  | unknown hnamed hasking hnone => exact .unknown hnamed hasking hnone
  | unwanted hnamed hasking hresolved hwanted =>
    exact .unwanted hnamed hasking hresolved hwanted
  | toolless hnamed hasking hresolved hwanted htools hno =>
    exact .toolless hnamed hasking hresolved hwanted htools hno

/-- A chat and a streamed chat call a provider at most once, and only for a request that the router
admits: the provider that the model resolves to, with the caller's request, its gaps filled. The
chunks of a stream go to the sink as that provider offers them, and to a refused request there are
none. -/
theorem handles_chat_and_chatStream (router : Router) (defaults : SamplingDefaults) {fresh : String}
    (hfresh : Text.blank fresh = false) (sink : Sink) (c : CallContext) (now : Nat)
    (r : ChatRequest) :
    (∃ sent, defaults.Completes fresh r sent
        ∧ router.Handles .chat r (fun p => p.chat c now sent)
          (router.chat defaults fresh c now r))
      ∧ ∃ sent, defaults.Completes fresh { r with stream := true } sent
        ∧ let streamed := router.chatStream defaults fresh sink c now r
          router.Handles .chatStream r
              (fun p => ⟨(p.stream sink c now sent).ending, (p.stream sink c now sent).sent⟩)
              streamed.handled
            ∧ (∀ p route, router.Admits .chatStream r p route →
                streamed.intake = (p.stream sink c now sent).intake)
            ∧ (streamed.handled.called = [] → streamed.intake.offered = []) := by
  constructor
  · refine ⟨_, defaults.completes_completed hfresh r, ?_⟩
    obtain ⟨p, route, ha, hd⟩ | ⟨f, hf, hd⟩ := dispatch_cases router defaults fresh .chat r
    · unfold chat
      rw [hd]
      exact handles_of_admits _ ha
    · unfold chat
      rw [hd]
      exact handles_of_refuses _ hf
  · refine ⟨_, defaults.completes_completed hfresh { r with stream := true }, ?_⟩
    obtain ⟨p, route, ha, hd⟩ | ⟨f, hf, hd⟩ :=
      dispatch_cases router defaults fresh .chatStream { r with stream := true }
    · have hadmits := admits_streaming.1 ha
      unfold chatStream
      rw [hd]
      refine ⟨handles_of_admits _ hadmits, fun p' route' h' => ?_, fun hnil => ?_⟩
      · obtain ⟨rfl, rfl⟩ := hadmits.unique h'
        rfl
      · exact absurd hnil (List.cons_ne_nil _ _)
    · have hrefuses := refuses_of_streaming hf
      unfold chatStream
      rw [hd]
      exact ⟨handles_of_refuses _ hrefuses, fun _ _ h' => absurd h' hrefuses.not_admits,
        fun _ => rfl⟩

section Mirror

/-- A provider that answers with the id it is asked with, and whose streams break. -/
def mirror : Provider :=
  { Provider.bare .openai [.chat "mirror" .openai] with
    chat := fun _ _ r =>
      .unsent (.ok ⟨r.requestId, r.model, .of .assistant (.text ""), .stop, none, 0⟩)
    stream := fun _ c now _ => .failed c now (.transport "connection reset") [] }

def mirrorRouter : Router := (ofProviders [mirror]).1

/-- A request whose id is blank. -/
def mirrorRequest : ChatRequest :=
  { ChatRequest.of "mirror" [.of .user (.text "hello")] with id := some " " }

def mirrorId : String := "67e55044-10b1-426f-9247-bb680e5fe0c8"

theorem mirror_called :
    Text.blank mirrorId = false
      ∧ (mirrorRouter.chat .unset mirrorId .unbounded 0 mirrorRequest).called = [0]
      ∧ (mirrorRouter.chatStream .unset mirrorId .all .unbounded 0
          mirrorRequest).handled.ending =
            .returned (.error (.ofModel "mirror" (.transport "connection reset"))) := by
  have hfresh : Text.blank mirrorId = false := by decide
  obtain ⟨⟨sent, -, hchat⟩, sent', -, hstream, -⟩ :=
    handles_chat_and_chatStream mirrorRouter .unset hfresh .all .unbounded 0 mirrorRequest
  have hresolved : mirrorRouter.resolve mirrorRequest.model =
      .ok (mirror, ⟨.chat "mirror" .openai, 0⟩) := rfl
  have hadmits : mirrorRouter.Admits .chat mirrorRequest mirror ⟨.chat "mirror" .openai, 0⟩ :=
    ⟨by decide, by decide, hresolved, rfl, fun _ => rfl⟩
  have hadmits' : mirrorRouter.Admits .chatStream mirrorRequest mirror
      ⟨.chat "mirror" .openai, 0⟩ := ⟨by decide, by decide, hresolved, rfl, fun _ => rfl⟩
  refine ⟨hfresh, (hchat.served _ _ hadmits).1, ?_⟩
  have hpassed : Ending.PassedOn "mirror" (.returned (.error (.transport "connection reset"))) _ :=
    (hstream.served _ _ hadmits').2.2.2
  generalize (mirrorRouter.chatStream .unset mirrorId .all .unbounded 0
    mirrorRequest).handled.ending = ending at hpassed ⊢
  cases hpassed with
  | error hnamed hkind =>
    cases hnamed with
    | given => rfl

end Mirror

end Router

end Switchboard
