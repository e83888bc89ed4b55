import Switchboard.Proofs.Dialect.Collapse
import Switchboard.Proofs.Provider.Sending

/-!
# Tools that are declared

A payload declares the tools of its request one by one and in their order. The dialects of chat
completions and of messages refuse a request whose tools share a name, for the first name that comes
twice, and then nothing is sent; the dialect of content declares whatever tools there are
(`tools_declared`).
-/

namespace Switchboard

/-- The first name of a list that stands there before. -/
def FirstRepeated (names : List String) (name : String) : Prop :=
  ∃ before after, names = before ++ name :: after ∧ before.Nodup ∧ name ∈ before

def ChatRequest.withoutTools (r : ChatRequest) : ChatRequest :=
  { r with sampling := { r.sampling with tools := [] } }

namespace Tool

variable {ts : List Tool} {name : String}

theorem repeatedName?_eq_some : ∀ {ts : List Tool} {seen : List String},
    repeatedName? seen ts = some name → seen.Nodup →
      ∃ before after, ts.map Tool.name = before ++ name :: after
        ∧ (seen.reverse ++ before).Nodup ∧ name ∈ seen.reverse ++ before
  | [], _, h, _ => by cases h
  | t :: ts, seen, h, hseen => by
    rw [repeatedName?] at h
    split_ifs at h with hmem
    · obtain rfl := Option.some.inj h
      exact ⟨[], ts.map Tool.name, rfl, by simpa using hseen, by simpa using hmem⟩
    · have hcons : (t.name :: seen).Nodup := List.nodup_cons.2 ⟨by simpa using hmem, hseen⟩
      obtain ⟨before, after, hts, hnodup, hname⟩ := repeatedName?_eq_some h hcons
      refine ⟨t.name :: before, after, by rw [List.map_cons, hts]; rfl, ?_, ?_⟩
      · simpa using hnodup
      · simpa using hname

/-- Declarations are refused for the first name that comes twice. -/
theorem declareDistinct_of_not_nodup (declare : Tool → Json) (h : ¬(ts.map Tool.name).Nodup) :
    ∃ name, FirstRepeated (ts.map Tool.name) name ∧ declareDistinct declare ts =
      .error (.untranslatable ("Duplicate tool name: " ++ name)) := by
  cases hrepeated : repeatedName? [] ts with
  | none => exact absurd ((repeatedName?_eq_none_iff ts []).1 hrepeated).1 h
  | some name =>
    obtain ⟨before, after, hts, hnodup, hname⟩ := repeatedName?_eq_some hrepeated List.nodup_nil
    refine ⟨name, ⟨before, after, hts, hnodup, hname⟩, ?_⟩
    rw [declareDistinct, hrepeated]

end Tool

/-- What a declaration tells of a tool: its name as a dialect spells it, its description, and under
some key its schema. -/
structure Describes (spell : String → String) (key : String) (schema : Tool → Option Json)
    (t : Tool) (j : Json) : Prop where
  name : j.member? "name" = some (.str (spell t.name))
  description : j.member? "description" = some (.str t.description)
  schema : j.member? key = schema t

/-- One declaration for each tool, in order. Without tools there is no list. -/
def Listed (declares : Tool → Json → Prop) (ts : List Tool) : Option Json → Prop
  | none => ts = []
  | some listed => ts ≠ [] ∧ ∃ ds, listed = .arr ds ∧ List.Forall₂ declares ts ds

/-- A dialect in which tools need different names. -/
structure DeclaresDistinct (declares : Tool → Json → Prop) (ts : List Tool)
    (said : Outcome Json) : Prop where
  repeated : ¬(ts.map Tool.name).Nodup → ∃ name, FirstRepeated (ts.map Tool.name) name
    ∧ said = .error (.untranslatable ("Duplicate tool name: " ++ name))
  distinct : (ts.map Tool.name).Nodup → ∃ body, said = .ok body
    ∧ Listed declares ts (body.member? "tools")

section Listed

variable {declares : Tool → Json → Prop} {declare : Tool → Json}

theorem listed_of_declares (h : ∀ t, declares t (declare t)) (ts : List Tool) :
    Listed declares ts
      (if (ts.map declare).isEmpty then none else some (.arr (ts.map declare))) := by
  cases ts with
  | nil => rfl
  | cons t ts =>
    refine ⟨List.cons_ne_nil t ts, _, rfl, ?_⟩
    rw [List.forall₂_map_right_iff, List.forall₂_same]
    exact fun t _ => h t

theorem declaresDistinct_of_build {ts : List Tool} {build : List Json → Json}
    (h : ∀ t, declares t (declare t))
    (hbuild : ∀ ds, (build ds).member? "tools" = if ds.isEmpty then none else some (.arr ds)) :
    DeclaresDistinct declares ts
      (Tool.declareDistinct declare ts >>= fun ds => pure (build ds)) := by
  constructor
  · intro hrepeated
    obtain ⟨name, hname, hrefused⟩ := Tool.declareDistinct_of_not_nodup declare hrepeated
    exact ⟨name, hname, by rw [hrefused]; rfl⟩
  · intro hdistinct
    rw [Tool.declareDistinct_eq_ok_iff.2 ⟨hdistinct, rfl⟩]
    exact ⟨_, rfl, hbuild _ ▸ listed_of_declares h ts⟩

end Listed

namespace OpenAI

variable {d : Dialect} {c : Collapse} {r : ChatRequest} {delivery : Delivery}

def Declares (t : Tool) (j : Json) : Prop :=
  j.member? "type" = some (.str "function") ∧ ∃ function, j.member? "function" = some function
    ∧ Describes FunctionName.sanitize "parameters" (fun t => some t.parameters.json) t function

theorem declares_declaration (t : Tool) : Declares t (declaration t) :=
  ⟨rfl, _, rfl, rfl, rfl, rfl⟩

theorem payload_declares (h : Accepts d r.withoutTools) :
    DeclaresDistinct Declares r.sampling.tools (payload d c r delivery) := by
  obtain ⟨ws, hws⟩ := exists_messages_iff.2 h.messages
  have hws : messages d r.messages = .ok ws := hws
  simp only [payload, plainPayload, hws, tools, bind_assoc, pure_bind]
  refine declaresDistinct_of_build declares_declaration fun ds => ?_
  rw [Collapse.payload, Json.member?_modify_of_ne (by decide), Json.member?_record]
  · rfl
  · rcases delivery with _ | (_ | _) <;> simp [Delivery.members]

end OpenAI

namespace Anthropic

variable {c : Collapse} {maxTokens : Nat} {r : ChatRequest} {streamed : Bool} {p : Json}
  {key : String}

def Declares : Tool → Json → Prop := Describes id "input_schema" fun t => some t.parameters.json

theorem declares_declaration (t : Tool) : Declares t (declaration t) := ⟨rfl, rfl, rfl⟩

/-- Collapsing concerns the messages alone. -/
theorem member?_collapsed (h : "messages" ≠ key) :
    (if c.tool then collapseResults (c.payload p) else c.payload p).member? key =
      p.member? key := by
  split_ifs
  · rw [collapseResults, Json.member?_modify_of_ne h, Collapse.payload, Json.member?_modify_of_ne h]
  · rw [Collapse.payload, Json.member?_modify_of_ne h]

theorem payload_declares (h : Accepts r.withoutTools) :
    DeclaresDistinct Declares r.sampling.tools (payload c maxTokens r streamed) := by
  obtain ⟨spoken, htranslated⟩ := exists_translate_iff.2 h.messages
  have hspoken : conversation r.messages = .ok spoken :=
    conversation_eq_ok_iff.2 ⟨htranslated, h.turns⟩
  simp only [payload, plainPayload, hspoken, tools, bind_assoc, pure_bind]
  refine declaresDistinct_of_build declares_declaration fun ds => ?_
  rw [member?_collapsed (by decide), Json.member?_record (by simp)]
  rfl

end Anthropic

namespace Google

variable {r : ChatRequest}

def Declares : Tool → Json → Prop := Describes id "parameters" fun t =>
  if t.parameters.properties = [] then none else some (stripSchema t.parameters.json)

/-- All declarations go into one group. -/
def grouped (declarations : Json) : Json := .arr [.mkObj [("functionDeclarations", declarations)]]

theorem declares_declaration (t : Tool) : Declares t (declaration t) := by
  refine ⟨Json.member?_record (by simp) _, Json.member?_record (by simp) _, ?_⟩
  rw [declaration, Json.member?_record (by simp)]
  simp [Members.lookup]

theorem payload_declares (h : Accepts r.withoutTools) : ∃ body listed, payload r = .ok body
    ∧ body.member? "tools" = listed.map grouped ∧ Listed Declares r.sampling.tools listed := by
  obtain ⟨body, hbody⟩ := exists_payload_iff.2 (show Accepts r from h)
  simp only [payload, bind_eq_ok_iff, pure_eq_ok_iff] at hbody
  obtain ⟨spoken, hspoken, rfl⟩ := hbody
  refine ⟨_, _, by rw [payload, hspoken]; rfl, ?_, listed_of_declares declares_declaration _⟩
  rw [Json.member?_record (by simp)]
  cases r.sampling.tools <;> rfl

end Google

/-- Tools are declared one by one, in their order. Of two with one name the request is refused in
the dialects of chat completions and of messages, for the first name that comes twice, and nothing
is sent. In the dialect of content every list of tools is declared. -/
theorem tools_declared (r : ChatRequest) :
    (∀ d c delivery, OpenAI.Accepts d r.withoutTools →
      DeclaresDistinct OpenAI.Declares r.sampling.tools (OpenAI.payload d c r delivery))
    ∧ (∀ c maxTokens streamed, Anthropic.Accepts r.withoutTools →
      DeclaresDistinct Anthropic.Declares r.sampling.tools
        (Anthropic.payload c maxTokens r streamed))
    ∧ (Google.Accepts r.withoutTools → ∃ body listed, Google.payload r = .ok body
      ∧ body.member? "tools" = listed.map Google.grouped
      ∧ Listed Google.Declares r.sampling.tools listed)
    ∧ ∀ (config : ProviderConfig) (network : Network) (sink : Sink) (c : CallContext) (now : Nat),
      config.family ≠ .google → ¬(r.sampling.tools.map Tool.name).Nodup →
      (∃ f, config.chatSaid r false = .error f ∧ Untranslated config.family f
        ∧ ((config.adapter network).chat c now r).course = .failed f)
      ∧ ∃ f, config.chatSaid r true = .error f ∧ Untranslated config.family f
        ∧ ((config.adapter network).stream sink c now r).course = .failed f := by
  refine ⟨fun _ _ _ => OpenAI.payload_declares, fun _ _ _ => Anthropic.payload_declares,
    Google.payload_declares, fun config network sink c now hfamily hrepeated => ?_⟩
  have hrefused : ∀ streamed, ∃ f, config.chatSaid r streamed = .error f := by
    intro streamed
    cases hsaid : config.chatSaid r streamed with
    | error f => exact ⟨f, rfl⟩
    | ok body =>
      have haccepts := ProviderConfig.exists_chatSaid_iff.1 ⟨body, hsaid⟩
      unfold ProviderConfig.Accepts at haccepts
      cases hfam : config.family with
      | google => exact absurd hfam hfamily
      | openai | deepseek | internal | anthropic =>
        rw [hfam] at haccepts
        exact absurd haccepts.tools hrepeated
  obtain ⟨hchat, hstream, -⟩ := config.adapter_sends network c now
  obtain ⟨f, hf⟩ := hrefused false
  obtain ⟨g, hg⟩ := hrefused true
  exact ⟨⟨f, hf, ProviderConfig.untranslated_of_chatSaid hf, (hchat r).unsaid f hf⟩,
    g, hg, ProviderConfig.untranslated_of_chatSaid hg, (hstream sink r).unsaid g hg⟩

section Directions

def directionRequest (names : List String) : ChatRequest :=
  ⟨none, "m", [.of .user (.text "Where to?")],
    { Sampling.empty with tools := names.map (⟨·, "", .empty⟩) }, false⟩

/-- Two tools are declared in every dialect. One more of the first name is refused in two. -/
theorem directions_declared :
    (∃ body, OpenAI.payload ⟨.openai, true, true⟩ .never (directionRequest ["north", "south"])
        .whole = .ok body
      ∧ Listed OpenAI.Declares (directionRequest ["north", "south"]).sampling.tools
        (body.member? "tools"))
    ∧ (∃ body ds, Google.payload (directionRequest ["north", "south"]) = .ok body
      ∧ body.member? "tools" = some (Google.grouped (.arr ds)) ∧ ds.length = 2)
    ∧ (∃ name, FirstRepeated ["north", "south", "north"] name
      ∧ Anthropic.payload .never 4096 (directionRequest ["north", "south", "north"]) false =
        .error (.untranslatable ("Duplicate tool name: " ++ name)))
    ∧ ∃ f, (((ProviderConfig.ofFamily .anthropic "key").adapter ProviderConfig.outage).chat
        .unbounded 0 (directionRequest ["north", "south", "north"])).course = .failed f := by
  obtain ⟨hopenai, -, hgoogle, -⟩ := tools_declared (directionRequest ["north", "south"])
  obtain ⟨-, hanthropic, -, hadapter⟩ :=
    tools_declared (directionRequest ["north", "south", "north"])
  have hrepeated : ¬["north", "south", "north"].Nodup := by decide
  refine ⟨?_, ?_, ?_, ?_⟩
  · have haccepts : OpenAI.Accepts ⟨.openai, true, true⟩
        (directionRequest ["north", "south"]).withoutTools :=
      ⟨List.forall_mem_singleton.2 nofun, List.nodup_nil⟩
    exact (hopenai ⟨.openai, true, true⟩ .never .whole haccepts).distinct (by decide)
  · obtain ⟨body, listed, hbody, hlisted, htools⟩ := hgoogle (Google.exists_payload_iff.1 ⟨_, rfl⟩)
    cases listed with
    | none => cases htools
    | some listed =>
      obtain ⟨-, ds, rfl, hdeclares⟩ := htools
      exact ⟨body, ds, hbody, hlisted, hdeclares.length_eq.symm⟩
  · have haccepts : Anthropic.Accepts
        (directionRequest ["north", "south", "north"]).withoutTools :=
      ⟨List.forall_mem_singleton.2 nofun, ⟨_, List.mem_singleton.2 rfl, by decide⟩, List.nodup_nil⟩
    exact (hanthropic .never 4096 false haccepts).repeated hrepeated
  · obtain ⟨⟨f, -, -, hcourse⟩, -⟩ := hadapter (ProviderConfig.ofFamily .anthropic "key")
      ProviderConfig.outage .all .unbounded 0 (by decide) hrepeated
    exact ⟨f, hcourse⟩

/-- Two tools of one name are declared in the dialect of content, and the request is sent. -/
theorem twins_declared :
    ¬((directionRequest ["north", "north"]).sampling.tools.map Tool.name).Nodup
    ∧ (∃ body d, Google.payload (directionRequest ["north", "north"]) = .ok body
      ∧ body.member? "tools" = some (Google.grouped (.arr [d, d])))
    ∧ (((ProviderConfig.ofFamily .google "key").adapter ProviderConfig.outage).chat
      .unbounded 0 (directionRequest ["north", "north"])).course.sent.length = 1 :=
  ⟨by decide, ⟨_, _, rfl, rfl⟩, by decide +kernel⟩

end Directions

end Switchboard
