import Switchboard.Proofs.Dialect.Collapse
import Switchboard.Proofs.Dialect.Placement

/-!
# Contents of the messages dialect

Content collapses in three places: what the system says, the turns, and the results of tools inside
them. A turn that becomes a bare text holds no result, so the places do not disturb each other
(`SentAs.results`), and a payload is the one with no flags but for these contents (`contents_sent`).
Only the turns are looked through for results: one that the system gives keeps its list of blocks
whatever the flags are (`SentAs.mem_of_isResultBlock`).
-/

namespace Switchboard

namespace Anthropic

def IsTextBlock (b : Json) : Prop := b.member? "type" = some (.str "text")

/-- The content that blocks are sent as. It is the text itself if that may be bare and is all there
is, and otherwise a list with something for each block. -/
inductive SentAs (bare : Prop) (sent : Json → Json → Prop) : List Json → Json → Prop
  | text {t : String} : bare → SentAs bare sent [textBlock t] (.str t)
  | listed {bs cs : List Json} : (bare → ∀ b, bs = [b] → ¬IsTextBlock b) →
      List.Forall₂ sent bs cs → SentAs bare sent bs (.arr cs)

/-- What a block of a turn is sent as: of a result, the content is its text if that may be bare. -/
inductive BlockSent (bare : Prop) : Json → Json → Prop
  | result {callId content : String} {isError : Bool} : bare → BlockSent bare
      (resultBlock callId content isError)
      ((resultBlock callId content isError).insert "content" (.str content))
  | kept {b : Json} : (bare → ¬IsResultBlock b) → BlockSent bare b b

/-- The flag of a turn's role is set. -/
def Bare (c : Collapse) (t : Turn) : Prop :=
  (t.role = "user" ∧ c.user = true) ∨ (t.role = "assistant" ∧ c.assistant = true)

def TurnSent (c : Collapse) (t : Turn) (u : Json) : Prop :=
  ∃ content, u = .mkObj [("role", t.role), ("content", content)]
    ∧ SentAs (Bare c t) (BlockSent (c.tool = true)) t.blocks content

/-- A block that some part of a message has. -/
def IsBlock (b : Json) : Prop := ∃ role p, block role p = .ok b

section Blocks

variable {b : Json} {bs : List Json} {c : Collapse} {t : Turn}

theorem exists_textBlock (h : IsBlock b) (htext : IsTextBlock b) : ∃ t, b = textBlock t := by
  obtain ⟨role, p, hp⟩ := h
  rw [IsTextBlock, type_of_block hp] at htext
  cases p with
  | text t => exact ⟨t, (Except.ok.inj hp).symm⟩
  | _ => simp [blockType] at htext

theorem exists_resultBlock (h : IsBlock b) (hresult : IsResultBlock b) :
    ∃ callId content isError, b = resultBlock callId content isError := by
  obtain ⟨role, p, hp⟩ := h
  obtain ⟨callId, content, isError, rfl⟩ := (kinds_of_block hp).2.1 hresult
  exact ⟨callId, content, isError, (Except.ok.inj hp).symm⟩

theorem collapsed_textBlock (t : String) : (Json.arr [textBlock t]).collapsed = .str t :=
  Json.collapsed_of_isOnlyText ⟨_, rfl, rfl, rfl⟩

theorem collapsed_of_not_isTextBlock (h : ∀ b, bs = [b] → ¬IsTextBlock b) :
    (Json.arr bs).collapsed = .arr bs :=
  Json.collapsed_of_not_isOnlyText fun _ ⟨b, hb, htype, _⟩ => h b (Json.arr.inj hb) htype

theorem collapsedResult_resultBlock (callId content : String) (isError : Bool) :
    collapsedResult (resultBlock callId content isError) =
      (resultBlock callId content isError).insert "content" (.str content) := by
  have htype : (resultBlock callId content isError).member? "type" = some (.str "tool_result") :=
    Json.member?_record (by simp) _
  have hcontent : (resultBlock callId content isError).member? "content" =
      some (.arr [textBlock content]) :=
    Json.member?_record (by simp) _
  rw [collapsedResult, if_pos (Json.string?_eq_some_iff.2 htype), Json.modify_of_member? hcontent,
    collapsed_textBlock]

theorem collapsedResult_of_not_isResultBlock (h : ¬IsResultBlock b) : collapsedResult b = b :=
  if_neg fun htype => h (Json.string?_eq_some_iff.1 htype)

theorem blockSent_collapsedResult {bare : Prop} (hbare : bare) (h : IsBlock b) :
    BlockSent bare b (collapsedResult b) := by
  by_cases hresult : IsResultBlock b
  · obtain ⟨callId, content, isError, rfl⟩ := exists_resultBlock h hresult
    rw [collapsedResult_resultBlock]
    exact .result hbare
  · rw [collapsedResult_of_not_isResultBlock hresult]
    exact .kept fun _ => hresult

end Blocks

/-- A message of a payload with its content collapsed, and then the results in it. -/
def sentMessage (c : Collapse) (m : Json) : Json :=
  if c.tool then (c.message m).modify "content" (Json.mapItems collapsedResult) else c.message m

section Turns

variable {b : Json} {bs : List Json} {c : Collapse} {t : Turn} {said : List (Role × List Json)}
  {system : List Json} {turns : List Turn} {ms : List Message}

theorem modify_content (role content : Json) (f : Json → Json) :
    (Json.mkObj [("role", role), ("content", content)]).modify "content" f =
      .mkObj [("role", role), ("content", f content)] :=
  rfl

theorem role_of_arranged (h : Arranged "assistant" said system turns) (ht : t ∈ turns) :
    t.role = "user" ∨ t.role = "assistant" := by
  have hrole : t.role ∈ said.filterMap (·.1.wire? "assistant") :=
    (List.destutter_sublist _ _).subset (h.roles ▸ List.mem_map_of_mem ht)
  obtain ⟨⟨role, bs⟩, -, hwire⟩ := List.mem_filterMap.1 hrole
  cases role <;> simp [Role.wire?] at hwire <;> simp [← hwire]

theorem arranged_of_conversation {conv : Conversation} (h : conversation ms = .ok conv) :
    ∃ said, Said ms said ∧ Arranged "assistant" said conv.system conv.turns := by
  obtain ⟨said, hsaid, rfl⟩ := translate_eq_ok_iff.1 (conversation_eq_ok_iff.1 h).1
  exact ⟨said, hsaid, arranged_merge "assistant" said⟩

theorem isBlock_of_blocks {m : Message} (h : blocks m = .ok bs) : ∀ b ∈ bs, IsBlock b := by
  intro b hb
  obtain ⟨p, -, hp⟩ := exists_source_of_mapM (mapM_of_blocks h) hb
  exact ⟨m.role, p, hp⟩

theorem isBlock_of_said (h : Said ms said) : ∀ s ∈ said, ∀ b ∈ s.2, IsBlock b := by
  induction h with
  | nil => simp
  | cons hm _ ih => exact List.forall_mem_cons.2 ⟨isBlock_of_blocks hm.2, ih⟩

theorem isBlock_of_arranged (h : Arranged "assistant" said system turns) (hsaid : Said ms said) :
    (∀ b ∈ system, IsBlock b) ∧ ∀ t ∈ turns, ∀ b ∈ t.blocks, IsBlock b := by
  have hblocks := isBlock_of_said hsaid
  refine ⟨fun b hb => ?_, fun t ht b hb => ?_⟩
  · rw [h.system] at hb
    obtain ⟨s, hs, hb⟩ := List.mem_flatMap.1 hb
    exact hblocks s (List.mem_filter.1 hs).1 b hb
  · have hb := h.blocks ▸ List.mem_flatMap_of_mem ht hb
    obtain ⟨s, hs, hb⟩ := List.mem_flatMap.1 hb
    exact hblocks s (List.mem_filter.1 hs).1 b hb

theorem sentAs_collapsed {flag : Bool} {bare : Prop} (hflag : flag = true ↔ bare)
    (h : ∀ b ∈ bs, IsBlock b) :
    SentAs bare Eq bs (if flag then (Json.arr bs).collapsed else .arr bs) := by
  have hsame : List.Forall₂ Eq bs bs := List.forall₂_eq_eq_eq ▸ rfl
  split_ifs with hset
  · have hbare := hflag.1 hset
    by_cases htext : ∃ b, bs = [b] ∧ IsTextBlock b
    · obtain ⟨b, rfl, hb⟩ := htext
      obtain ⟨t, rfl⟩ := exists_textBlock (h b (List.mem_singleton_self b)) hb
      rw [collapsed_textBlock]
      exact .text hbare
    · have hnone : ∀ b, bs = [b] → ¬IsTextBlock b := fun b hb hkind => htext ⟨b, hb, hkind⟩
      rw [collapsed_of_not_isTextBlock hnone]
      exact .listed (fun _ => hnone) hsame
  · exact .listed (fun hbare => absurd (hflag.2 hbare) hset) hsame

/-- A text that is sent bare holds no results, and any other content keeps its blocks. -/
theorem SentAs.results {bare : Prop} {content : Json} (hblocks : ∀ b ∈ bs, IsBlock b)
    (h : SentAs bare Eq bs content) : SentAs bare (BlockSent (c.tool = true)) bs
      (if c.tool then content.mapItems collapsedResult else content) := by
  cases h with
  | text hbare => split_ifs <;> exact .text hbare
  | listed hnone hsame =>
    rw [List.forall₂_eq_eq_eq] at hsame
    subst hsame
    split_ifs with htool
    · refine .listed hnone ?_
      rw [List.forall₂_map_right_iff, List.forall₂_same]
      exact fun b hb => blockSent_collapsedResult htool (hblocks b hb)
    · exact .listed hnone (List.forall₂_same.2 fun b _ => .kept fun hset => absurd hset htool)

/-- Where results are left alone, the content is a list that they stand in. -/
theorem SentAs.mem_of_isResultBlock {bare : Prop} {content : Json} (h : SentAs bare Eq bs content)
    (hb : b ∈ bs) (hresult : IsResultBlock b) : ∃ cs, content = .arr cs ∧ b ∈ cs := by
  cases h with
  | @text t =>
    obtain rfl := List.mem_singleton.1 hb
    have htype : IsTextBlock (textBlock t) := rfl
    exact absurd (htype.symm.trans hresult) (by decide)
  | listed _ hsame =>
    rw [List.forall₂_eq_eq_eq] at hsame
    exact ⟨_, rfl, hsame ▸ hb⟩

theorem message_json (c : Collapse) (t : Turn) : c.message (t.json "content") =
    .mkObj [("role", t.role), ("content",
      if c.ofWireRole t.role then (Json.arr t.blocks).collapsed else .arr t.blocks)] := by
  have hrole : (t.json "content").string? "role" = some t.role := rfl
  rw [Collapse.message, hrole]
  dsimp only
  split_ifs
  · exact modify_content _ _ _
  · rfl

theorem ofWireRole_iff (h : t.role = "user" ∨ t.role = "assistant") :
    c.ofWireRole t.role = true ↔ Bare c t := by
  rcases h with h | h
  · rw [h, show "user" = Role.user.name from rfl, Collapse.ofWireRole_name]
    simp [Bare, h, Collapse.ofRole]
  · rw [h, show "assistant" = Role.assistant.name from rfl, Collapse.ofWireRole_name]
    simp [Bare, h, Collapse.ofRole]

theorem turnSent_sentMessage (hrole : t.role = "user" ∨ t.role = "assistant")
    (hblocks : ∀ b ∈ t.blocks, IsBlock b) :
    TurnSent c t (sentMessage c (t.json "content")) := by
  refine ⟨_, ?_, (sentAs_collapsed (ofWireRole_iff hrole) hblocks).results hblocks⟩
  rw [sentMessage, message_json]
  split_ifs <;> rfl

end Turns

section Payloads

variable {c : Collapse} {maxTokens : Nat} {r : ChatRequest} {streamed : Bool} {p q : Json}

/-- The two passes over the messages are one pass over each of them. -/
theorem payload_eq_ok_iff : payload c maxTokens r streamed = .ok q ↔
    ∃ p, plainPayload c.system maxTokens r streamed = .ok p
      ∧ p.modify "messages" (Json.mapItems (sentMessage c)) = q := by
  have hpasses : ∀ p : Json, (if c.tool then collapseResults (c.payload p) else c.payload p) =
      p.modify "messages" (Json.mapItems (sentMessage c)) := by
    intro p
    split_ifs with htool
    · have hitems : Json.mapItems (Json.modify "content" (Json.mapItems collapsedResult)) ∘
          Json.mapItems c.message = Json.mapItems (sentMessage c) := by
        funext j
        rw [Function.comp_apply, Json.mapItems_mapItems]
        exact congrArg (Json.mapItems · j) (funext fun m => (if_pos htool).symm)
      rw [collapseResults, Collapse.payload, Json.modify_modify]
      exact congrArg (p.modify "messages" ·) hitems
    · have hmessage : sentMessage c = c.message := funext fun m => if_neg htool
      rw [hmessage, Collapse.payload]
  simp only [payload, bind_eq_ok_iff, pure_eq_ok_iff, hpasses]

theorem payload_never (h : plainPayload false maxTokens r streamed = .ok p) (hp : p.Sorted) :
    payload .never maxTokens r streamed = .ok p := by
  obtain ⟨members, rfl, hordered⟩ := hp
  exact payload_eq_ok_iff.2 ⟨_, h, Collapse.payload_never hordered⟩

theorem plainPayload_of_conversation {conv : Conversation}
    (hconv : conversation r.messages = .ok conv)
    (h : plainPayload false maxTokens r streamed = .ok p) (flag : Bool) :
    plainPayload flag maxTokens r streamed = .ok (p.modify "system" fun _ =>
      if flag then (Json.arr conv.system).collapsed else .arr conv.system) := by
  simp only [plainPayload, hconv, bind_eq_ok_iff, pure_eq_ok_iff, Except.ok.injEq,
    exists_eq_left'] at h ⊢
  obtain ⟨ts, hts, rfl⟩ := h
  refine ⟨ts, hts, ?_⟩
  rw [Json.modify_record (by simp)]
  cases conv.system.isEmpty <;> simp

theorem members_of_plainPayload (h : plainPayload false maxTokens r streamed = .ok p) :
    p.Sorted ∧ ∃ conv, conversation r.messages = .ok conv
      ∧ p.member? "system" = (if conv.system.isEmpty then none else some (.arr conv.system))
      ∧ p.member? "messages" = some (.arr (conv.turns.map (Turn.json "content")))
      ∧ p.member? "max_tokens" = some (.nat (r.sampling.maxTokens.getD maxTokens)) := by
  simp only [plainPayload, bind_eq_ok_iff, pure_eq_ok_iff] at h
  obtain ⟨conv, hconv, ts, -, rfl⟩ := h
  refine ⟨Json.sorted_record _, conv, hconv, ?_, ?_, ?_⟩ <;> rw [Json.member?_record (by simp)]
  · cases conv.system.isEmpty <;> rfl
  · rfl
  · rfl

end Payloads

/-- A payload is the one with no flags but for its contents, and those are sent as the flags say:
what the system says, each turn by its own role, and the results in it. A result that the system
gives is in no turn, and stays as it is. The length of the answer is always bounded. -/
theorem contents_sent (c : Collapse) (maxTokens : Nat) {r : ChatRequest} (streamed : Bool)
    (h : Accepts r) : ∃ said system turns p q s us, Said r.messages said
      ∧ Arranged "assistant" said system turns
      ∧ payload .never maxTokens r streamed = .ok p ∧ payload c maxTokens r streamed = .ok q
      ∧ p.member? "system" = (if system.isEmpty then none else some (.arr system))
      ∧ p.member? "messages" = some (.arr (turns.map (Turn.json "content")))
      ∧ SentAs (c.system = true) Eq system s ∧ List.Forall₂ (TurnSent c) turns us
      ∧ (∀ b ∈ system, IsResultBlock b → ∃ bs, s = .arr bs ∧ b ∈ bs)
      ∧ q = (p.insert "messages" (.arr us)).modify "system" (fun _ => s)
      ∧ p.member? "max_tokens" = some (.nat (r.sampling.maxTokens.getD maxTokens))
      ∧ q.member? "max_tokens" = some (.nat (r.sampling.maxTokens.getD maxTokens)) := by
  obtain ⟨_, hnever⟩ := exists_payload_iff (c := .never).2 h
  obtain ⟨p, hp, -⟩ := payload_eq_ok_iff.1 hnever
  obtain ⟨hsorted, conv, hconv, hsystem, hmessages, hbound⟩ := members_of_plainPayload hp
  obtain ⟨said, hsaid, harranged⟩ := arranged_of_conversation hconv
  obtain ⟨hsystemBlocks, hturnBlocks⟩ := isBlock_of_arranged harranged hsaid
  have hq := payload_eq_ok_iff.2 ⟨_, plainPayload_of_conversation hconv hp c.system, rfl⟩
  have hsent : List.Forall₂ (TurnSent c) conv.turns
      (conv.turns.map fun t => sentMessage c (t.json "content")) := by
    rw [List.forall₂_map_right_iff, List.forall₂_same]
    exact fun t ht => turnSent_sentMessage (role_of_arranged harranged ht) (hturnBlocks t ht)
  have hsays : SentAs (c.system = true) Eq conv.system
      (if c.system then (Json.arr conv.system).collapsed else .arr conv.system) :=
    sentAs_collapsed Iff.rfl hsystemBlocks
  refine ⟨said, _, _, p, _, _, _, hsaid, harranged, payload_never hp hsorted, hq, hsystem,
    hmessages, hsays, hsent, fun _ => hsays.mem_of_isResultBlock, ?_, hbound, ?_⟩
  · rw [hsorted.modify_modify_of_ne (by decide), Json.modify_of_member? hmessages, Json.mapItems,
      List.map_map]
    rfl
  · rw [Json.member?_modify_of_ne (by decide), Json.member?_modify_of_ne (by decide), hbound]

section Forecast

/-- The result of a tool is merged with what the user says then. -/
def forecastRequest : ChatRequest := .of "claude" [
  .of .system (.text "Be brief."), .of .user (.text "Will it rain?"),
  .of .assistant (.parts [.toolCall "a" "look" (.obj [])]), .toolResult "a" "It will.",
  .of .user (.text "Thanks."), .of .assistant (.text "Take care.")]

/-- What its turns contain once those of the user, and results, are collapsed. -/
def forecastContents : List (Option Json) := [some (.str "Will it rain?"),
  some (.arr [callBlock "a" "look" (.obj [])]),
  some (.arr [(resultBlock "a" "It will." false).insert "content" (.str "It will."),
    textBlock "Thanks."]),
  some (.arr [textBlock "Take care."])]

theorem forecast_sent :
    Accepts forecastRequest
    ∧ ∃ q us turns, payload ⟨true, true, false, true⟩ 1024 forecastRequest true = .ok q
      ∧ List.Forall₂ (TurnSent ⟨true, true, false, true⟩) turns us
      ∧ q.member? "system" = some (.str "Be brief.")
      ∧ q.member? "messages" = some (.arr us) ∧ us.map (·.member? "content") = forecastContents
      ∧ q.member? "max_tokens" = some (.nat 1024) := by
  have haccepts : Accepts forecastRequest := by
    refine ⟨?_, ⟨.of .user (.text "Will it rain?"), by simp [forecastRequest, ChatRequest.of],
      by decide⟩, List.nodup_nil⟩
    simp [forecastRequest, ChatRequest.of, Message.of, Message.toolResult, Representable, Sayable,
      Json.isObj]
  obtain ⟨_, _, turns, p, q, _, us, -, -, -, hq, -, hmessages, -, hsent, -, hframe, -, hbound⟩ :=
    contents_sent ⟨true, true, false, true⟩ 1024 true haccepts
  have hus : q.member? "messages" = some (.arr us) := by
    rw [hframe, Json.member?_modify_of_ne (by decide), Json.member?_insert_self hmessages]
  refine ⟨haccepts, q, us, turns, hq, hsent, ?_, hus, ?_, hbound⟩
  · rw [← toOption_bind_of_eq_ok hq (·.member? "system")]
    decide +kernel
  · have hcontents : (payload ⟨true, true, false, true⟩ 1024 forecastRequest true).toOption.bind
        (fun q => (q.get "messages").arr?.map (·.map (·.member? "content"))) =
        some forecastContents := by decide +kernel
    rw [toOption_bind_of_eq_ok hq] at hcontents
    simpa [Json.get, hus, Json.arr?] using hcontents

/-- A forecast that the system gives itself, as the result of a tool. -/
def noticeRequest : ChatRequest := .of "claude" [
  .of .system (.parts [.toolResult "a" "It will." false]), .of .user (.text "Will it rain?")]

/-- A result that the system gives keeps its list though results are to be collapsed. -/
theorem notice_listed :
    Accepts noticeRequest
    ∧ IsResultBlock (resultBlock "a" "It will." false)
    ∧ (resultBlock "a" "It will." false).member? "content" = some (.arr [textBlock "It will."])
    ∧ ∃ q, payload ⟨false, false, false, true⟩ 1024 noticeRequest false = .ok q
      ∧ q.member? "system" = some (.arr [resultBlock "a" "It will." false]) := by
  have haccepts : Accepts noticeRequest := by
    refine ⟨?_, ⟨.of .user (.text "Will it rain?"), by simp [noticeRequest, ChatRequest.of],
      by decide⟩, List.nodup_nil⟩
    simp [noticeRequest, ChatRequest.of, Message.of, Representable, Sayable]
  obtain ⟨q, hq⟩ := exists_payload_iff (c := ⟨false, false, false, true⟩).2 haccepts
  refine ⟨haccepts, rfl, rfl, q, hq, ?_⟩
  rw [← toOption_bind_of_eq_ok hq (·.member? "system")]
  decide +kernel

end Forecast

end Anthropic

end Switchboard
