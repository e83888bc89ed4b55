import Switchboard.Proofs.Dialect.OpenAI.Readback
import Switchboard.Proofs.Dialect.Requests
import Switchboard.Proofs.Json.Objects

/-!
# What collapsing leaves alone

Collapsing changes a content only if it is one text (`Json.IsOnlyText`), and of a message only that
content, if the flag of its role is set (`Collapse.Rewrites`). Flags act each for itself: collapsing
for some and then for others is collapsing for all of them at once, on any payload
(`Collapse.payload_payload`), so it does nothing a second time. In the chat completions dialect a
payload is therefore the one with no flags but for the contents that the flags name
(`OpenAI.payload_collapsed`).
-/

namespace Switchboard

namespace Json

variable {j : Json}

section OnlyText

variable {t : String}

/-- A content that is one text part and nothing else. -/
def IsOnlyText (content : Json) (t : String) : Prop :=
  ∃ part, content = arr [part] ∧ part.member? "type" = some (str "text")
    ∧ part.member? "text" = some (str t)

theorem string?_eq_some_iff : j.string? key = some t ↔ j.member? key = some (str t) := by
  rw [string?, get]
  cases j.member? key with
  | none => simp [str?]
  | some v => cases v <;> simp [str?]

theorem onlyText?_eq_some_iff : j.onlyText? = some t ↔ j.IsOnlyText t := by
  constructor
  · intro h
    unfold onlyText? at h
    split at h
    · split_ifs at h with htype
      exact ⟨_, rfl, string?_eq_some_iff.1 htype, string?_eq_some_iff.1 h⟩
    · cases h
  · rintro ⟨part, rfl, htype, htext⟩
    rw [onlyText?, if_pos (string?_eq_some_iff.2 htype), string?_eq_some_iff.2 htext]

theorem collapsed_of_isOnlyText (h : j.IsOnlyText t) : j.collapsed = str t := by
  rw [collapsed, onlyText?_eq_some_iff.2 h]

theorem collapsed_of_not_isOnlyText (h : ∀ t, ¬j.IsOnlyText t) : j.collapsed = j := by
  unfold collapsed
  split
  · rename_i t ht
    exact absurd (onlyText?_eq_some_iff.1 ht) (h t)
  · rfl

theorem collapsed_collapsed (j : Json) : j.collapsed.collapsed = j.collapsed := by
  by_cases h : ∃ t, j.IsOnlyText t
  · obtain ⟨t, ht⟩ := h
    rw [collapsed_of_isOnlyText ht]
    rfl
  · rw [collapsed_of_not_isOnlyText (not_exists.1 h), collapsed_of_not_isOnlyText (not_exists.1 h)]

end OnlyText

end Json

namespace Collapse

variable {c e : Collapse}

theorem union_self (c : Collapse) : c.union c = c := by
  simp [union]

theorem union_comm (c e : Collapse) : c.union e = e.union c := by
  simp [union, Bool.or_comm]

theorem ofRole_union (c e : Collapse) (role : Role) :
    (c.union e).ofRole role = (c.ofRole role || e.ofRole role) := by
  cases role <;> rfl

theorem ofWireRole_union (c e : Collapse) (role : String) :
    (c.union e).ofWireRole role = (c.ofWireRole role || e.ofWireRole role) := by
  unfold ofWireRole
  split
  · exact ofRole_union c e _
  · rfl

theorem ofWireRole_name (c : Collapse) (role : Role) : c.ofWireRole role.name = c.ofRole role := by
  have hparse : Role.parse role.name = .ok role := by cases role <;> decide +kernel
  rw [ofWireRole, hparse]

section Messages

variable {m : Json} {role : Role}

theorem string?_role_message (c : Collapse) (m : Json) :
    (c.message m).string? "role" = m.string? "role" := by
  unfold message
  split
  · split_ifs
    · rw [Json.string?, Json.get, Json.member?_modify_of_ne (by decide)]
      rfl
    · rfl
  · rfl

/-- The flags of a message's role add up. -/
theorem message_message (c e : Collapse) (m : Json) :
    c.message (e.message m) = (c.union e).message m := by
  have hrole := string?_role_message e m
  cases hm : m.string? "role" with
  | none => simp [message, hm]
  | some role =>
    rw [hm] at hrole
    have htwice : Json.collapsed ∘ Json.collapsed = Json.collapsed :=
      funext Json.collapsed_collapsed
    rw [message, hrole, message, hm, message, hm]
    simp only [ofWireRole_union]
    by_cases he : e.ofWireRole role = true <;> by_cases hc : c.ofWireRole role = true <;>
      simp [he, hc, Json.modify_modify, htwice]

theorem payload_payload (c e : Collapse) (p : Json) :
    c.payload (e.payload p) = (c.union e).payload p := by
  have hitems : Json.mapItems c.message ∘ Json.mapItems e.message =
      Json.mapItems (c.union e).message := by
    funext j
    rw [Function.comp_apply, Json.mapItems_mapItems]
    exact congrArg (Json.mapItems · j) (funext (message_message c e))
  rw [payload, payload, Json.modify_modify, hitems, payload]

/-- What collapsing makes of a message: a content of one text becomes bare if the flag of the
message's role is set, and nothing else about it changes. -/
inductive Rewrites (c : Collapse) : Json → Json → Prop
  | bare {m content : Json} {role : Role} {t : String} :
      m.member? "role" = some (.str role.name) → c.ofRole role = true →
      m.member? "content" = some content → content.IsOnlyText t →
      Rewrites c m (m.insert "content" (.str t))
  | kept {m : Json} :
      (∀ role content t, m.member? "role" = some (.str role.name) → c.ofRole role = true →
        m.member? "content" = some content → ¬content.IsOnlyText t) →
      Rewrites c m m

theorem message_of_role (c : Collapse) (h : m.member? "role" = some (.str role.name)) :
    c.message m = if c.ofRole role then m.modify "content" Json.collapsed else m := by
  rw [message, Json.string?_eq_some_iff.2 h]
  simp only [ofWireRole_name]

theorem rewrites_message (c : Collapse) (horder : m.InOrder)
    (hrole : m.member? "role" = some (.str role.name)) : c.Rewrites m (c.message m) := by
  have hsame : ∀ other : Role, m.member? "role" = some (.str other.name) → other = role :=
    fun other h => by
      have hname : other.name = role.name := by simpa [hrole, eq_comm] using h
      revert hname
      cases other <;> cases role <;> decide
  rw [message_of_role c hrole]
  split_ifs with hflag
  · by_cases honly : ∃ content t, m.member? "content" = some content ∧ content.IsOnlyText t
    · obtain ⟨content, t, hcontent, ht⟩ := honly
      rw [Json.modify_of_member? hcontent, Json.collapsed_of_isOnlyText ht]
      exact .bare hrole hflag hcontent ht
    · rw [Json.modify_id horder fun content hcontent => Json.collapsed_of_not_isOnlyText
        fun t ht => honly ⟨content, t, hcontent, ht⟩]
      exact .kept fun _ content t _ _ hcontent ht => honly ⟨content, t, hcontent, ht⟩
  · exact .kept fun other _ _ hother hset => absurd (hsame other hother ▸ hset) hflag

theorem message_never (m : Json) : never.message m = m := by
  have hnever : ∀ role, never.ofWireRole role = false := fun role => by
    unfold ofWireRole
    split
    · rename_i role _
      cases role <;> rfl
    · rfl
  simp [message, hnever]
  split <;> rfl

theorem payload_never {p : Json} (h : p.InOrder) : never.payload p = p :=
  Json.modify_id h fun messages _ => by
    rw [funext message_never]
    cases messages with
    | arr items => exact congrArg Json.arr (List.map_id items)
    | _ => rfl

end Messages

end Collapse

namespace OpenAI

variable {d : Dialect} {c : Collapse} {r : ChatRequest} {delivery : Delivery} {m : Message}
  {ws : List Json} {w : Json}

theorem role_of_wireMessages (h : wireMessages d m = .ok ws) (hw : w ∈ ws) :
    w.member? "role" = some (.str m.role.name) ∧ w.InOrder := by
  unfold wireMessages at h
  split_ifs at h with hrole
  · split at h
    · cases h
    · obtain ⟨p, -, hp⟩ := exists_source_of_mapM h hw
      cases p with
      | toolResult callId content isError =>
        obtain rfl := Except.ok.inj hp
        exact ⟨by rw [hrole]; rfl, Members.ordered_ofList _⟩
      | _ => cases hp
  · split at h
    · obtain rfl := Except.ok.inj h
      obtain rfl := List.mem_singleton.1 hw
      exact ⟨Json.member?_record (by simp) _, Json.inOrder_record _⟩
    · simp only [bind_eq_ok_iff, pure_eq_ok_iff] at h
      obtain ⟨entries, -, rfl⟩ := h
      obtain rfl := List.mem_singleton.1 hw
      exact ⟨(member?_partsMessage _ _ _).1, Json.inOrder_record _⟩

theorem role_of_messages {ms : List Message} (h : messages d ms = .ok ws) (hw : w ∈ ws) :
    ∃ role : Role, w.member? "role" = some (.str role.name) ∧ w.InOrder := by
  obtain ⟨wss, hwss, rfl⟩ := messages_eq_ok_iff.1 h
  obtain ⟨vs, hvs, hw⟩ := List.mem_flatten.1 hw
  obtain ⟨m, -, hm⟩ := exists_source_of_mapM (mapM_eq_ok_iff.2 hwss) hvs
  exact ⟨m.role, role_of_wireMessages hm hw⟩

theorem messages_of_plainPayload {p : Json} (h : plainPayload d r delivery = .ok p) :
    p.InOrder ∧ ∃ ws, messages d r.messages = .ok ws ∧ p.member? "messages" = some (.arr ws) := by
  simp only [plainPayload, bind_eq_ok_iff, pure_eq_ok_iff] at h
  obtain ⟨ws, hws, ts, -, rfl⟩ := h
  refine ⟨Json.inOrder_record _, ws, hws, ?_⟩
  rw [Json.member?_record]
  · rfl
  · rcases delivery with _ | (_ | _) <;> simp [Delivery.members]

theorem payload_eq_ok_iff {q : Json} :
    payload d c r delivery = .ok q ↔ ∃ p, plainPayload d r delivery = .ok p ∧ c.payload p = q := by
  simp only [payload, bind_eq_ok_iff, pure_eq_ok_iff]

/-- Flags change nothing in a payload but the contents that they name: such a content is the text
of its one part, bare. Payloads are collapsed once and for all: for the same flags again nothing
changes, and for one choice of flags after another as for both at once. -/
theorem payload_collapsed (d : Dialect) (c : Collapse) {r : ChatRequest} (delivery : Delivery)
    (h : Accepts d r) :
    (∃ p q ws vs, payload d .never r delivery = .ok p ∧ payload d c r delivery = .ok q
      ∧ p.member? "messages" = some (.arr ws) ∧ List.Forall₂ c.Rewrites ws vs
      ∧ q = p.insert "messages" (.arr vs))
    ∧ ∀ (e : Collapse) (p : Json), c.payload (c.payload p) = c.payload p
      ∧ c.payload (e.payload p) = (c.union e).payload p
      ∧ e.payload (c.payload p) = (c.union e).payload p := by
  refine ⟨?_, fun e p => ⟨?_, Collapse.payload_payload c e p, ?_⟩⟩
  · obtain ⟨_, hnever⟩ := exists_payload_iff.2 h
    obtain ⟨p, hp, rfl⟩ := payload_eq_ok_iff.1 hnever
    obtain ⟨horder, ws, hws, hmessages⟩ := messages_of_plainPayload hp
    refine ⟨p, _, ws, ws.map c.message, ?_, payload_eq_ok_iff.2 ⟨p, hp, rfl⟩, hmessages, ?_, ?_⟩
    · rw [hnever, Collapse.payload_never horder]
    · rw [List.forall₂_map_right_iff, List.forall₂_same]
      intro w hw
      obtain ⟨role, hrole, hinOrder⟩ := role_of_messages hws hw
      exact Collapse.rewrites_message c hinOrder hrole
    · rw [Collapse.payload, Json.modify_of_member? hmessages, Json.mapItems]
  · rw [Collapse.payload_payload, Collapse.union_self]
  · rw [Collapse.payload_payload, Collapse.union_comm]

section Notes

/-- A content of each kind: one text, a text beside an image, only a call, and the result of it. -/
def noteRequest : ChatRequest := .of "gpt-4o" [
  .of .system (.parts [.text "Be brief."]), .of .user (.parts [.text "Which?"]),
  .of .user (.parts [.text "This?", .image (.ofUrl "https://example.com/cat.png")]),
  .of .assistant (.parts [.toolCall "a" "find" (.obj [])]), .toolResult "a" "a cat"]

/-- What its messages contain once those of users and tools are collapsed. -/
def noteContents : List (Option Json) := [some (.arr [textPart "Be brief."]), some (.str "Which?"),
  some (.arr [textPart "This?", imagePart (.url "https://example.com/cat.png")]), none,
  some (.str "a cat")]

theorem note_collapsed :
    Accepts ⟨.openai, true, true⟩ noteRequest
    ∧ ∃ q ws vs, payload ⟨.openai, true, true⟩ ⟨false, true, false, true⟩ noteRequest .whole = .ok q
      ∧ List.Forall₂ (Collapse.Rewrites ⟨false, true, false, true⟩) ws vs
      ∧ q.member? "messages" = some (.arr vs)
      ∧ vs.map (·.member? "content") = noteContents := by
  have haccepts : Accepts ⟨.openai, true, true⟩ noteRequest := by
    refine ⟨?_, List.nodup_nil⟩
    simp [noteRequest, ChatRequest.of, Message.of, Message.toolResult, Representable, Sayable,
      Resolvable, IsResult, Image.ofUrl]
  obtain ⟨⟨p, q, ws, vs, -, hq, hmessages, hrewrites, hframe⟩, -⟩ :=
    payload_collapsed ⟨.openai, true, true⟩ ⟨false, true, false, true⟩ .whole haccepts
  have hvs : q.member? "messages" = some (.arr vs) := by
    rw [hframe, Json.member?_insert_self hmessages]
  refine ⟨haccepts, q, ws, vs, hq, hrewrites, hvs, ?_⟩
  have hcontents : (payload ⟨.openai, true, true⟩ ⟨false, true, false, true⟩ noteRequest
      .whole).toOption.bind (fun q => (q.get "messages").arr?.map (·.map (·.member? "content"))) =
      some noteContents := by decide +kernel
  rw [toOption_bind_of_eq_ok hq] at hcontents
  simpa [Json.get, hvs, Json.arr?] using hcontents

end Notes

end OpenAI

end Switchboard
