import Switchboard.Dialect.Anthropic.Payload
import Switchboard.Dialect.Google.Payload
import Switchboard.Dialect.OpenAI.Payload
import Switchboard.Proofs.Dialect.Conversations
import Switchboard.Proofs.Dialect.Google.Rounds
import Switchboard.Proofs.Dialect.OpenAI.Messages

/-!
# What can be asked in each dialect

A request has a payload in a dialect or not by what its messages hold, one after the other, and by
the names of its tools (`OpenAI.exists_payload_iff`, `Anthropic.exists_payload_iff`,
`Google.exists_payload_iff`). One without a payload is refused for what cannot be said
(`Untranslated`).
-/

namespace Switchboard

/-- The failure to say something in the dialect of a family: it has no such role, or no words for
it. -/
def Untranslated (family : Family) (f : Failure) : Prop :=
  f = .unsupportedRole family.name "tool" ∨ ∃ text, f = .untranslatable text

namespace Tool

variable {ts : List Tool} {declare : Tool → Json} {f : Failure}

theorem repeatedName?_eq_none_iff : ∀ (ts : List Tool) (seen : List String),
    repeatedName? seen ts = none ↔ (ts.map Tool.name).Nodup ∧ ∀ t ∈ ts, t.name ∉ seen
  | [], seen => by simp [repeatedName?]
  | t :: ts, seen => by
    have hrest := repeatedName?_eq_none_iff ts (t.name :: seen)
    by_cases hseen : t.name ∈ seen
    · simp [repeatedName?, hseen]
    · rw [repeatedName?, if_neg (by simpa using hseen), hrest, List.map_cons, List.nodup_cons,
        List.forall_mem_cons]
      simp only [List.mem_cons, not_or, List.mem_map, not_exists, not_and]
      grind

theorem declareDistinct_eq_ok_iff {ds : List Json} :
    declareDistinct declare ts = .ok ds ↔ (ts.map Tool.name).Nodup ∧ ts.map declare = ds := by
  have hnone := repeatedName?_eq_none_iff ts []
  unfold declareDistinct
  cases hrepeated : repeatedName? [] ts <;> simp [hrepeated] at hnone ⊢ <;> simp [hnone]

theorem exists_declareDistinct_iff :
    (∃ ds, declareDistinct declare ts = .ok ds) ↔ (ts.map Tool.name).Nodup := by
  simp [declareDistinct_eq_ok_iff]

theorem untranslatable_of_declareDistinct (h : declareDistinct declare ts = .error f) :
    ∃ text, f = .untranslatable text := by
  unfold declareDistinct at h
  split at h
  · exact ⟨_, (Except.error.inj h).symm⟩
  · cases h

end Tool

namespace Turn

theorem merge_eq_nil_iff {ts : List Turn} : merge ts = [] ↔ ts = [] := by
  rcases ts with _ | ⟨t, ts⟩
  · simp [merge]
  · obtain ⟨blocks, rest, hmerge⟩ := exists_merge_cons t ts
    simp [hmerge]

theorem spoken_eq_nil_iff {speaker : String} {said : List (Role × List Json)} :
    spoken speaker said = [] ↔ ∀ role ∈ said.map Prod.fst, role = .system := by
  rw [spoken, List.filterMap_eq_nil_iff, List.forall_mem_map]
  refine forall₂_congr fun s _ => ?_
  cases s.1 <;> simp [Role.wire?]

end Turn

namespace OpenAI

variable {d : Dialect} {c : Collapse} {r : ChatRequest} {delivery : Delivery} {f : Failure}

/-- A request that an endpoint of the chat completions dialect can be told. -/
structure Accepts (d : Dialect) (r : ChatRequest) : Prop where
  messages : ∀ m ∈ r.messages, Representable d m
  tools : (r.sampling.tools.map Tool.name).Nodup

theorem exists_messages_iff {ms : List Message} :
    (∃ ws, OpenAI.messages d ms = .ok ws) ↔ ∀ m ∈ ms, Representable d m := by
  rw [OpenAI.messages, exists_bind_pure_iff, exists_mapM_eq_ok_iff]
  simp only [exists_wireMessages_iff]

theorem exists_payload_iff : (∃ b, payload d c r delivery = .ok b) ↔ Accepts d r := by
  have htools : (∃ ts, tools r.sampling.tools = .ok ts) ↔ (r.sampling.tools.map Tool.name).Nodup :=
    Tool.exists_declareDistinct_iff
  rw [payload, exists_bind_pure_iff]
  simp only [plainPayload, bind_eq_ok_iff, pure_eq_ok_iff]
  constructor
  · rintro ⟨_, ms, hms, ts, hts, -⟩
    exact ⟨exists_messages_iff.1 ⟨ms, hms⟩, htools.1 ⟨ts, hts⟩⟩
  · rintro ⟨hmessages, hnodup⟩
    obtain ⟨ms, hms⟩ := exists_messages_iff.2 hmessages
    obtain ⟨ts, hts⟩ := htools.2 hnodup
    exact ⟨_, ms, hms, ts, hts, rfl⟩

theorem untranslated_of_messages {ms : List Message} (h : OpenAI.messages d ms = .error f) :
    Untranslated d.family f := by
  obtain ⟨-, m, -, -, -, hm⟩ := mapM_eq_error_iff.1 (messages_eq_error_iff.1 h)
  have hrefusal := refusal_of_wireMessages hm
  split_ifs at hrefusal
  · exact .inl hrefusal
  · exact .inr hrefusal

theorem untranslated_of_payload (h : payload d c r delivery = .error f) :
    Untranslated d.family f := by
  simp only [payload, plainPayload, bind_eq_error_iff, pure, Except.pure, reduceCtorEq, and_false,
    exists_false, or_false] at h
  rcases h with h | ⟨_, -, h⟩
  · exact untranslated_of_messages h
  · exact .inr (Tool.untranslatable_of_declareDistinct h)

end OpenAI

namespace Anthropic

variable {c : Collapse} {maxTokens : Nat} {r : ChatRequest} {streamed : Bool} {m : Message}
  {p : Part} {role : Role} {f : Failure}

/-- What may stand in a message of a role. -/
def Sayable (role : Role) : Part → Prop
  | .text _ | .toolResult .. => True
  | .image image => OpenAI.Resolvable image
  | .toolCall _ _ arguments => role = .assistant ∧ arguments.isObj = true

/-- A message that can be told by itself: a bare text is of no tool. -/
def Representable (m : Message) : Prop :=
  match m.content with
  | .text _ => m.role ≠ .tool
  | .parts parts => ∀ p ∈ parts, Sayable m.role p

/-- A request that an endpoint of the messages dialect can be told. -/
structure Accepts (r : ChatRequest) : Prop where
  messages : ∀ m ∈ r.messages, Representable m
  turns : ∃ m ∈ r.messages, m.role ≠ .system
  tools : (r.sampling.tools.map Tool.name).Nodup

theorem exists_block_iff : (∃ j, block role p = .ok j) ↔ Sayable role p := by
  cases p with
  | text t => simp [block, Sayable]
  | image image => rw [block, exists_bind_pure_iff, OpenAI.exists_source_iff, Sayable]
  | toolCall id name arguments =>
    by_cases hrole : role = .assistant
    · by_cases harguments : arguments.isObj = true <;> simp [block, Sayable, hrole, harguments]
    · simp [block, Sayable, hrole]
  | toolResult callId content isError => simp [block, Sayable]

theorem untranslatable_of_block {j : Failure} (h : block role p = .error j) :
    ∃ text, j = .untranslatable text := by
  cases p with
  | text t => cases h
  | image image =>
    rcases bind_eq_error_iff.1 h with h | ⟨source, -, h⟩
    · exact OpenAI.untranslatable_of_source h
    · cases h
  | toolCall id name arguments =>
    simp only [block] at h
    split_ifs at h
    · exact ⟨_, (Except.error.inj h).symm⟩
    · exact ⟨_, (Except.error.inj h).symm⟩
  | toolResult callId content isError => cases h

theorem exists_blocks_iff : (∃ js, blocks m = .ok js) ↔ Representable m := by
  unfold blocks Representable
  cases m.content with
  | text t => by_cases hrole : m.role = .tool <;> simp [hrole]
  | parts parts => simp only [exists_mapM_eq_ok_iff, exists_block_iff]

theorem untranslatable_of_blocks (h : blocks m = .error f) : ∃ text, f = .untranslatable text := by
  unfold blocks at h
  split at h
  · split_ifs at h
    exact ⟨_, (Except.error.inj h).symm⟩
  · obtain ⟨-, p, -, -, -, hp⟩ := mapM_eq_error_iff.1 h
    exact untranslatable_of_block hp

theorem exists_translate_iff {ms : List Message} :
    (∃ c, translate ms = .ok c) ↔ ∀ m ∈ ms, Representable m := by
  rw [translate, exists_bind_pure_iff, exists_mapM_eq_ok_iff]
  simp only [exists_bind_pure_iff, exists_blocks_iff]

theorem untranslatable_of_translate {ms : List Message} (h : translate ms = .error f) :
    ∃ text, f = .untranslatable text := by
  rcases bind_eq_error_iff.1 h with h | ⟨_, -, h⟩
  · obtain ⟨-, m, -, -, -, hm⟩ := mapM_eq_error_iff.1 h
    rcases bind_eq_error_iff.1 hm with hm | ⟨_, -, hm⟩
    · exact untranslatable_of_blocks hm
    · cases hm
  · cases h

theorem roles_of_said {ms : List Message} {said : List (Role × List Json)} (h : Said ms said) :
    said.map Prod.fst = ms.map Message.role := by
  induction h with
  | nil => rfl
  | cons hm _ ih => rw [List.map_cons, List.map_cons, hm.1, ih]

/-- A conversation has turns unless only the system speaks in it. -/
theorem turns_eq_nil_iff {ms : List Message} {c : Conversation} (h : translate ms = .ok c) :
    c.turns = [] ↔ ∀ m ∈ ms, m.role = .system := by
  obtain ⟨said, hsaid, rfl⟩ := translate_eq_ok_iff.1 h
  rw [Turn.merge_eq_nil_iff, Turn.spoken_eq_nil_iff, roles_of_said hsaid, List.forall_mem_map]

theorem conversation_eq_ok_iff {ms : List Message} {c : Conversation} :
    conversation ms = .ok c ↔ translate ms = .ok c ∧ ∃ m ∈ ms, m.role ≠ .system := by
  have hturns : ∀ {c : Conversation}, translate ms = .ok c →
      (c.turns.isEmpty = true ↔ ¬∃ m ∈ ms, m.role ≠ .system) := fun h => by
    rw [List.isEmpty_iff, turns_eq_nil_iff h]
    simp
  simp only [conversation, bind_eq_ok_iff]
  constructor
  · rintro ⟨_, hc, h⟩
    split_ifs at h with hempty
    obtain rfl := pure_eq_ok_iff.1 h
    exact ⟨hc, not_not.1 ((hturns hc).not.1 hempty)⟩
  · rintro ⟨hc, hsome⟩
    exact ⟨c, hc, if_neg fun hempty => (hturns hc).1 hempty hsome⟩

theorem untranslatable_of_conversation {ms : List Message} (h : conversation ms = .error f) :
    ∃ text, f = .untranslatable text := by
  rcases bind_eq_error_iff.1 h with h | ⟨_, -, h⟩
  · exact untranslatable_of_translate h
  · split_ifs at h
    · exact ⟨_, (Except.error.inj h).symm⟩
    · cases h

theorem exists_payload_iff :
    (∃ b, payload c maxTokens r streamed = .ok b) ↔ Accepts r := by
  have htools : (∃ ts, tools r.sampling.tools = .ok ts) ↔ (r.sampling.tools.map Tool.name).Nodup :=
    Tool.exists_declareDistinct_iff
  rw [payload, exists_bind_pure_iff]
  simp only [plainPayload, bind_eq_ok_iff, pure_eq_ok_iff]
  constructor
  · rintro ⟨_, spoken, hspoken, ts, hts, -⟩
    obtain ⟨htranslated, hturns⟩ := conversation_eq_ok_iff.1 hspoken
    exact ⟨exists_translate_iff.1 ⟨_, htranslated⟩, hturns, htools.1 ⟨ts, hts⟩⟩
  · rintro ⟨hmessages, hturns, hnodup⟩
    obtain ⟨spoken, hspoken⟩ := exists_translate_iff.2 hmessages
    obtain ⟨ts, hts⟩ := htools.2 hnodup
    exact ⟨_, spoken, conversation_eq_ok_iff.2 ⟨hspoken, hturns⟩, ts, hts, rfl⟩

theorem untranslatable_of_payload (h : payload c maxTokens r streamed = .error f) :
    ∃ text, f = .untranslatable text := by
  simp only [payload, plainPayload, bind_eq_error_iff, pure, Except.pure, reduceCtorEq, and_false,
    exists_false, or_false] at h
  rcases h with h | ⟨_, -, h⟩
  · exact untranslatable_of_conversation h
  · exact Tool.untranslatable_of_declareDistinct h

end Anthropic

namespace Google

/-- What may stand in a message after some calls. A result needs one with its id. -/
def Sayable (calls : Calls) : Part → Prop
  | .text _ | .toolCall .. => True
  | .image image => Taken image
  | .toolResult callId _ _ => ∃ name, (callId, name) ∈ calls

/-- A message that can be told after some calls: a bare text is of no tool, and each part can be
told after the calls in those before it. -/
def Representable (calls : Calls) (m : Message) : Prop :=
  match m.content with
  | .text _ => m.role ≠ .tool
  | .parts parts => ∀ before p after, parts = before ++ p :: after →
    Sayable (made before ++ calls) p

/-- A request that an endpoint of the content dialect can be told: each message can be told after
the calls in those before it. -/
def Accepts (r : ChatRequest) : Prop :=
  ∀ before m after, r.messages = before ++ m :: after → Representable (callsIn before) m

variable {calls : Calls} {p : Part} {m : Message} {r : ChatRequest} {f : Failure}

theorem forall_split_cons_iff {α : Type} {x : α} {xs : List α} {P : List α → α → Prop} :
    (∀ before y after, x :: xs = before ++ y :: after → P before y) ↔
      P [] x ∧ ∀ before y after, xs = before ++ y :: after → P (x :: before) y := by
  constructor
  · intro h
    exact ⟨h [] x xs rfl, fun before y after heq => h (x :: before) y after (by simp [heq])⟩
  · rintro ⟨hx, hxs⟩ (_ | ⟨z, before⟩) y after heq
    · obtain ⟨rfl, -⟩ := List.cons.inj heq
      exact hx
    · obtain ⟨rfl, htail⟩ := List.cons.inj heq
      exact hxs before y after htail

theorem exists_lookup_iff {key : String} :
    (∃ name, calls.lookup key = some name) ↔ ∃ name, (key, name) ∈ calls := by
  rw [← Option.isSome_iff_exists, List.lookup_isSome_iff]
  simp

theorem exists_imagePart_iff {source : ImageSource} : (∃ j, imagePart source = .ok j) ↔
    ∀ url, source = .url url → (mimeTypeOfUrl? url).isSome := by
  cases source with
  | base64 mimeType data => simp [imagePart]
  | url url => cases hmime : mimeTypeOfUrl? url <;> simp [imagePart, hmime]

theorem untranslatable_of_imagePart {source : ImageSource} (h : imagePart source = .error f) :
    ∃ text, f = .untranslatable text := by
  unfold imagePart at h
  split at h
  · cases h
  · split at h
    · cases h
    · exact ⟨_, (Except.error.inj h).symm⟩

theorem exists_wirePart_iff : (∃ x, wirePart calls p = .ok x) ↔ Sayable calls p := by
  cases p with
  | text t => simp [wirePart, Sayable]
  | toolCall id name arguments => simp [wirePart, Sayable]
  | image image =>
    simp only [wirePart, bind_eq_ok_iff, pure_eq_ok_iff, Sayable, Taken, ← exists_imagePart_iff]
    constructor
    · rintro ⟨_, source, hsource, j, hj, -⟩
      exact ⟨source, hsource, j, hj⟩
    · rintro ⟨source, hsource, j, hj⟩
      exact ⟨_, source, hsource, j, hj, rfl⟩
  | toolResult callId content isError =>
    rw [Sayable, ← exists_lookup_iff]
    cases hname : calls.lookup callId <;> simp [wirePart, hname]

theorem untranslatable_of_wirePart (h : wirePart calls p = .error f) :
    ∃ text, f = .untranslatable text := by
  cases p with
  | text t => cases h
  | toolCall id name arguments => cases h
  | image image =>
    rcases bind_eq_error_iff.1 h with h | ⟨source, -, h⟩
    · exact OpenAI.untranslatable_of_source h
    · rcases bind_eq_error_iff.1 h with h | ⟨j, -, h⟩
      · exact untranslatable_of_imagePart h
      · cases h
  | toolResult callId content isError =>
    simp only [wirePart] at h
    split at h
    · cases h
    · exact ⟨_, (Except.error.inj h).symm⟩

theorem exists_wireParts_iff : ∀ {parts : List Part} {calls : Calls},
    (∃ x, wireParts calls parts = .ok x) ↔
      ∀ before p after, parts = before ++ p :: after → Sayable (made before ++ calls) p
  | [], calls => by simp [wireParts]
  | p :: parts, calls => by
    have hrest : (∀ before q after, parts = before ++ q :: after →
        Sayable (made (p :: before) ++ calls) q) ↔
          ∃ x, wireParts (made [p] ++ calls) parts = .ok x := by
      rw [exists_wireParts_iff]
      refine forall₃_congr fun before q after => ?_
      rw [← List.append_assoc, ← made_append]
      rfl
    rw [forall_split_cons_iff, hrest, show made [] ++ calls = calls from rfl, ← exists_wirePart_iff]
    simp only [wireParts, bind_eq_ok_iff, pure_eq_ok_iff, Prod.exists]
    constructor
    · rintro ⟨_, _, j, next, hp, js, last, hjs, -⟩
      rw [← wirePart_calls hp]
      exact ⟨⟨j, next, hp⟩, js, last, hjs⟩
    · rintro ⟨⟨j, next, hp⟩, js, last, hjs⟩
      rw [← wirePart_calls hp] at hjs
      exact ⟨_, _, j, next, hp, js, last, hjs, rfl⟩

theorem untranslatable_of_wireParts : ∀ {parts : List Part} {calls : Calls},
    wireParts calls parts = .error f → ∃ text, f = .untranslatable text
  | [], _, h => by cases h
  | p :: parts, calls, h => by
    rcases bind_eq_error_iff.1 h with h | ⟨_, -, h⟩
    · exact untranslatable_of_wirePart h
    · rcases bind_eq_error_iff.1 h with h | ⟨_, -, h⟩
      · exact untranslatable_of_wireParts h
      · cases h

theorem exists_messageParts_iff :
    (∃ x, messageParts calls m = .ok x) ↔ Representable calls m := by
  unfold messageParts Representable
  cases m.content with
  | text t => by_cases hrole : m.role = .tool <;> simp [hrole]
  | parts parts => exact exists_wireParts_iff

theorem untranslatable_of_messageParts (h : messageParts calls m = .error f) :
    ∃ text, f = .untranslatable text := by
  unfold messageParts at h
  split at h
  · split_ifs at h
    exact ⟨_, (Except.error.inj h).symm⟩
  · exact untranslatable_of_wireParts h

theorem exists_translateAfter_iff : ∀ ms before : List Message,
    (∃ said, translateAfter (callsIn before) ms = .ok said) ↔
      ∀ first m after, ms = first ++ m :: after → Representable (callsIn (before ++ first)) m
  | [], before => by simp [translateAfter]
  | m :: ms, before => by
    have hafter : ∀ {parts : List Json} {calls : Calls},
        messageParts (callsIn before) m = .ok (parts, calls) → calls = callsIn (before ++ [m]) :=
      fun h => by rw [messageParts_calls h, callsIn_append]
    have hrest := exists_translateAfter_iff ms (before ++ [m])
    simp only [List.append_assoc, List.singleton_append] at hrest
    rw [forall_split_cons_iff, ← hrest, List.append_nil, ← exists_messageParts_iff]
    simp only [translateAfter, bind_eq_ok_iff, pure_eq_ok_iff, Prod.exists]
    constructor
    · rintro ⟨_, parts, calls, hm, said, hsaid, -⟩
      rw [hafter hm] at hsaid
      exact ⟨⟨parts, calls, hm⟩, said, by simpa using hsaid⟩
    · rintro ⟨⟨parts, calls, hm⟩, said, hsaid⟩
      refine ⟨_, parts, calls, hm, said, ?_, rfl⟩
      rw [hafter hm]
      simpa using hsaid

theorem untranslatable_of_translateAfter : ∀ {ms : List Message} {calls : Calls},
    translateAfter calls ms = .error f → ∃ text, f = .untranslatable text
  | [], _, h => by cases h
  | m :: ms, calls, h => by
    rcases bind_eq_error_iff.1 h with h | ⟨_, -, h⟩
    · exact untranslatable_of_messageParts h
    · rcases bind_eq_error_iff.1 h with h | ⟨_, -, h⟩
      · exact untranslatable_of_translateAfter h
      · cases h

theorem exists_payload_iff : (∃ b, payload r = .ok b) ↔ Accepts r := by
  rw [payload, exists_bind_pure_iff, conversation, exists_bind_pure_iff]
  exact exists_translateAfter_iff _ []

theorem untranslatable_of_payload (h : payload r = .error f) :
    ∃ text, f = .untranslatable text := by
  rcases bind_eq_error_iff.1 h with h | ⟨_, -, h⟩
  · rcases bind_eq_error_iff.1 h with h | ⟨_, -, h⟩
    · exact untranslatable_of_translateAfter h
    · cases h
  · cases h

end Google

end Switchboard
