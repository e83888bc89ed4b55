import Switchboard.Chat.Request
import Switchboard.Proofs.Chat.Messages
import Switchboard.Proofs.Chat.Tools

/-!
# Requests written and read

The fields of a request and those of its sampling share one object. The former are read in the order
they stand in, each on its own (`ChatRequest.fields_recorded`), the latter by their names
(`Sampling.ofFields_recorded`). A request that was read is read again from what is written of it
(`ChatRequest.read_json_of_read`).
-/

namespace Switchboard

open Document

namespace Sampling

structure WellFormed (s : Sampling) : Prop where
  maxTokens : ∀ n ∈ s.maxTokens, n < Nat.pow 2 32
  tools : ∀ t ∈ s.tools, t.WellFormed

/-- The numbers are such as can be written. -/
structure Finite (s : Sampling) : Prop where
  temperature : ∀ x ∈ s.temperature, x.isFinite = true
  topP : ∀ x ∈ s.topP, x.isFinite = true

theorem wellFormed_of_ofFields {fs : List (String × Document)} {s : Sampling}
    (h : ofFields fs = .ok s) : s.WellFormed := by
  simp only [ofFields, bind_eq_ok_iff, pure_eq_ok_iff] at h
  obtain ⟨_, -, maxTokens, hmaxTokens, _, -, _, -, tools, htools, rfl⟩ := h
  refine ⟨fun n hn => ?_, fun t ht => ?_⟩
  · obtain ⟨d, hd⟩ := exists_read_of_fieldOption hmaxTokens n hn
    exact lt_of_nat32 hd
  · rcases exists_read_of_fieldOr htools with rfl | ⟨d, hd⟩
    · simp at ht
    · obtain ⟨d, hd⟩ := exists_read_of_list hd t ht
      exact Tool.wellFormed_of_read hd

theorem canonical_of_mem {s : Sampling} (h : s.WellFormed) :
    ∀ m ∈ s.members, ∀ j ∈ m.2, j.Canonical := by
  have hsingle : ∀ x, (Json.single x).Canonical := fun x => by
    unfold Json.single
    split_ifs <;> trivial
  intro m hm j hj
  simp only [members, List.mem_cons, List.not_mem_nil, or_false] at hm
  rcases hm with rfl | rfl | rfl | rfl | rfl
  · obtain ⟨x, -, rfl⟩ := Option.map_eq_some_iff.1 hj
    exact hsingle x
  · obtain ⟨n, -, rfl⟩ := Option.map_eq_some_iff.1 hj
    trivial
  · obtain ⟨x, -, rfl⟩ := Option.map_eq_some_iff.1 hj
    exact hsingle x
  · obtain ⟨-, hstop⟩ := Option.ite_none_left_eq_some.1 hj
    obtain rfl := Option.some.inj hstop
    exact Json.canonical_strings s.stop
  · obtain ⟨-, htools⟩ := Option.ite_none_left_eq_some.1 hj
    obtain rfl := Option.some.inj htools
    exact Json.canonical_arr_map fun t ht => Tool.canonical_json (h.tools t ht)

/-- What is read of the sampling depends on its own fields only. -/
theorem ofFields_recorded {s : Sampling} (h : s.WellFormed) (hfinite : s.Finite)
    {ms : List (String × Option Json)} (hkeys : (ms.map Prod.fst).Nodup)
    (hsame : ∀ name ∈ fieldNames, Members.lookup name ms = Members.lookup name s.members) :
    ofFields (Json.documentMembers (Json.recorded ms)) = .ok s := by
  have htemperature :=
    fieldOption_recorded "temperature" single hkeys (hsame "temperature" (by simp [fieldNames]))
  have hmaxTokens :=
    fieldOption_recorded "max_tokens" nat32 hkeys (hsame "max_tokens" (by simp [fieldNames]))
  have htopP := fieldOption_recorded "top_p" single hkeys (hsame "top_p" (by simp [fieldNames]))
  have hstop := fieldOr_recorded [] "stop" (list string) hkeys
    (hsame "stop" (by simp [fieldNames]))
  have htools := fieldOr_recorded [] "tools" (list Tool.read) hkeys
    (hsame "tools" (by simp [fieldNames]))
  rw [optional_single hfinite.temperature] at htemperature
  rw [optional_nat32 h.maxTokens] at hmaxTokens
  rw [optional_single hfinite.topP] at htopP
  rw [list_strings] at hstop
  rw [list_unless_empty Tool.json fun t ht => Tool.read_json (h.tools t ht)] at htools
  rw [ofFields]
  simp only [bind_eq_ok_iff]
  exact ⟨_, htemperature, _, hmaxTokens, _, htopP, _, hstop, _, htools, rfl⟩

end Sampling

namespace ChatRequest

structure WellFormed (r : ChatRequest) : Prop where
  messages : ∀ m ∈ r.messages, m.content.WellFormed
  sampling : r.sampling.WellFormed

theorem wellFormed_of_step {s s' : Fields} {key : String} {d : Document}
    (h : ∀ messages, s.messages = some messages → ∀ m ∈ messages, m.content.WellFormed)
    (hstep : step s key d = .ok s') :
    ∀ messages, s'.messages = some messages → ∀ m ∈ messages, m.content.WellFormed := by
  unfold step at hstep
  split at hstep <;> obtain ⟨value, hvalue, hstep⟩ := bind_eq_ok_iff.1 hstep <;>
    obtain rfl := Except.ok.inj hstep
  · exact h
  · exact h
  · intro messages hmessages m hm
    obtain rfl := Option.some.inj hmessages
    obtain ⟨d, hd⟩ := exists_read_of_list hvalue m hm
    exact Message.wellFormed_of_read hd
  · exact h

theorem wellFormed_of_read {d : Document} {r : ChatRequest} (h : read d = .ok r) :
    r.WellFormed := by
  obtain ⟨ms, -, h⟩ := bind_eq_ok_iff.1 h
  obtain ⟨fields, hfields, h⟩ := bind_eq_ok_iff.1 h
  split at h
  · rename_i model messages hmodel hmessages
    simp only [bind_eq_ok_iff, pure_eq_ok_iff, misfitOnly_eq_ok_iff] at h
    obtain ⟨sampling, hsampling, rfl⟩ := h
    refine ⟨?_, Sampling.wellFormed_of_ofFields hsampling⟩
    exact foldMembers_induction (fun _ _ _ _ => wellFormed_of_step) (by simp) hfields _ hmessages
  · simp at h

/-- The fields read so far with one more of a request's. -/
def put (r : ChatRequest) (key : String) (s : Fields) : Fields :=
  match key with
  | "id" => { s with id := some r.id }
  | "model" => { s with model := some r.model }
  | "messages" => { s with messages := some r.messages }
  | _ => { s with stream := some r.stream }

theorem foldl_put (r : ChatRequest) (keys : List String) (s : Fields) :
    keys.foldl (fun s key => if key ∈ fieldNames then r.put key s else s) s =
      ⟨if "id" ∈ keys then some r.id else s.id, if "model" ∈ keys then some r.model else s.model,
        if "messages" ∈ keys then some r.messages else s.messages,
        if "stream" ∈ keys then some r.stream else s.stream⟩ := by
  induction keys generalizing s with
  | nil => rfl
  | cons key rest ih =>
    rw [List.foldl_cons, ih]
    by_cases hknown : key ∈ fieldNames
    · rw [if_pos hknown]
      simp only [fieldNames, List.mem_cons, List.not_mem_nil, or_false] at hknown
      rcases hknown with rfl | rfl | rfl | rfl <;> simp [put]
    · rw [if_neg hknown]
      simp only [fieldNames, List.mem_cons, List.not_mem_nil, or_false, not_or] at hknown
      simp [Ne.symm hknown.1, Ne.symm hknown.2.1, Ne.symm hknown.2.2.1, Ne.symm hknown.2.2.2]

def members (r : ChatRequest) : List (String × Option Json) :=
  ("id", r.id.map Json.str) :: ("model", some (Json.str r.model)) ::
    ("messages", some (Json.arr (r.messages.map Message.json))) ::
    ("stream", some (Json.bool r.stream)) :: r.sampling.members

theorem nodup_members (r : ChatRequest) : (r.members.map Prod.fst).Nodup := by
  simp [members, Sampling.members]

theorem lookup_of_not_mem {r : ChatRequest} {key : String} (h : key ∉ fieldNames) :
    Members.lookup key r.members = Members.lookup key r.sampling.members := by
  simp only [fieldNames, List.mem_cons, List.not_mem_nil, or_false, not_or] at h
  simp [members, Members.lookup, Ne.symm h.1, Ne.symm h.2.1, Ne.symm h.2.2.1, Ne.symm h.2.2.2]

theorem step_recorded {r : ChatRequest} (h : r.WellFormed) {key : String} {j : Json}
    (hj : Members.lookup key r.members = some (some j)) (hknown : key ∈ fieldNames) (s : Fields) :
    step s key j.document = .ok (r.put key s) := by
  simp only [fieldNames, List.mem_cons, List.not_mem_nil, or_false] at hknown
  rcases hknown with rfl | rfl | rfl | rfl
  · obtain ⟨id, hid, rfl⟩ := Option.map_eq_some_iff.1 (Option.some.inj hj)
    rw [put, hid]
    rfl
  · obtain rfl := Option.some.inj (Option.some.inj hj)
    rfl
  · obtain rfl := Option.some.inj (Option.some.inj hj)
    have hmessages : readAll Message.read (Json.documentItems (r.messages.map Message.json)) =
        .ok r.messages := readAll_documents fun m hm => Message.read_json (h.messages m hm)
    show (do return { s with messages := some (← readAll Message.read _) }) = _
    rw [hmessages]
    rfl
  · obtain rfl := Option.some.inj (Option.some.inj hj)
    rfl

/-- The request's own fields come out whatever fields of the sampling stand between them. -/
theorem fields_recorded {r : ChatRequest} (h : r.WellFormed) :
    foldMembers fieldNames step (fun d => do let _ ← d.held) [] ⟨none, none, none, none⟩
        (Json.documentMembers (Json.recorded r.members)) =
      .ok ⟨r.id.map some, some r.model, some r.messages, some r.stream⟩ := by
  have hordered := Json.ordered_recorded r.members
  have hfst : (Json.documentMembers (Json.recorded r.members)).map Prod.fst =
      (Json.recorded r.members).map Prod.fst := by
    rw [Json.documentMembers_eq_map, List.map_map]
    rfl
  have hlookup : ∀ m ∈ Json.documentMembers (Json.recorded r.members), ∃ j : Json,
      m.2 = j.document ∧ Members.lookup m.1 r.members = some (some j) := fun m hm => by
    rw [Json.documentMembers_eq_map] at hm
    obtain ⟨⟨key, j⟩, hj, rfl⟩ := List.mem_map.1 hm
    have hjoin := hordered.mem_iff.1 hj
    rw [Json.lookup_recorded r.nodup_members] at hjoin
    exact ⟨j, rfl, Option.join_eq_some_iff.1 hjoin⟩
  have hmem : ∀ key, key ∈ (Json.recorded r.members).map Prod.fst ↔
      (Members.lookup key r.members).join.isSome := fun key => by
    rw [Members.mem_keys_iff, Json.lookup_recorded r.nodup_members]
  rw [foldMembers_of_read r.put, foldl_put, hfst]
  · -- An id that is not written is none, as one that was never read.
    simp only [hmem]
    cases hid : r.id <;> simp [members, Members.lookup, hid]
  · rw [hfst]
    exact hordered.nodup
  · simp
  · intro m hm hknown s
    obtain ⟨j, hj, hlookup⟩ := hlookup m hm
    rw [hj]
    exact step_recorded h hlookup hknown s
  · intro m hm hknown
    obtain ⟨j, hj, hlookup⟩ := hlookup m hm
    rw [lookup_of_not_mem hknown] at hlookup
    have hcanonical :=
      Sampling.canonical_of_mem h.sampling _ (Members.mem_of_lookup hlookup) j rfl
    rw [hj, held_document hcanonical]
    rfl

theorem read_json {r : ChatRequest} (h : r.WellFormed) (hfinite : r.sampling.Finite) :
    read r.json.document = .ok r := by
  have hsampling := Sampling.ofFields_recorded h.sampling hfinite r.nodup_members fun name hname =>
    lookup_of_not_mem fun hown => by
      simp only [Sampling.fieldNames, fieldNames, List.mem_cons, List.not_mem_nil, or_false]
        at hname hown
      rcases hname with rfl | rfl | rfl | rfl | rfl <;> simp at hown
  have hfields := fields_recorded h
  have hread : read (Json.record r.members).document = .ok r := by
    rw [Json.document_record, read]
    simp only [bind_eq_ok_iff]
    refine ⟨_, rfl, _, hfields, ?_⟩
    have hid : (r.id.map some).getD none = r.id := by cases r.id <;> rfl
    rw [hsampling, hid]
    rfl
  exact hread

/-- A request that was read is read again from what is written of it. -/
theorem read_json_of_read {d : Document} {r : ChatRequest} (h : read d = .ok r)
    (hfinite : r.sampling.Finite) : read r.json.document = .ok r :=
  read_json (wellFormed_of_read h) hfinite

/-- A request with a message that calls a tool, and the tool with keywords of its own. -/
def weatherDocument : Document :=
  .obj [("temperature", .num (.whole 1)), ("stream", .bool true), ("model", .str "m"),
    ("messages", .arr [
      .obj [("role", .str "assistant"), ("content", .arr [
        .obj [("text", .str "Looking."), ("type", .str "text")],
        .obj [("type", .str "tool_call"), ("id", .str "1"), ("name", .str "weather"),
          ("arguments", .obj [("town", .str "Oslo"), ("days", .num (.whole 2))])]])],
      .obj [("role", .str "user"), ("content", .str "Go on.")]]),
    ("tools", .arr [
      .obj [("name", .str "weather"), ("parameters", .obj [("strict", .bool true),
        ("properties", .obj [("town", .obj [("type", .str "string"),
          ("minLength", .num (.whole 1))])])])]])]

def weather : ChatRequest where
  id := none
  model := "m"
  messages := [
    ⟨.assistant, .parts [.text "Looking.",
      .toolCall "1" "weather" (.obj [("days", .num (.whole 2)), ("town", .str "Oslo")])], none⟩,
    ⟨.user, .text "Go on.", none⟩]
  sampling := { Sampling.empty with
    temperature := some 1
    tools := [⟨"weather", "", { Parameters.empty with
      properties := [("town", ⟨some "string", none, [("minLength", .num (.whole 1))]⟩)]
      keywords := [("strict", .bool true)] }⟩] }
  stream := true

theorem read_json_weather : read weatherDocument = .ok weather ∧ weather.sampling.Finite ∧
    read weather.json.document = .ok weather := by
  have hread : read weatherDocument = .ok weather := rfl
  have hfinite : weather.sampling.Finite := by
    refine ⟨fun x hx => ?_, nofun⟩
    obtain rfl := Option.some.inj hx
    decide
  exact ⟨hread, hfinite, read_json_of_read hread hfinite⟩

end ChatRequest

end Switchboard
