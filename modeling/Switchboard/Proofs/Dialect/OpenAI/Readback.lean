import Switchboard.Proofs.Chat.Images
import Switchboard.Proofs.Dialect.OpenAI.Messages
import Switchboard.Proofs.Json.Text

/-!
# What is heard of a conversation

Whoever reads the messages of the chat completions dialect (`OpenAI.heard?`) hears all that was
said (`OpenAI.messages_recovered`). The parts of a message go out in two arrays, its calls and all
that is no call, and each is read back part by part (`OpenAI.heard_entries`). The results of a
message of the tool role are read back from one message each (`OpenAI.heard_results`).
-/

namespace Switchboard

theorem Role.ofName?_name (role : Role) : ofName? role.name = some role := by
  cases role <;> rfl

namespace OpenAI

section Reader

inductive HeardPart where
  | text (text : String)
  | image (source : ImageSource)
deriving DecidableEq

/-- A call as it is heard, its arguments still a text. -/
structure HeardCall where
  id : String
  name : String
  arguments : String
deriving DecidableEq

inductive Speech where
  | bare (text : String)
  | parts (parts : List HeardPart)
deriving DecidableEq

/-- What one message on the wire says. -/
inductive Heard where
  | said (role : Role) (name : Option String) (speech : Speech) (calls : List HeardCall)
  | result (callId content : String)
deriving DecidableEq

def heardSource (url : String) : ImageSource :=
  match Image.dataUrl? url with
  | some (mimeType, data) => .base64 mimeType data
  | none => .url url

def heardPart? (j : Json) : Option HeardPart :=
  match j.string? "type" with
  | some "text" => (j.string? "text").map .text
  | some "image_url" => ((j.get "image_url").string? "url").map fun url => .image (heardSource url)
  | _ => none

def heardCall? (j : Json) : Option HeardCall := do
  let id ← j.string? "id"
  let name ← (j.get "function").string? "name"
  let arguments ← (j.get "function").string? "arguments"
  return ⟨id, name, arguments⟩

/-- Content that is missing stands for no parts. -/
def heardSpeech? : Option Json → Option Speech
  | some (.str t) => some (.bare t)
  | some (.arr items) => (items.mapM heardPart?).map .parts
  | none => some (.parts [])
  | some _ => none

def heardCalls? : Option Json → Option (List HeardCall)
  | some (.arr calls) => calls.mapM heardCall?
  | none => some []
  | some _ => none

def heard? (j : Json) : Option Heard := do
  let role ← (j.string? "role").bind Role.ofName?
  let speech ← heardSpeech? (j.member? "content")
  if role = .tool then
    match speech with
    | .parts [.text content] => return .result (← j.string? "tool_call_id") content
    | _ => none
  else return .said role (j.string? "name") speech (← heardCalls? (j.member? "tool_calls"))

end Reader

section Faith

/-- The media type of inline data does not hold the mark that ends it in a `data:` URL. -/
def Unmarked : ImageSource → Prop
  | .url _ => True
  | .base64 mimeType _ => Text.contains ";base64," mimeType = false

/-- What is heard of a part that is no call. -/
inductive Shown : Part → HeardPart → Prop
  | text (t : String) : Shown (.text t) (.text t)
  | image {image : Image} {source heard : ImageSource} : image.LiesAt source →
      (Unmarked source → heard = source) → Shown (.image image) (.image heard)

/-- What is heard of a call. Its arguments come back as they were if their numbers are integers and
they are not too deep; all that was ever read is in canonical form. -/
structure Asked (call : String × String × Json) (heard : HeardCall) : Prop where
  id : heard.id = call.1
  name : heard.name = FunctionName.sanitize call.2.1
  arguments : call.2.2.Canonical → call.2.2.Integral → call.2.2.depth ≤ 127 →
    Json.ofString? heard.arguments = some call.2.2

inductive Reported : Part → Heard → Prop
  | result (callId content : String) (isError : Bool) :
      Reported (.toolResult callId content isError) (.result callId content)

/-- What is heard of a message: all of it in one piece, or each of its results by itself. -/
inductive Recovered : Message → List Heard → Prop
  | bare {role : Role} (t : String) (name : Option String) : role ≠ .tool →
      Recovered ⟨role, .text t, name⟩ [.said role name (.bare t) []]
  | parts {role : Role} {parts : List Part} {heard : List HeardPart} {calls : List HeardCall}
      (name : Option String) : role ≠ .tool →
      List.Forall₂ Shown (parts.filter (·.toolCall?.isNone)) heard →
      List.Forall₂ Asked (parts.filterMap Part.toolCall?) calls →
      (calls ≠ [] → role = .assistant) →
      Recovered ⟨role, .parts parts, name⟩ [.said role name (.parts heard) calls]
  | results {parts : List Part} {results : List Heard} (name : Option String) :
      List.Forall₂ Reported parts results → Recovered ⟨.tool, .parts parts, name⟩ results

/-- A message has content unless it calls a tool, and it does not have calls that are none. -/
structure Shaped (w : Json) : Prop where
  content : w.member? "role" ≠ some (.str "tool") →
    (w.member? "content").isSome ∨ (w.member? "tool_calls").isSome
  calls : ∀ calls, w.member? "tool_calls" = some calls → ∃ call more, calls = .arr (call :: more)

end Faith

section Parts

variable {d : Dialect} {role : Role} {parts : List Part} {entries : List Entry} {ws : List Json}

theorem heardPart?_textPart (t : String) : heardPart? (textPart t) = some (.text t) := rfl

theorem heardPart?_imagePart (source : ImageSource) :
    heardPart? (imagePart source) = some (.image (heardSource (imageUrl source))) :=
  rfl

theorem heardCall?_callEntry (id name : String) (arguments : Json) :
    heardCall? (callEntry id name arguments) =
      some ⟨id, FunctionName.sanitize name, Arguments.text arguments⟩ :=
  rfl

theorem heard?_resultMessage (callId content : String) :
    heard? (resultMessage callId content) = some (.result callId content) :=
  rfl

theorem heardSource_imageUrl {image : Image} {source : ImageSource} (h : image.LiesAt source)
    (hmark : Unmarked source) : heardSource (imageUrl source) = source := by
  cases h with
  | inline => simp [heardSource, imageUrl, Image.dataUrl?_eq_some_iff.2 ⟨rfl, hmark⟩]
  | dataUrl => simp [heardSource, imageUrl, Image.dataUrl?_eq_some_iff.2 ⟨rfl, hmark⟩]
  | url _ hurl => simp [heardSource, imageUrl, Image.dataUrl?_eq_none_iff.2 hurl]

theorem asked_callEntry (id name : String) (arguments : Json) :
    Asked (id, name, arguments) ⟨id, FunctionName.sanitize name, Arguments.text arguments⟩ :=
  ⟨rfl, rfl, Json.ofString?_render⟩

/-- The entries of a message are read back part by part, whatever order texts, images and calls
stand in. -/
theorem heard_entries (h : List.Forall₂ (fun p x => entry d role p = .ok x) parts entries) :
    ∃ heard calls, (entries.filterMap Entry.content?).mapM heardPart? = some heard
      ∧ (entries.filterMap Entry.call?).mapM heardCall? = some calls
      ∧ List.Forall₂ Shown (parts.filter (·.toolCall?.isNone)) heard
      ∧ List.Forall₂ Asked (parts.filterMap Part.toolCall?) calls
      ∧ (calls ≠ [] → role = .assistant) := by
  induction h with
  | nil => exact ⟨[], [], rfl, rfl, .nil, .nil, by simp⟩
  | @cons p x parts entries hp _ ih =>
    obtain ⟨heard, calls, hheard, hcalls, hshown, hasked, hrole⟩ := ih
    -- an entry comes first in one of the two arrays and leaves the other as it is
    cases p with
    | text t =>
      obtain rfl := Except.ok.inj hp
      refine ⟨.text t :: heard, calls, ?_, hcalls, .cons (.text t) hshown, hasked, hrole⟩
      simp [Entry.content?, heardPart?_textPart, hheard]
    | image image =>
      simp only [entry] at hp
      split_ifs at hp
      simp only [bind_eq_ok_iff, pure_eq_ok_iff] at hp
      obtain ⟨source, hsource, rfl⟩ := hp
      have hlies := Image.liesAt_of_source hsource
      refine ⟨_ :: heard, calls, ?_, hcalls,
        .cons (.image hlies (heardSource_imageUrl hlies)) hshown, hasked, hrole⟩
      simp [Entry.content?, heardPart?_imagePart, hheard]
    | toolCall id name arguments =>
      simp only [entry] at hp
      split_ifs at hp with hassistant
      obtain rfl := Except.ok.inj hp
      refine ⟨heard, _ :: calls, hheard, ?_, hshown,
        .cons (asked_callEntry id name arguments) hasked, fun _ => hassistant⟩
      simp [Entry.call?, heardCall?_callEntry, hcalls]
    | toolResult callId content isError => cases hp

theorem heard_results (h : List.Forall₂ (fun p w => result p = .ok w) parts ws) :
    (∃ hs, ws.mapM heard? = some hs ∧ List.Forall₂ Reported parts hs) ∧ ∀ w ∈ ws, Shaped w := by
  induction h with
  | nil => exact ⟨⟨[], rfl, .nil⟩, by simp⟩
  | @cons p w parts ws hp _ ih =>
    obtain ⟨⟨hs, hheard, hreported⟩, hshaped⟩ := ih
    cases p with
    | toolResult callId content isError =>
      obtain rfl := Except.ok.inj hp
      refine ⟨⟨_ :: hs, ?_, .cons (.result callId content isError) hreported⟩,
        List.forall_mem_cons.2 ⟨⟨fun _ => .inl rfl, nofun⟩, hshaped⟩⟩
      rw [List.mapM_cons, hheard, heard?_resultMessage]
      rfl
    | _ => cases hp

end Parts

section Messages

variable {d : Dialect} {m : Message} {role : Role} {name : Option String} {entries : List Entry}
  {w : Json} {speech : Speech} {heard : List HeardPart} {calls : List HeardCall}

/-- What is heard of a message that is not of the tool role, by what stands under its keys. -/
theorem heard?_of_members (hrole : role ≠ .tool) (hr : w.member? "role" = some (.str role.name))
    (hname : w.member? "name" = name.map .str)
    (hspeech : heardSpeech? (w.member? "content") = some speech)
    (hcalls : heardCalls? (w.member? "tool_calls") = some calls) :
    heard? w = some (.said role name speech calls) := by
  have hsaid : (w.string? "role").bind Role.ofName? = some role := by
    simp [Json.string?, Json.get, hr, Json.str?, Role.ofName?_name]
  have hnamed : w.string? "name" = name := by
    rw [Json.string?, Json.get, hname]
    cases name <;> rfl
  simp [heard?, hsaid, hspeech, hcalls, hnamed, hrole]

theorem heard_bare (hrole : role ≠ .tool) {t : String}
    (hw : w = .record [("role", some role.name), ("content", some (.str t)),
      ("name", name.map .str)]) :
    heard? w = some (.said role name (.bare t) []) ∧ Shaped w := by
  have hmember : ∀ key, w.member? key = _ := fun key => hw ▸ Json.member?_record (by simp) key
  have hcontent : w.member? "content" = some (.str t) := hmember _
  have hcalls : w.member? "tool_calls" = none := hmember _
  refine ⟨heard?_of_members hrole (hmember _) (hmember _) ?_ ?_, ?_, ?_⟩
  · rw [hcontent]
    rfl
  · rw [hcalls]
    rfl
  · simp [hcontent]
  · simp [hcalls]

theorem member?_partsMessage (role : Role) (name : Option String) (entries : List Entry) :
    (partsMessage role name entries).member? "role" = some (.str role.name)
    ∧ (partsMessage role name entries).member? "content" =
      (if (entries.filterMap Entry.content?).isEmpty && !(entries.filterMap Entry.call?).isEmpty
        then none else some (.arr (entries.filterMap Entry.content?)))
    ∧ (partsMessage role name entries).member? "tool_calls" =
      (if (entries.filterMap Entry.call?).isEmpty then none
        else some (.arr (entries.filterMap Entry.call?)))
    ∧ (partsMessage role name entries).member? "name" = name.map .str := by
  refine ⟨?_, ?_, ?_, ?_⟩
  all_goals
    rw [partsMessage, Json.member?_record (by simp)]
    rfl

theorem heard?_partsMessage (hrole : role ≠ .tool)
    (hheard : (entries.filterMap Entry.content?).mapM heardPart? = some heard)
    (hcalls : (entries.filterMap Entry.call?).mapM heardCall? = some calls) :
    heard? (partsMessage role name entries) = some (.said role name (.parts heard) calls) := by
  obtain ⟨hr, hc, ht, hn⟩ := member?_partsMessage role name entries
  refine heard?_of_members hrole hr hn ?_ ?_
  · rw [hc]
    split_ifs with h
    · simp only [Bool.and_eq_true, List.isEmpty_iff] at h
      rw [h.1] at hheard
      obtain rfl := Option.some.inj hheard
      rfl
    · simp [heardSpeech?, hheard]
  · rw [ht]
    split_ifs with h
    · rw [List.isEmpty_iff.1 h] at hcalls
      obtain rfl := Option.some.inj hcalls
      rfl
    · exact hcalls

theorem shaped_partsMessage (role : Role) (name : Option String) (entries : List Entry) :
    Shaped (partsMessage role name entries) := by
  obtain ⟨-, hc, ht, -⟩ := member?_partsMessage role name entries
  constructor
  · intro _
    rw [hc, ht]
    by_cases hcalls : (entries.filterMap Entry.call?).isEmpty <;> simp [hcalls]
  · intro calls h
    rw [ht] at h
    split_ifs at h with hnone
    obtain rfl := Option.some.inj h
    obtain ⟨call, more, hcalls⟩ := List.exists_cons_of_ne_nil (mt List.isEmpty_iff.2 hnone)
    exact ⟨call, more, by rw [hcalls]⟩

theorem recovered_of_wireMessages {ws : List Json} (h : wireMessages d m = .ok ws) :
    (∃ hs, ws.mapM heard? = some hs ∧ Recovered m hs) ∧ ∀ w ∈ ws, Shaped w := by
  obtain ⟨role, content, name⟩ := m
  unfold wireMessages at h
  split_ifs at h with hrole htool
  · obtain rfl : role = .tool := hrole
    cases content with
    | text t => cases h
    | parts parts =>
      obtain ⟨⟨hs, hheard, hreported⟩, hshaped⟩ := heard_results (mapM_eq_ok_iff.1 h)
      exact ⟨⟨hs, hheard, .results name hreported⟩, hshaped⟩
  · cases content with
    | text t =>
      obtain rfl := Except.ok.inj h
      obtain ⟨hheard, hshaped⟩ := heard_bare hrole rfl
      exact ⟨⟨_, by simp [hheard], .bare t name hrole⟩, List.forall_mem_singleton.2 hshaped⟩
    | parts parts =>
      simp only [bind_eq_ok_iff, pure_eq_ok_iff, mapM_eq_ok_iff] at h
      obtain ⟨entries, hentries, rfl⟩ := h
      obtain ⟨heard, calls, hheard, hcalls, hshown, hasked, hassistant⟩ := heard_entries hentries
      have hmessage : heard? (partsMessage role name entries) = _ :=
        heard?_partsMessage hrole hheard hcalls
      exact ⟨⟨_, by simp [hmessage], .parts name hrole hshown hasked hassistant⟩,
        List.forall_mem_singleton.2 (shaped_partsMessage role name entries)⟩

end Messages

/-- Of every conversation that is accepted, all that was said is heard again, in order. -/
theorem messages_recovered {d : Dialect} {ms : List Message} {ws : List Json}
    (h : messages d ms = .ok ws) :
    (∃ groups, ws.mapM heard? = some groups.flatten ∧ List.Forall₂ Recovered ms groups)
      ∧ ∀ w ∈ ws, Shaped w := by
  obtain ⟨wss, hwss, rfl⟩ := messages_eq_ok_iff.1 h
  clear h
  induction hwss with
  | nil => exact ⟨⟨[], rfl, .nil⟩, by simp⟩
  | @cons m ws ms wss hws _ ih =>
    obtain ⟨⟨hs, hheard, hrecovered⟩, hshaped⟩ := recovered_of_wireMessages hws
    obtain ⟨⟨groups, hgroups, hall⟩, hallShaped⟩ := ih
    refine ⟨⟨hs :: groups, ?_, .cons hrecovered hall⟩, ?_⟩
    · simp [hheard, hgroups]
    · exact List.forall_mem_append.2 ⟨hshaped, hallShaped⟩

section Talk

def talkArguments : Json := .mkObj [("id", .nat 7)]

/-- The images of the second message are named in each of the three ways. -/
def talkMessages : List Message := [
  ⟨.system, .text "Be brief.", some "host"⟩,
  .of .user (.parts [.text "Which?", .image (.ofBase64 "aGk=" "image/png"),
    .image (.ofUrl "data:image/gif;base64,R0k="), .image (.ofUrl "https://example.com/cat.png")]),
  .of .assistant (.parts [.toolCall "a" "look up" talkArguments]), .toolResult "a" "a cat"]

def talkHeard : List Heard := [
  .said .system (some "host") (.bare "Be brief.") [],
  .said .user none (.parts [.text "Which?", .image (.base64 "image/png" "aGk="),
    .image (.base64 "image/gif" "R0k="), .image (.url "https://example.com/cat.png")]) [],
  .said .assistant none (.parts []) [⟨"a", "look_up", "\x7b\"id\":7\x7d"⟩], .result "a" "a cat"]

theorem talk_recovered :
    ∃ ws groups, messages ⟨.openai, true, true⟩ talkMessages = .ok ws
      ∧ groups.flatten = talkHeard ∧ List.Forall₂ Recovered talkMessages groups
      ∧ Json.ofString? "\x7b\"id\":7\x7d" = some talkArguments := by
  have hws : ∃ ws, messages ⟨.openai, true, true⟩ talkMessages = .ok ws := ⟨_, rfl⟩
  obtain ⟨ws, hws⟩ := hws
  obtain ⟨⟨groups, hgroups, hrecovered⟩, -⟩ := messages_recovered hws
  have hheard : ws.mapM heard? = some talkHeard := by
    obtain rfl := Except.ok.inj hws
    decide +kernel
  refine ⟨ws, groups, hws, Option.some.inj (hgroups.symm.trans hheard), hrecovered, ?_⟩
  have htext : talkArguments.render = "\x7b\"id\":7\x7d" := by decide +kernel
  have hcanonical : talkArguments.Canonical :=
    Json.canonical_mkObj (List.forall_mem_singleton.2 trivial)
  rw [← htext]
  exact Json.ofString?_render hcanonical ⟨⟨by decide, by decide⟩, trivial⟩ (by decide)

end Talk

end OpenAI

end Switchboard
