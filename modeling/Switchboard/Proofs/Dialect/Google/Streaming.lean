import Switchboard.Dialect.Google.Stream
import Switchboard.Proofs.Json.Start
import Switchboard.Proofs.Stream.Substance

/-!
# Streamed answers of the content dialect

A stream brings the parts of a candidate in groups. The decoder numbers the calls of a group from
where the group before left off (`partsDelta_toolCalls`), so the groups together say what the parts
say in one list (`hearAll_groups`), and a stream of the parts, however they are cut, comes to the
same as one body that holds them all (`pumpStream_parts`).
-/

namespace Switchboard.Google

/-- A value holds the parts of a candidate, a reason to end unless there is none, and a report of
usage. -/
structure Holds (j : Json) (parts : List Json) (reason : Option String) (usage : Json) : Prop where
  candidate : ∃ candidate, (j.get "candidates").item? 0 = some candidate
    ∧ (((candidate.get "content").get "parts").arr?).getD [] = parts
    ∧ candidate.string? "finishReason" = reason
  usage : j.get "usageMetadata" = usage

/-- The data of an event is JSON that holds all this. -/
def Piece (event : ServerEvent) (parts : List Json) (reason : Option String) (usage : Json) :
    Prop :=
  ∃ j, Json.ofString? event.data = some j ∧ Holds j parts reason usage

/-- An event in the midst of a stream: it has no reason to end and reports no usage. -/
def MidPiece (event : ServerEvent) (parts : List Json) : Prop :=
  ∃ usage, Piece event parts none usage ∧ usage.isObj = false

/-- Events that bring the parts of a candidate, cut into consecutive groups; the last event has the
reason to end and the report of usage. -/
inductive PartStream (reason : String) (usage : Json) : List Json → List ServerEvent → Prop
  | groups {opening : List ServerEvent} {groups : List (List Json)} {last : ServerEvent}
      {final : List Json} :
      List.Forall₂ MidPiece opening groups → Piece last final (some reason) usage →
      PartStream reason usage (groups.flatten ++ final) (opening ++ [last])

section Parts

def partCalls (parts : List Json) : List Json := parts.filterMap partCall?

/-- The fragment for call number `n`, which is all of the call. -/
def callFragment (n : Nat) (call : Json) : ToolCallDelta :=
  ⟨n, some (callId n), call.string? "name", ((call.member? "args").map Json.render).getD ""⟩

theorem partCall?_of_text {p : Json} {t : String} (h : partText? p = some t) :
    partCall? p = none := by
  simp [partCall?, h]

/-- The calls of parts are numbered on from those before. -/
theorem partsDelta_snd :
    ∀ (parts : List Json) (calls : Nat),
      (partsDelta calls parts).2 = calls + (partCalls parts).length
  | [], calls => rfl
  | p :: rest, calls => by
    have ih := partsDelta_snd rest
    unfold partsDelta partDelta
    rcases ht : partText? p with _ | t
    · rcases hc : partCall? p with _ | call
      · simp [ih, partCalls, hc]
      · simp only [ih, partCalls, List.filterMap_cons_some hc, List.length_cons]
        omega
    · simp [ih, partCalls, partCall?_of_text ht]

theorem partsDelta_words :
    ∀ (parts : List Json) (calls : Nat),
      Delta.words [(partsDelta calls parts).1] = String.join (parts.filterMap partText?)
  | [], calls => rfl
  | p :: rest, calls => by
    have ih := partsDelta_words rest
    unfold partsDelta partDelta
    rcases ht : partText? p with _ | t
    · rw [List.filterMap_cons_none ht]
      rcases hc : partCall? p with _ | call
      · simp only [Delta.words_append_delta, ih]
        rfl
      · simp only [Delta.words_append_delta, ih]
        rfl
    · rw [List.filterMap_cons_some ht]
      simp only [Delta.words_append_delta, ih]
      simp [Delta.words, Delta.ofText]

theorem partsDelta_toolCalls :
    ∀ (parts : List Json) (calls : Nat), (partsDelta calls parts).1.toolCalls =
      ((partCalls parts).zipIdx calls).map fun (call, n) => callFragment n call
  | [], calls => rfl
  | p :: rest, calls => by
    have ih := partsDelta_toolCalls rest
    have happend : ∀ d e : Delta, (d ++ e).toolCalls = d.toolCalls ++ e.toolCalls := fun _ _ => rfl
    unfold partsDelta partDelta
    rcases ht : partText? p with _ | t
    · rcases hc : partCall? p with _ | call
      · simp only [happend, ih, partCalls, List.filterMap_cons_none hc]
        rfl
      · simp only [happend, ih, partCalls, List.filterMap_cons_some hc, List.zipIdx_cons,
          List.map_cons]
        rfl
    · simp only [happend, ih, partCalls, List.filterMap_cons_none (partCall?_of_text ht)]
      rfl

/-- Deltas tell what parts tell that come after so many calls. -/
structure Tell (deltas : List Delta) (calls : Nat) (parts : List Json) : Prop where
  words : Delta.words deltas = String.join (parts.filterMap partText?)
  calls : Delta.calls deltas =
    ((partCalls parts).zipIdx calls).map fun (call, n) => callFragment n call

theorem tell_partsDelta (calls : Nat) (parts : List Json) :
    Tell [(partsDelta calls parts).1] calls parts where
  words := partsDelta_words parts calls
  calls := by
    rw [← partsDelta_toolCalls]
    simp [Delta.calls]

theorem partCalls_append (parts more : List Json) :
    partCalls (parts ++ more) = partCalls parts ++ partCalls more :=
  List.filterMap_append

/-- What is told in two groups is told in one. -/
theorem Tell.append {first second : List Delta} {calls : Nat} {parts more : List Json}
    (h : Tell first calls parts) (hmore : Tell second (calls + (partCalls parts).length) more) :
    Tell (first ++ second) calls (parts ++ more) where
  words := by
    rw [Delta.words_append, h.words, hmore.words, List.filterMap_append, String.join_append]
  calls := by
    rw [Delta.calls_append, h.calls, hmore.calls, partCalls_append, List.zipIdx_append,
      List.map_append, Nat.add_comm]

end Parts

section Events

variable {event : ServerEvent} {parts : List Json} {reason : Option String} {usage : Json}

/-- The usage that a report says, if it is one. -/
def reported (usage : Json) : Option Usage :=
  if usage.isObj then
    some (.ofJson usage "promptTokenCount" "candidatesTokenCount" "totalTokenCount")
  else none

theorem usage?_of_holds {j : Json} (h : Holds j parts reason usage) :
    usage? j = reported usage := by
  simp [usage?, reported, h.usage]

theorem hear_of_piece (h : Piece event parts reason usage) (calls : Nat) :
    decoder.hear calls event = .ok
      (.delta (partsDelta calls parts).1 ::
        ((reason.map fun r =>
            .finish (finishReason (calls + (partCalls parts).length != 0) r)).toList
          ++ ((reported usage).map .usage).toList),
        calls + (partCalls parts).length) := by
  obtain ⟨j, hj, hholds⟩ := h
  obtain ⟨candidate, hcandidate, hparts, hreason⟩ := hholds.candidate
  rw [Decoder.hear_of_not_blank (Json.not_blank hj)]
  simp only [decoder, hj]
  unfold pieceEvents candidate? candidateParts
  simp only [hcandidate, hparts, hreason, partsDelta_snd, usage?_of_holds hholds]

/-- Groups of parts say together what the parts say in one list. -/
theorem hearAll_groups {events : List ServerEvent} {groups : List (List Json)}
    (h : List.Forall₂ MidPiece events groups) :
    ∀ calls : Nat, ∃ deltas,
      decoder.hearAll calls events =
          .ok (deltas.map .delta, calls + (partCalls groups.flatten).length)
        ∧ Tell deltas calls groups.flatten := by
  induction h with
  | nil => exact fun calls => ⟨[], rfl, rfl, rfl⟩
  | @cons event group events groups hpiece hrest ih =>
    intro calls
    obtain ⟨usage, hpiece, husage⟩ := hpiece
    have hhear := hear_of_piece hpiece calls
    have hnone : reported usage = none := by simp [reported, husage]
    rw [hnone] at hhear
    obtain ⟨deltas, hhears, htell⟩ := ih (calls + (partCalls group).length)
    refine ⟨[(partsDelta calls group).1] ++ deltas, ?_, ?_⟩
    · rw [Decoder.hearAll_cons hhear hhears, List.flatten_cons, partCalls_append,
        List.length_append, Nat.add_assoc]
      rfl
    · exact (tell_partsDelta calls group).append htell

/-- A whole stream tells an answer: what the parts tell, the reason to end and the usage. -/
theorem hearAll_partStream {reason : String} {events : List ServerEvent}
    (h : PartStream reason usage parts events) :
    ∃ deltas, Tell deltas 0 parts ∧ decoder.hearAll decoder.start events = .ok
        (Transcript.answer none deltas (some (finishReason (!(partCalls parts).isEmpty) reason))
          (reported usage) ++ [], (partCalls parts).length) := by
  obtain @⟨opening, groups, last, final, hopening, hlast⟩ := h
  obtain ⟨deltas, hhears, htell⟩ := hearAll_groups hopening 0
  have hhear := hear_of_piece hlast (0 + (partCalls groups.flatten).length)
  refine ⟨deltas ++ [(partsDelta _ final).1], htell.append (tell_partsDelta _ final), ?_⟩
  have hcalls : (0 + (partCalls groups.flatten).length + (partCalls final).length != 0) =
      !(partCalls groups.flatten ++ partCalls final).isEmpty := by
    rw [Nat.zero_add, ← List.length_append]
    rcases partCalls groups.flatten ++ partCalls final with _ | ⟨call, rest⟩
    · rfl
    · simp
  have hall := Decoder.hearAll_append hhears (Decoder.hearAll_singleton hhear)
  rw [hcalls] at hall
  rw [show decoder.start = 0 from rfl, hall, partCalls_append]
  simp [Transcript.answer]

end Events

section Whole

/-- Call number `n` as a body gives it. -/
def wholeCall (n : Nat) (call : Json) : String × String × Json :=
  (callId n, (call.string? "name").getD "", (call.member? "args").getD (.obj []))

variable {body : Json} {parts : List Json} {reason : String} {usage : Json}

/-- What one body comes to that holds all the parts. -/
theorem chatResponse_of_holds (h : Holds body parts (some reason) usage) (now : Int)
    (r : ChatRequest) :
    ∃ response, chatResponse now r body = .ok response
      ∧ response.substance =
        ⟨String.join (parts.filterMap partText?),
          (partCalls parts).zipIdx.map fun (call, n) => wholeCall n call,
          some (finishReason (!(partCalls parts).isEmpty) reason), reported usage⟩ := by
  obtain ⟨candidate, hcandidate, hparts, hreason⟩ := h.candidate
  refine ⟨_, by unfold chatResponse candidate?; rw [hcandidate], ?_⟩
  have hcalls : ((parts.filterMap partCall?).zipIdx.map fun (call, n) => toolCall n call) =
      ((partCalls parts).zipIdx.map fun (call, n) => wholeCall n call).map Content.callPart := by
    rw [List.map_map]
    rfl
  have hempty : (((partCalls parts).zipIdx.map fun (call, n) => wholeCall n call).map
      Content.callPart).isEmpty = (partCalls parts).isEmpty := by
    rcases partCalls parts with _ | ⟨call, rest⟩ <;> rfl
  simp only [ChatResponse.substance, Message.of, candidateParts, hparts, hreason,
    usage?_of_holds h]
  rw [hcalls, hempty, Content.allText_assemble, Content.toolCalls_assemble]
  rfl

end Whole

/-- A stream of the parts of a candidate, however they are cut, comes to a good end and to the same
as one body that holds them all. Each call is whole in one fragment, with the id that the body
gives it and with its arguments printed, or with none where the body fills in an empty object. The
calls may be any number, as the count of the decoder has no bound. -/
theorem pumpStream_parts {reason : String} {usage : Json} {parts : List Json}
    {events : List ServerEvent} (hstream : PartStream reason usage parts events) {body : Json}
    (hbody : Holds body parts (some reason) usage) {sink : Sink} {context : CallContext}
    {pulls : List (Work ServerEvent)} {last : Work Unit}
    (hs : Smooth sink context pulls last events) (id model : String) (start : Nat) (now : Int)
    (r : ChatRequest) :
    let p := pumpStream decoder sink id model context start pulls last
    let streamed := Substance.ofChunks p.intake.accepted
    ∃ response, chatResponse now r body = .ok response
      ∧ p.outcome = some (.ok ())
      ∧ streamed.text = response.substance.text
      ∧ streamed.finishReason = response.substance.finishReason
      ∧ streamed.usage = response.substance.usage
      ∧ Delta.calls (p.intake.accepted.map (·.delta)) =
          (partCalls parts).zipIdx.map (fun (call, n) => callFragment n call)
      ∧ response.substance.calls =
          (partCalls parts).zipIdx.map (fun (call, n) => wholeCall n call)
      ∧ (reason = "STOP" → partCalls parts ≠ [] → response.finishReason = .toolCalls) := by
  intro p streamed
  obtain ⟨deltas, htell, hsaid⟩ := hearAll_partStream hstream
  obtain ⟨houtcome, hsubstance, hcalls⟩ :=
    pumpStream_answer hs hsaid (.inr ⟨rfl, rfl⟩) id model start
  rw [Option.merge_none_left] at hsubstance
  obtain ⟨response, hresponse, hwhole⟩ := chatResponse_of_holds hbody now r
  have hstreamed : streamed = ⟨Delta.words deltas, ToolCallDelta.gathered (Delta.calls deltas),
      some (finishReason (!(partCalls parts).isEmpty) reason), reported usage⟩ := hsubstance
  have hreason : response.finishReason = finishReason (!(partCalls parts).isEmpty) reason :=
    Option.some.inj (congrArg Substance.finishReason hwhole)
  refine ⟨response, hresponse, houtcome, ?_, ?_, ?_, ?_, by rw [hwhole], ?_⟩
  · rw [hstreamed, hwhole, htell.words]
  · rw [hstreamed, hwhole]
  · rw [hstreamed, hwhole]
  · exact hcalls.trans htell.calls
  · rintro rfl hne
    simp [hreason, hne, finishReason]

section Lookup

/-- A body or a piece of one with these parts. -/
def bodyOf (parts : List Json) (more rest : List (String × Json)) : Json :=
  .mkObj (("candidates", .arr [.mkObj (("content", .mkObj [("parts", .arr parts)]) :: more)]) ::
    rest)

def lookupCall : Json :=
  .mkObj [("functionCall", .mkObj [("name", "lookup"), ("args", .mkObj [("id", .nat 7)])])]

def bareCall : Json := .mkObj [("functionCall", .mkObj [])]

def lookupUsage : Json := .mkObj [("promptTokenCount", .nat 3), ("candidatesTokenCount", .nat 4)]

/-- Words and a call, then a call that has neither a name nor arguments. -/
def lookupEvents : List ServerEvent := [
  .ofData (bodyOf [.mkObj [("text", "One ")], lookupCall] [] []).render,
  .ofData (bodyOf [.mkObj [("text", "moment.")], bareCall] [("finishReason", "STOP")]
    [("usageMetadata", lookupUsage)]).render]

def lookupBody : Json :=
  bodyOf [.mkObj [("text", "One ")], lookupCall, .mkObj [("text", "moment.")], bareCall]
    [("finishReason", "STOP")] [("usageMetadata", lookupUsage)]

theorem lookup_streamed :
    ∃ response, chatResponse 0 (.of "m" []) lookupBody = .ok response
      ∧ response.finishReason = .toolCalls
      ∧ response.substance.calls = [("call_0", "lookup", .mkObj [("id", .nat 7)]),
          ("call_1", "", .obj [])]
      ∧ let p := pumpStream decoder .all "r" "m" .unbounded 0
          (lookupEvents.map fun e => .done (.ok e)) (.done (.ok ()))
        p.outcome = some (.ok ())
          ∧ (Substance.ofChunks p.intake.accepted).text = response.substance.text
          ∧ Delta.calls (p.intake.accepted.map (·.delta)) =
              [⟨0, some "call_0", some "lookup", "\x7b\"id\":7\x7d"⟩,
                ⟨1, some "call_1", none, ""⟩] := by
  have hfirst : MidPiece (.ofData (bodyOf [.mkObj [("text", "One ")], lookupCall] [] []).render)
      [.mkObj [("text", "One ")], lookupCall] :=
    ⟨.null, ⟨bodyOf [.mkObj [("text", "One ")], lookupCall] [] [], by decide +kernel,
      ⟨_, rfl, rfl, rfl⟩, rfl⟩, rfl⟩
  have hlast : Piece (.ofData (bodyOf [.mkObj [("text", "moment.")], bareCall]
      [("finishReason", "STOP")] [("usageMetadata", lookupUsage)]).render)
      [.mkObj [("text", "moment.")], bareCall] (some "STOP") lookupUsage :=
    ⟨bodyOf [.mkObj [("text", "moment.")], bareCall] [("finishReason", "STOP")]
      [("usageMetadata", lookupUsage)], by decide +kernel, ⟨_, rfl, rfl, rfl⟩, rfl⟩
  have hstream : PartStream "STOP" lookupUsage _ lookupEvents :=
    .groups (.cons hfirst .nil) hlast
  have hbody : Holds lookupBody
      [.mkObj [("text", "One ")], lookupCall, .mkObj [("text", "moment.")], bareCall]
      (some "STOP") lookupUsage := ⟨⟨_, rfl, rfl, rfl⟩, rfl⟩
  obtain ⟨response, hresponse, houtcome, htext, -, -, hfragments, hcalls, hreason⟩ :=
    pumpStream_parts hstream hbody (.atOnce lookupEvents) "r" "m" 0 0 (.of "m" [])
  refine ⟨response, hresponse, hreason rfl (by decide), ?_, houtcome, htext, ?_⟩
  · rw [hcalls]
    decide +kernel
  · rw [hfragments]
    decide +kernel

end Lookup

end Switchboard.Google
