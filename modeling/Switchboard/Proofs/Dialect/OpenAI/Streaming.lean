import Switchboard.Dialect.OpenAI.Stream
import Switchboard.Proofs.Json.Start
import Switchboard.Proofs.Stream.Substance

/-!
# Streamed answers of the chat completions dialect

A stream brings the text of an answer and the arguments of its calls in fragments, and the fragments
of different calls may mingle, as each has the index of its call. The fragments of one index make
that call again (`Call.joined_of_cutInto`), so put together by their indices they make the calls of
the answer (`Completion.gathered_of_cut`). A stream of the answer, however it is cut, then comes to
the same as one body that holds all of it (`pumpStream_fragments`).
-/

namespace Switchboard.OpenAI

/-- A call in an answer, its arguments still a text. -/
structure Call where
  id : String
  name : String
  arguments : String

namespace Call

def read (call : Call) : String × String × Json :=
  (call.id, call.name, Arguments.ofText call.arguments)

/-- An entry of a message holds the call. -/
structure HeldBy (call : Call) (entry : Json) : Prop where
  id : entry.string? "id" = some call.id
  name : (entry.get "function").string? "name" = some call.name
  arguments : (entry.get "function").string? "arguments" = some call.arguments

/-- The call is cut into fragments, of which the first has its id and its name. -/
def CutInto (call : Call) (fragments : List ToolCallDelta) : Prop :=
  ∃ first rest, fragments = first :: rest ∧ first.id = some call.id ∧ first.name = some call.name
    ∧ String.join (fragments.map (·.arguments)) = call.arguments

variable {call : Call} {entry : Json} {fragments : List ToolCallDelta}

theorem toolCall_of_heldBy (h : call.HeldBy entry)
    (hvalid : FunctionName.isValid call.name = true) :
    toolCall entry = .ok (Content.callPart call.read) := by
  unfold toolCall
  simp only [textIn, h.id, h.name, h.arguments, Option.getD_some, hvalid, if_true]
  rfl

theorem mapM_toolCall {calls : List Call} {entries : List Json}
    (h : List.Forall₂ HeldBy calls entries) :
    (∀ call ∈ calls, FunctionName.isValid call.name = true) →
      entries.mapM toolCall = .ok ((calls.map read).map Content.callPart) := by
  induction h with
  | nil => exact fun _ => rfl
  | cons hentry _ ih =>
    intro hvalid
    rw [List.mapM_cons, toolCall_of_heldBy hentry (hvalid _ List.mem_cons_self),
      ih fun call hcall => hvalid call (List.mem_cons_of_mem _ hcall)]
    rfl

theorem joined_of_cutInto (h : call.CutInto fragments) :
    ToolCallDelta.joined fragments = call.read := by
  obtain ⟨first, rest, rfl, hid, hname, harguments⟩ := h
  unfold ToolCallDelta.joined
  rw [List.findSome?_cons, List.findSome?_cons, hid, hname, harguments]
  rfl

end Call

/-- An assistant's answer. The usage is a report if it is an object. -/
structure Completion where
  text : String
  calls : List Call
  reason : Option String
  usage : Json

/-- A body holds the whole answer as its first choice. -/
structure Completion.HeldBy (a : Completion) (body : Json) : Prop where
  choice : ∃ choice, firstChoice? body = some choice
    ∧ textIn (choice.get "message") "content" = a.text
    ∧ List.Forall₂ Call.HeldBy a.calls ((((choice.get "message").get "tool_calls").arr?).getD [])
    ∧ choice.string? "finish_reason" = a.reason
  usage : body.get "usage" = a.usage

/-- The deltas an answer is cut into, in the order they come in: their texts make its text, and the
fragments with the index of a call make that call. -/
structure Completion.Cut (a : Completion) (deltas : List Delta) : Prop where
  text : Delta.words deltas = a.text
  indices : ∀ fragment ∈ Delta.calls deltas, fragment.index < a.calls.length
  calls : ∀ i call, a.calls[i]? = some call →
    Call.CutInto call (ToolCallDelta.ofIndex (Delta.calls deltas) i)

section Events

/-- An entry of a piece holds the fragment, and says its index. -/
structure FragmentIn (fragment : ToolCallDelta) (entry : Json) : Prop where
  index : (entry.get "index").nat? = some fragment.index
  id : entry.string? "id" = fragment.id
  name : (entry.get "function").string? "name" = fragment.name
  arguments : textIn (entry.get "function") "arguments" = fragment.arguments

/-- The data of an event is JSON that is no failure and says this of usage. -/
structure Reads (event : ServerEvent) (piece usage : Json) : Prop where
  data : Json.ofString? event.data = some piece
  sound : piece.member? "error" = none
  usage : piece.get "usage" = usage

/-- An event with a piece of the first choice: a delta, a reason to end unless there is none, and
what it says of usage. -/
def Piece (event : ServerEvent) (delta : Delta) (reason : Option String) (usage : Json) : Prop :=
  ∃ piece choice, Reads event piece usage ∧ firstChoice? piece = some choice
    ∧ (choice.get "delta").string? "content" = delta.text
    ∧ List.Forall₂ FragmentIn delta.toolCalls
        ((((choice.get "delta").get "tool_calls").arr?).getD [])
    ∧ choice.string? "finish_reason" = reason

/-- An event in the midst of a stream: it has no reason to end and reports no usage. -/
def MidPiece (event : ServerEvent) (delta : Delta) : Prop :=
  ∃ usage, Piece event delta none usage ∧ usage.isObj = false

/-- An event that has no choice and reports usage alone. -/
def Report (event : ServerEvent) (usage : Json) : Prop :=
  ∃ piece, Reads event piece usage ∧ piece.get "choices" = .arr []

def IsDone (event : ServerEvent) : Prop := Text.trim event.data = doneMark

/-- Events that bring an answer: pieces of its choice, the last of which has the reason to end, and
the report of usage either with that one or after it. -/
inductive Completion.Streamed (a : Completion) : List ServerEvent → Prop
  | reporting {opening : List ServerEvent} {deltas : List Delta} {last ending : ServerEvent}
      {delta : Delta} :
      List.Forall₂ MidPiece opening deltas → Piece last delta a.reason a.usage → IsDone ending →
      a.Cut (deltas ++ [delta]) → Streamed a (opening ++ [last, ending])
  | reported {opening : List ServerEvent} {deltas : List Delta} {last report ending : ServerEvent}
      {delta : Delta} {usage : Json} :
      List.Forall₂ MidPiece opening deltas → Piece last delta a.reason usage →
      usage.isObj = false → Report report a.usage → IsDone ending →
      a.Cut (deltas ++ [delta]) → Streamed a (opening ++ [last, report, ending])

end Events

section Reading

variable {event : ServerEvent} {piece usage : Json} {delta : Delta} {reason : Option String}

/-- The usage that a report says, if it is one. -/
def reported (usage : Json) : Option Usage :=
  if usage.isObj then some (.ofJson usage "prompt_tokens" "completion_tokens" "total_tokens")
  else none

theorem usage?_eq (j : Json) : usage? j = reported (j.get "usage") := rfl

theorem reported_of_not_obj (h : usage.isObj = false) : reported usage = none := by
  simp [reported, h]

/-- No piece of an answer reads as the mark of the end. -/
theorem not_doneMark (h : Json.ofString? event.data = some piece) :
    Text.trim event.data ≠ doneMark := by
  intro hmark
  obtain ⟨c, cs, -, hskip, htrim⟩ := Json.exists_opens h
  have hend : Text.trimEnd (c :: cs) = doneMark.toList := by
    rw [← hmark, Text.trim, htrim, String.toList_ofList]
  have hprefix : doneMark.toList <+: c :: cs := by
    rw [← hend, ← List.reverse_suffix, Text.trimEnd, List.reverse_reverse]
    exact List.dropWhile_suffix _
  obtain ⟨rest, hrest⟩ := hprefix
  -- what stands after the bracket starts no value, so the text is no array
  have hmark : '[' :: 'D' :: ("ONE]".toList ++ rest) = c :: cs := hrest
  rw [← hmark] at hskip
  have hnone := Json.ofString?_of_square (by decide) (by decide) (by decide) hskip
  rw [hnone] at h
  simp at h

theorem hear_of_reads (h : Reads event piece usage) :
    decoder.hear () event = .ok
      ((firstChoice? piece).elim [] choiceEvents ++ ((reported usage).map .usage).toList, ()) := by
  rw [Decoder.hear_of_not_blank (Json.not_blank h.data)]
  unfold decoder Decoder.stateless streamEvents
  simp only [if_neg (not_doneMark h.data), h.data]
  simp only [pieceEvents, h.sound, usage?_eq, h.usage]
  rfl

theorem hear_of_isDone (h : IsDone event) : decoder.hear () event = .ok ([.done], ()) := by
  have hblank : Text.blank event.data = false := by
    by_contra hblank
    rw [IsDone, Text.trim, Text.trimStart_of_blank (by simpa using hblank)] at h
    exact absurd h (by decide)
  rw [Decoder.hear_of_not_blank hblank]
  unfold decoder Decoder.stateless streamEvents
  simp only [if_pos (show Text.trim event.data = doneMark from h)]
  rfl

theorem callDelta_of_fragmentIn {fragment : ToolCallDelta} {entry : Json}
    (h : FragmentIn fragment entry) (hfew : fragment.index ≤ maxCount) (position : Nat) :
    callDelta position entry = fragment := by
  unfold callDelta Usage.countIn
  simp only [h.index, h.id, h.name, h.arguments, Option.map_some, Option.getD_some,
    Nat.min_eq_left hfew]

theorem choiceDelta_of_entries {fragments : List ToolCallDelta} {entries : List Json}
    (h : List.Forall₂ FragmentIn fragments entries) :
    (∀ fragment ∈ fragments, fragment.index ≤ maxCount) → ∀ position,
      ((entries.zipIdx position).map fun (call, position) => callDelta position call) =
        fragments := by
  induction h with
  | nil => exact fun _ _ => rfl
  | cons hentry hentries ih =>
    intro hfew position
    rw [List.zipIdx_cons, List.map_cons, ih fun f hf => hfew f (List.mem_cons_of_mem _ hf)]
    exact congrArg (· :: _) (callDelta_of_fragmentIn hentry (hfew _ List.mem_cons_self) position)

theorem hear_of_piece (h : Piece event delta reason usage)
    (hfew : ∀ fragment ∈ delta.toolCalls, fragment.index ≤ maxCount) :
    decoder.hear () event = .ok
      (.delta delta :: (((reason.map finishReason).map .finish).toList ++
        ((reported usage).map .usage).toList), ()) := by
  obtain ⟨piece, choice, hreads, hchoice, htext, hentries, hreason⟩ := h
  have hdelta : choiceDelta choice = delta := by
    unfold choiceDelta
    simp only [htext, choiceDelta_of_entries hentries hfew 0]
  rw [hear_of_reads hreads, hchoice, Option.elim_some, choiceEvents, hdelta, hreason,
    Option.map_map]
  rfl

theorem hear_of_report (h : Report event usage) :
    decoder.hear () event = .ok (((reported usage).map .usage).toList, ()) := by
  obtain ⟨piece, hreads, hchoices⟩ := h
  have hnone : firstChoice? piece = none := by rw [firstChoice?, hchoices]; rfl
  rw [hear_of_reads hreads, hnone]
  rfl

theorem hearAll_pieces {events : List ServerEvent} {deltas : List Delta}
    (h : List.Forall₂ MidPiece events deltas) :
    (∀ fragment ∈ Delta.calls deltas, fragment.index ≤ maxCount) →
      decoder.hearAll () events = .ok (deltas.map .delta, ()) := by
  induction h with
  | nil => exact fun _ => rfl
  | cons hpiece _ ih =>
    intro hfew
    obtain ⟨usage, hpiece, husage⟩ := hpiece
    simp only [Delta.calls, List.flatMap_cons, List.mem_append] at hfew
    have hhear := hear_of_piece hpiece fun f hf => hfew f (.inl hf)
    rw [reported_of_not_obj husage] at hhear
    exact Decoder.hearAll_cons hhear (ih fun f hf => hfew f (.inr hf))

/-- The pieces of a choice, up to the one with the reason to end. -/
theorem hearAll_choice {opening : List ServerEvent} {deltas : List Delta} {last : ServerEvent}
    (hopening : List.Forall₂ MidPiece opening deltas) (hlast : Piece last delta reason usage)
    (hfew : ∀ fragment ∈ Delta.calls (deltas ++ [delta]), fragment.index ≤ maxCount) :
    decoder.hearAll () (opening ++ [last]) =
      .ok (Transcript.answer none (deltas ++ [delta]) (reason.map finishReason) (reported usage),
        ()) := by
  have hdelta : Delta.calls [delta] = delta.toolCalls := by simp [Delta.calls]
  simp only [Delta.calls_append, hdelta, List.mem_append] at hfew
  have hpieces := hearAll_pieces hopening fun f hf => hfew f (.inl hf)
  have hhear := hear_of_piece hlast fun f hf => hfew f (.inr hf)
  rw [Decoder.hearAll_append hpieces (Decoder.hearAll_singleton hhear)]
  simp [Transcript.answer]

end Reading

namespace Completion

variable {a : Completion}

/-- The fragments an answer is cut into make its calls, in their order. -/
theorem gathered_of_cut {deltas : List Delta} (h : a.Cut deltas) :
    ToolCallDelta.gathered (Delta.calls deltas) = a.calls.map Call.read := by
  -- every call has a fragment, so no index is left out
  have hindices : ToolCallDelta.indices (Delta.calls deltas) = List.range a.calls.length := by
    refine ToolCallDelta.indices_eq List.pairwise_lt_range fun i => ?_
    constructor
    · intro hi
      have hcall := List.getElem?_eq_getElem (List.mem_range.1 hi)
      obtain ⟨first, rest, hfirst, -⟩ := h.calls i _ hcall
      have hmem : first ∈ ToolCallDelta.ofIndex (Delta.calls deltas) i := by simp [hfirst]
      simp only [ToolCallDelta.ofIndex, List.mem_filter, decide_eq_true_eq] at hmem
      exact ⟨first, hmem.1, hmem.2⟩
    · rintro ⟨fragment, hfragment, rfl⟩
      exact List.mem_range.2 (h.indices fragment hfragment)
  rw [ToolCallDelta.gathered, hindices]
  refine List.ext_getElem? fun i => ?_
  rw [List.getElem?_map, List.getElem?_map]
  by_cases hi : i < a.calls.length
  · have hcall := List.getElem?_eq_getElem hi
    rw [List.getElem?_range hi, hcall, Option.map_some, Option.map_some,
      Call.joined_of_cutInto (h.calls i _ hcall)]
  · rw [List.getElem?_eq_none (by simpa using hi), List.getElem?_eq_none (by simpa using hi)]
    rfl

/-- A stream of an answer tells the answer and declares it complete. -/
theorem hearAll_streamed {events : List ServerEvent} (h : a.Streamed events)
    (hfew : a.calls.length < Nat.pow 2 32) :
    ∃ deltas, a.Cut deltas ∧ decoder.hearAll decoder.start events = .ok
      (Transcript.answer none deltas (a.reason.map finishReason) (reported a.usage) ++ [.done],
        ()) := by
  have hbound : ∀ {deltas}, a.Cut deltas → ∀ fragment ∈ Delta.calls deltas,
      fragment.index ≤ maxCount := fun hcut fragment hfragment =>
    Nat.le_sub_one_of_lt (Nat.lt_trans (hcut.indices fragment hfragment) hfew)
  obtain @⟨opening, deltas, last, ending, delta, hopening, hlast, hending, hcut⟩ |
    @⟨opening, deltas, last, report, ending, delta, usage, hopening, hlast, hsilent, hreport,
      hending, hcut⟩ := h
  · refine ⟨_, hcut, ?_⟩
    rw [← List.singleton_append, ← List.append_assoc]
    exact Decoder.hearAll_append (hearAll_choice hopening hlast (hbound hcut))
      (Decoder.hearAll_singleton (hear_of_isDone hending))
  · refine ⟨_, hcut, ?_⟩
    have hchoice := hearAll_choice hopening hlast (hbound hcut)
    have hrest := Decoder.hearAll_cons (hear_of_report hreport)
      (Decoder.hearAll_singleton (hear_of_isDone hending))
    rw [reported_of_not_obj hsilent] at hchoice
    rw [← List.singleton_append, ← List.append_assoc]
    rw [show decoder.start = () from rfl, Decoder.hearAll_append hchoice hrest]
    simp [Transcript.answer]

/-- What a body comes to that holds a whole answer. -/
theorem chatResponse_of_heldBy {body : Json} (h : a.HeldBy body)
    (hvalid : ∀ call ∈ a.calls, FunctionName.isValid call.name = true) (now : Int)
    (id model : String) :
    ∃ response, chatResponse now id model body = .ok response
      ∧ response.substance = ⟨a.text, a.calls.map Call.read,
          some ((a.reason.map finishReason).getD .stop), reported a.usage⟩ := by
  obtain ⟨choice, hchoice, htext, hentries, hreason⟩ := h.choice
  have hcalls := Call.mapM_toolCall hentries hvalid
  refine ⟨_, by unfold chatResponse; rw [hchoice]; simp only [hcalls]; rfl, ?_⟩
  simp only [ChatResponse.substance, Message.of, htext, hreason, usage?_eq, h.usage,
    Content.allText_assemble, Content.toolCalls_assemble]

end Completion

/-- A stream of an answer, however it is cut, comes to a good end and to the same as one body that
holds all of it: the text, the calls in their order, the reason to end and the usage. -/
theorem pumpStream_fragments {a : Completion} {events : List ServerEvent}
    (hstream : a.Streamed events) {body : Json} (hbody : a.HeldBy body)
    (hvalid : ∀ call ∈ a.calls, FunctionName.isValid call.name = true)
    (hfew : a.calls.length < Nat.pow 2 32) {sink : Sink} {context : CallContext}
    {pulls : List (Work ServerEvent)} {last : Work Unit}
    (hs : Smooth sink context pulls last events) (id model : String) (start : Nat) (now : Int) :
    let p := pumpStream decoder sink id model context start pulls last
    ∃ response, chatResponse now id model body = .ok response
      ∧ p.outcome = some (.ok ())
      ∧ Substance.ofChunks p.intake.accepted = response.substance := by
  intro p
  obtain ⟨deltas, hcut, hsaid⟩ := Completion.hearAll_streamed hstream hfew
  obtain ⟨houtcome, hsubstance, -⟩ := pumpStream_answer hs hsaid (.inl rfl) id model start
  obtain ⟨response, hresponse, hwhole⟩ :=
    Completion.chatResponse_of_heldBy hbody hvalid now id model
  refine ⟨response, hresponse, houtcome, ?_⟩
  rw [hsubstance, hwhole, hcut.text, Completion.gathered_of_cut hcut, Option.merge_none_left]

section Errand

/-- Words and two calls, of which the second has no arguments. -/
def errand : Completion where
  text := "Hi"
  calls := [⟨"a", "add", "[1, 2]"⟩, ⟨"b", "now", ""⟩]
  reason := some "tool_calls"
  usage := .mkObj [("prompt_tokens", .nat 3), ("completion_tokens", .nat 4)]

def entryOf (index : Nat) (more function : List (String × Json)) : Json :=
  .mkObj ([("index", .nat index), ("function", .mkObj function)] ++ more)

def choiceOf (content : String) (entries : List Json) (more : List (String × Json)) : Json :=
  .mkObj (("delta", .mkObj [("content", content), ("tool_calls", .arr entries)]) :: more)

/-- The pieces of the choice: the first call is cut in two, and the second comes between. -/
def errandChoices : List Json := [
  choiceOf "H" [entryOf 0 [("id", "a")] [("name", "add"), ("arguments", "[1,")]] [],
  choiceOf "i" [entryOf 1 [("id", "b")] [("name", "now")], entryOf 0 [] [("arguments", " 2]")]]
    [("finish_reason", "tool_calls")]]

def errandDeltas : List Delta := [
  ⟨some "H", [⟨0, some "a", some "add", "[1,"⟩]⟩,
  ⟨some "i", [⟨1, some "b", some "now", ""⟩, ⟨0, none, none, " 2]"⟩]⟩]

def errandEvents : List ServerEvent :=
  errandChoices.map (fun choice => .ofData (Json.mkObj [("choices", .arr [choice])]).render) ++
    [.ofData (Json.mkObj [("choices", .arr []), ("usage", errand.usage)]).render,
      .ofData doneMark]

def errandBody : Json :=
  .mkObj [("usage", errand.usage), ("choices", .arr [.mkObj [("finish_reason", "tool_calls"),
    ("message", .mkObj [("content", "Hi"), ("tool_calls", .arr [
      .mkObj [("id", "a"), ("function", .mkObj [("name", "add"), ("arguments", "[1, 2]")])],
      .mkObj [("id", "b"), ("function", .mkObj [("name", "now"), ("arguments", "")])]])])]])]

theorem errand_streamed :
    ∃ response, chatResponse 0 "r" "m" errandBody = .ok response
      ∧ let p := pumpStream decoder .all "r" "m" .unbounded 0
          (errandEvents.map fun e => .done (.ok e)) (.done (.ok ()))
        p.outcome = some (.ok ()) ∧ Substance.ofChunks p.intake.accepted = response.substance := by
  have hfirst : MidPiece (.ofData (Json.mkObj [("choices", .arr [errandChoices[0]])]).render)
      errandDeltas[0] :=
    ⟨.null, ⟨.mkObj [("choices", .arr [errandChoices[0]])], errandChoices[0],
      ⟨by decide +kernel, rfl, rfl⟩, rfl, rfl, .cons ⟨rfl, rfl, rfl, rfl⟩ .nil, rfl⟩, rfl⟩
  have hlast : Piece (.ofData (Json.mkObj [("choices", .arr [errandChoices[1]])]).render)
      errandDeltas[1] (some "tool_calls") .null :=
    ⟨.mkObj [("choices", .arr [errandChoices[1]])], errandChoices[1],
      ⟨by decide +kernel, rfl, rfl⟩, rfl, rfl,
      .cons ⟨rfl, rfl, rfl, rfl⟩ (.cons ⟨rfl, rfl, rfl, rfl⟩ .nil), rfl⟩
  have hreport :
      Report (.ofData (Json.mkObj [("choices", .arr []), ("usage", errand.usage)]).render)
        errand.usage :=
    ⟨.mkObj [("choices", .arr []), ("usage", errand.usage)], ⟨by decide +kernel, rfl, rfl⟩, rfl⟩
  have hdone : IsDone (.ofData doneMark) := by unfold IsDone; decide
  have hcut : errand.Cut ([errandDeltas[0]] ++ [errandDeltas[1]]) := by
    refine ⟨by decide, by decide, fun i call hcall => ?_⟩
    rcases i with _ | _ | i
    · obtain rfl := Option.some.inj hcall
      exact ⟨_, _, rfl, rfl, rfl, by decide⟩
    · obtain rfl := Option.some.inj hcall
      exact ⟨_, _, rfl, rfl, rfl, by decide⟩
    · simp [errand] at hcall
  have hstream : errand.Streamed errandEvents :=
    .reported (.cons hfirst .nil) hlast rfl hreport hdone hcut
  have hbody : errand.HeldBy errandBody :=
    ⟨⟨_, rfl, rfl, .cons ⟨rfl, rfl, rfl⟩ (.cons ⟨rfl, rfl, rfl⟩ .nil), rfl⟩, rfl⟩
  exact pumpStream_fragments hstream hbody (by decide) (by decide) (.atOnce errandEvents)
    "r" "m" 0 0

end Errand

end Switchboard.OpenAI
