import Switchboard.Proofs.Dialect.OpenAI.Streaming
import Switchboard.Proofs.Outcome

/-!
# Names that an answer calls

An answer that comes at once is refused for the first call whose name is none that a function can
have (`chatResponse_of_misnamed`). The fragments of a stream are handed on with the names they have,
so a stream of that answer is delivered, and its names with it (`calls_misnamed`).
-/

namespace Switchboard.OpenAI

open FunctionName

/-- The name of the function that an entry of a message calls; it is empty if none is given. -/
def calledName (entry : Json) : String := textIn (entry.get "function") "name"

/-- The calls in the message of a choice. -/
def entries (choice : Json) : List Json :=
  (((choice.get "message").get "tool_calls").arr?).getD []

/-- The failure of an answer that calls a function by a name that none can have. -/
def misnamed (name : String) : Failure :=
  .untranslatable ("The provided function name '" ++ name ++
    "' had invalid characters, it must match this regex [a-zA-Z0-9_-]+")

section Body

variable {entry choice answer : Json} {f : Failure}

theorem toolCall_eq_error_iff : toolCall entry = .error f ↔
    isValid (calledName entry) = false ∧ f = misnamed (calledName entry) := by
  simp only [toolCall, calledName, misnamed]
  split_ifs with hvalid
  · simp [hvalid]
  · simp [hvalid, eq_comm]

theorem exists_toolCall_iff :
    (∃ part, toolCall entry = .ok part) ↔ isValid (calledName entry) = true := by
  simp only [toolCall, calledName]
  split_ifs with hvalid
  · simp [hvalid]
  · simp [hvalid]

theorem chatResponse_of_mapM (hchoice : firstChoice? answer = some choice)
    (h : (entries choice).mapM toolCall = .error f) (now : Int) (id model : String) :
    chatResponse now id model answer = .error f := by
  unfold entries at h
  unfold chatResponse
  rw [hchoice]
  simp only [h]
  rfl

/-- An answer is refused for the first call in it that is misnamed. -/
theorem chatResponse_of_misnamed (hchoice : firstChoice? answer = some choice)
    (hentry : entry ∈ entries choice) (hinvalid : isValid (calledName entry) = false) (now : Int)
    (id model : String) :
    ∃ before first after, entries choice = before ++ first :: after
      ∧ (∀ e ∈ before, isValid (calledName e) = true) ∧ isValid (calledName first) = false
      ∧ chatResponse now id model answer = .error (misnamed (calledName first)) := by
  have hfails : ∃ f, (entries choice).mapM toolCall = .error f := by
    rcases hcalls : (entries choice).mapM toolCall with f | parts
    · exact ⟨f, rfl⟩
    · obtain ⟨part, -, hpart⟩ := exists_result_of_mapM hcalls hentry
      simp [exists_toolCall_iff.1 ⟨part, hpart⟩] at hinvalid
  obtain ⟨f, hf⟩ := hfails
  obtain ⟨before, first, after, hsplit, hbefore, hfirst⟩ := mapM_eq_error_iff.1 hf
  obtain ⟨hinvalid, rfl⟩ := toolCall_eq_error_iff.1 hfirst
  exact ⟨before, first, after, hsplit, fun e he => exists_toolCall_iff.1 (hbefore e he), hinvalid,
    chatResponse_of_mapM hchoice hf now id model⟩

theorem exists_chatResponse_iff (hchoice : firstChoice? answer = some choice) (now : Int)
    (id model : String) : (∃ response, chatResponse now id model answer = .ok response) ↔
      ∀ entry ∈ entries choice, isValid (calledName entry) = true := by
  simp only [← exists_toolCall_iff, ← exists_mapM_eq_ok_iff, entries]
  unfold chatResponse
  rw [hchoice]
  exact exists_bind_pure_iff

end Body

/-- Every call has a fragment with its id and its name, however the answer is cut. -/
theorem Completion.Cut.exists_fragment {a : Completion} {deltas : List Delta} (h : a.Cut deltas)
    {call : Call} (hcall : call ∈ a.calls) :
    ∃ fragment ∈ Delta.calls deltas,
      fragment.id = some call.id ∧ fragment.name = some call.name := by
  obtain ⟨i, hi⟩ := List.mem_iff_getElem?.1 hcall
  obtain ⟨first, rest, hfirst, hid, hname, -⟩ := h.calls i call hi
  have hmem : first ∈ ToolCallDelta.ofIndex (Delta.calls deltas) i := by simp [hfirst]
  exact ⟨first, (List.mem_filter.1 hmem).1, hid, hname⟩

/-- An answer that comes at once is accepted if all the names in it are valid, and is refused for
the first that is not. In a stream of an answer the names are not looked at: however it is cut, it
comes to a good end, and each call is delivered under the name it has. -/
theorem calls_misnamed {a : Completion} {events : List ServerEvent} (hstream : a.Streamed events)
    (hfew : a.calls.length < Nat.pow 2 32) {sink : Sink} {context : CallContext}
    {pulls : List (Work ServerEvent)} {last : Work Unit}
    (hs : Smooth sink context pulls last events) (id model : String) (start : Nat) (now : Int) :
    let p := pumpStream decoder sink id model context start pulls last
    (∀ answer choice, firstChoice? answer = some choice →
      ((∃ response, chatResponse now id model answer = .ok response) ↔
        ∀ entry ∈ entries choice, isValid (calledName entry) = true)
      ∧ ∀ entry ∈ entries choice, isValid (calledName entry) = false →
        ∃ before first after, entries choice = before ++ first :: after
          ∧ (∀ e ∈ before, isValid (calledName e) = true) ∧ isValid (calledName first) = false
          ∧ chatResponse now id model answer = .error (misnamed (calledName first)))
      ∧ p.outcome = some (.ok ())
      ∧ ∀ call ∈ a.calls, ∃ chunk ∈ p.intake.accepted, ∃ fragment ∈ chunk.delta.toolCalls,
          fragment.id = some call.id ∧ fragment.name = some call.name := by
  intro p
  obtain ⟨deltas, hcut, hsaid⟩ := Completion.hearAll_streamed hstream hfew
  obtain ⟨houtcome, -, hcalls⟩ := pumpStream_answer hs hsaid (.inl rfl) id model start
  refine ⟨fun answer choice hchoice => ⟨exists_chatResponse_iff hchoice now id model,
    fun entry hentry hinvalid => chatResponse_of_misnamed hchoice hentry hinvalid now id model⟩,
    houtcome, ?_⟩
  intro call hcall
  obtain ⟨fragment, hfragment, hnamed⟩ := hcut.exists_fragment hcall
  rw [← hcalls, Delta.calls, List.mem_flatMap] at hfragment
  obtain ⟨delta, hdelta, hfragment⟩ := hfragment
  obtain ⟨chunk, hchunk, rfl⟩ := List.mem_map.1 hdelta
  exact ⟨chunk, hchunk, fragment, hfragment, hnamed⟩

section Weather

/-- Two calls, of a name with a space in it and of no name. -/
def weather : Completion where
  text := ""
  calls := [⟨"a", "get weather", "\x7b\x7d"⟩, ⟨"b", "", ""⟩]
  reason := some "tool_calls"
  usage := .null

def weatherBody : Json :=
  .mkObj [("choices", .arr [.mkObj [
    ("message", .mkObj [("tool_calls", .arr [
      .mkObj [("id", "a"), ("function", .mkObj [("name", "get weather"),
        ("arguments", "\x7b\x7d")])],
      .mkObj [("id", "b"), ("function", .mkObj [("name", ""), ("arguments", "")])]])]),
    ("finish_reason", "tool_calls")]])]

/-- The pieces of the choice: the arguments of the first call are cut in two. -/
def weatherChoices : List Json := [
  choiceOf "" [entryOf 0 [("id", "a")] [("name", "get weather"), ("arguments", "\x7b")]] [],
  choiceOf "" [entryOf 0 [] [("arguments", "\x7d")], entryOf 1 [("id", "b")] [("name", "")]]
    [("finish_reason", "tool_calls")]]

def weatherDeltas : List Delta := [
  ⟨some "", [⟨0, some "a", some "get weather", "\x7b"⟩]⟩,
  ⟨some "", [⟨0, none, none, "\x7d"⟩, ⟨1, some "b", some "", ""⟩]⟩]

def weatherEvents : List ServerEvent :=
  (weatherChoices.map fun choice => .ofData (Json.mkObj [("choices", .arr [choice])]).render) ++
    [.ofData doneMark]

theorem weather_heldBy : weather.HeldBy weatherBody :=
  ⟨⟨_, rfl, rfl, .cons ⟨rfl, rfl, rfl⟩ (.cons ⟨rfl, rfl, rfl⟩ .nil), rfl⟩, rfl⟩

theorem weather_cut : weather.Streamed weatherEvents := by
  have hfirst : MidPiece (.ofData (Json.mkObj [("choices", .arr [weatherChoices[0]])]).render)
      weatherDeltas[0] :=
    ⟨.null, ⟨.mkObj [("choices", .arr [weatherChoices[0]])], weatherChoices[0],
      ⟨by decide +kernel, rfl, rfl⟩, rfl, rfl, .cons ⟨rfl, rfl, rfl, rfl⟩ .nil, rfl⟩, rfl⟩
  have hlast : Piece (.ofData (Json.mkObj [("choices", .arr [weatherChoices[1]])]).render)
      weatherDeltas[1] (some "tool_calls") .null :=
    ⟨.mkObj [("choices", .arr [weatherChoices[1]])], weatherChoices[1],
      ⟨by decide +kernel, rfl, rfl⟩, rfl, rfl,
      .cons ⟨rfl, rfl, rfl, rfl⟩ (.cons ⟨rfl, rfl, rfl, rfl⟩ .nil), rfl⟩
  have hdone : IsDone (.ofData doneMark) := by unfold IsDone; decide
  refine .reporting (.cons hfirst .nil) hlast hdone ⟨by decide, by decide, fun i call hcall => ?_⟩
  rcases i with _ | _ | i
  · obtain rfl := Option.some.inj hcall
    exact ⟨_, _, rfl, rfl, rfl, by decide⟩
  · obtain rfl := Option.some.inj hcall
    exact ⟨_, _, rfl, rfl, rfl, by decide⟩
  · simp [weather] at hcall

theorem weather_misnamed :
    let p := pumpStream decoder .all "r" "m" .unbounded 0
      (weatherEvents.map fun e => .done (.ok e)) (.done (.ok ()))
    (∃ name, isValid name = false
      ∧ chatResponse 0 "r" "m" weatherBody = .error (misnamed name))
      ∧ p.outcome = some (.ok ())
      ∧ ∃ chunk ∈ p.intake.accepted, ∃ fragment ∈ chunk.delta.toolCalls,
          fragment.id = some "a" ∧ fragment.name = some "get weather" := by
  obtain ⟨hbody, houtcome, hcalls⟩ := calls_misnamed weather_cut (by decide)
    (.atOnce weatherEvents) "r" "m" 0 0
  obtain ⟨-, first, -, -, -, hinvalid, herror⟩ :=
    (hbody weatherBody _ rfl).2 _ List.mem_cons_self (by decide)
  exact ⟨⟨_, hinvalid, herror⟩, houtcome,
    hcalls ⟨"a", "get weather", "\x7b\x7d"⟩ List.mem_cons_self⟩

/-- One answer is refused when it comes at once, and delivered with the name and all when it comes
in pieces. -/
theorem weather_unrefused :
    let p := pumpStream decoder .all "r" "m" .unbounded 0
      (weatherEvents.map fun e => .done (.ok e)) (.done (.ok ()))
    weather.HeldBy weatherBody ∧ weather.Streamed weatherEvents
      ∧ isValid "get weather" = false
      ∧ chatResponse 0 "r" "m" weatherBody = .error (misnamed "get weather")
      ∧ p.outcome = some (.ok ())
      ∧ p.intake.accepted.map (·.delta) = weatherDeltas ++ [.empty] := by
  exact ⟨weather_heldBy, weather_cut, by decide, rfl, by decide +kernel⟩

end Weather

end Switchboard.OpenAI
