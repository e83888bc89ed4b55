import Mathlib.Data.List.Induction
import Switchboard.Dialect.OpenAI.Stream
import Switchboard.Proofs.Call.Guard
import Switchboard.Proofs.Stream.Delivery

/-!
# What the chunks add up to

The assembler holds back what comes after a reason to end, so its state is a function of what the
stream has said so far (`Transcript.told`), and so are the chunks it has made. One step from
that state leads to the state of the longer transcript (`step_told`). A pump that nothing
disturbs then delivers the chunks of the whole transcript (`pumpStream_transcript`), and together
they hold the words and the calls of the transcript, each once and in order.
-/

namespace Switchboard

namespace StreamEvent

def delta? : StreamEvent → Option Delta
  | delta d => some d
  | _ => none

def reason? : StreamEvent → Option FinishReason
  | finish reason => some reason
  | _ => none

def usage? : StreamEvent → Option Usage
  | usage u => some u
  | _ => none

end StreamEvent

namespace Delta

/-- One delta after another, from nothing on. -/
def joined (ds : List Delta) : Delta := ds.foldl (· ++ ·) .empty

/-- The text in deltas, put together. -/
def words (ds : List Delta) : String := String.join (ds.map fun d => d.text.getD "")

/-- The fragments of calls in deltas. -/
def calls (ds : List Delta) : List ToolCallDelta := ds.flatMap (·.toolCalls)

theorem words_append (ds es : List Delta) : words (ds ++ es) = words ds ++ words es := by
  simp [words]

theorem calls_append (ds es : List Delta) : calls (ds ++ es) = calls ds ++ calls es := by
  simp [calls]

theorem joined_snoc (ds : List Delta) (d : Delta) : joined (ds ++ [d]) = joined ds ++ d := by
  simp [joined]

theorem words_append_delta (d e : Delta) : words [d ++ e] = words [d] ++ words [e] := by
  show words [d.append e] = _
  rcases he : e.text with _ | t <;> simp [words, append, he]

theorem words_joined (ds : List Delta) : words [joined ds] = words ds := by
  induction ds using List.reverseRecOn with
  | nil => rfl
  | append_singleton ds d ih => rw [joined_snoc, words_append_delta, ih, words_append]

theorem calls_joined (ds : List Delta) : calls [joined ds] = calls ds := by
  induction ds using List.reverseRecOn with
  | nil => rfl
  | append_singleton ds d ih =>
    rw [joined_snoc, calls_append, ← ih]
    show calls [(joined ds).append d] = _
    simp [calls, append]

theorem words_filter (ds : List Delta) : words (ds.filter (!·.isEmpty)) = words ds := by
  induction ds with
  | nil => rfl
  | cons d ds ih =>
    rw [← List.singleton_append, words_append, List.filter_append, words_append, ih]
    congr 1
    cases he : d.isEmpty with
    | false => simp [he]
    | true =>
      simp only [isEmpty, Bool.and_eq_true, String.isEmpty_iff] at he
      simp [words, isEmpty, he]

theorem calls_filter (ds : List Delta) : calls (ds.filter (!·.isEmpty)) = calls ds := by
  induction ds with
  | nil => rfl
  | cons d ds ih =>
    rw [← List.singleton_append, calls_append, List.filter_append, calls_append, ih]
    congr 1
    cases he : d.isEmpty with
    | false => simp [he]
    | true =>
      simp only [isEmpty, Bool.and_eq_true, List.isEmpty_iff] at he
      simp [calls, isEmpty, he]

end Delta

namespace Transcript

variable (id model : String) (t : List StreamEvent)

def deltas : List Delta := t.filterMap StreamEvent.delta?

/-- The deltas that add something. -/
def contents : List Delta := (deltas t).filter (!·.isEmpty)

def reasons : List FinishReason := t.filterMap StreamEvent.reason?

/-- What is said before there is a reason to end. -/
def opening : List StreamEvent := t.takeWhile (·.reason?.isNone)

/-- What is said from the first reason to end on. -/
def closing : List StreamEvent := t.dropWhile (·.reason?.isNone)

/-- The reports of usage, laid over each other. -/
def usage? : Option Usage :=
  match t.filterMap StreamEvent.usage? with
  | [] => none
  | first :: later => some (later.foldl Usage.merge first)

/-- The chunks that go out before the last one. -/
def openingChunks : List Chunk :=
  (contents (opening t)).mapIdx fun i delta => ⟨id, model, i, delta, false, none, none⟩

def lastChunk : Chunk :=
  ⟨id, model, (contents (opening t)).length, Delta.joined (contents (closing t)), true,
    some ((reasons t).getLast?.getD .stop), usage? t⟩

/-- The chunks of an answer, which may not be complete. -/
def chunks (complete : Bool) : List Chunk :=
  openingChunks id model t ++ if complete then [lastChunk id model t] else []

/-- The state of an assembler that has been told all this. -/
def told : Assembler :=
  ⟨id, model, (contents (opening t)).length, usage? t, (reasons t).getLast?,
    Delta.joined (contents (closing t)), false⟩

/-- What is said before the answer is declared complete. -/
def beforeDone : List StreamEvent := t.takeWhile (· ≠ .done)

/-- Whether the answer comes to its end: it is declared complete, or there is a reason to end. -/
def isComplete : Bool := t.contains .done || !(reasons (beforeDone t)).isEmpty

theorem opening_append_closing : opening t ++ closing t = t := List.takeWhile_append_dropWhile

theorem deltas_append (s : List StreamEvent) : deltas (t ++ s) = deltas t ++ deltas s :=
  List.filterMap_append

theorem contents_append (s : List StreamEvent) : contents (t ++ s) = contents t ++ contents s := by
  simp [contents, deltas_append]

theorem reasons_append (s : List StreamEvent) : reasons (t ++ s) = reasons t ++ reasons s :=
  List.filterMap_append

section Snoc

variable {t} {event : StreamEvent}

theorem opening_cons {e : StreamEvent} (h : e.reason? = none) : opening (e :: t) = e :: opening t :=
  List.takeWhile_cons_of_pos (by simp [h])

theorem closing_cons {e : StreamEvent} (h : e.reason? = none) : closing (e :: t) = closing t :=
  List.dropWhile_cons_of_pos (by simp [h])

theorem reasons_cons {e : StreamEvent} (h : e.reason? = none) : reasons (e :: t) = reasons t :=
  List.filterMap_cons_none h

theorem contents_cons (e : StreamEvent) : contents (e :: t) = contents [e] ++ contents t :=
  contents_append [e] t

/-- As long as there is no reason to end, everything belongs to the opening. -/
theorem contents_opening_snoc (event : StreamEvent) :
    ∀ t : List StreamEvent, contents (opening (t ++ [event])) =
      contents (opening t) ++ if reasons t = [] then contents [event] else []
  | [] => by cases event <;> simp [opening, reasons, StreamEvent.reason?, contents, deltas,
      StreamEvent.delta?]
  | e :: t => by
    rcases he : e.reason? with _ | reason
    · rw [List.cons_append, opening_cons he, opening_cons he, reasons_cons he,
        contents_cons (t := opening (t ++ [event])), contents_cons (t := opening t),
        contents_opening_snoc event t, List.append_assoc]
    · simp [opening, reasons, he, contents, deltas]

/-- From the first reason to end on, everything belongs to the closing. -/
theorem contents_closing_snoc (event : StreamEvent) :
    ∀ t : List StreamEvent, contents (closing (t ++ [event])) =
      contents (closing t) ++ if reasons t = [] then [] else contents [event]
  | [] => by cases event <;> simp [closing, reasons, StreamEvent.reason?, contents, deltas,
      StreamEvent.delta?]
  | e :: t => by
    rcases he : e.reason? with _ | reason
    · rw [List.cons_append, closing_cons he, closing_cons he, reasons_cons he]
      exact contents_closing_snoc event t
    · simp [closing, reasons, he, ← contents_append]

theorem usage?_snoc (u : Usage) :
    usage? (t ++ [.usage u]) = some (match usage? t with
      | some known => known.merge u
      | none => u) := by
  simp only [usage?, List.filterMap_append]
  rcases t.filterMap StreamEvent.usage? with _ | ⟨first, later⟩
  · rfl
  · simp [StreamEvent.usage?]

theorem usage?_snoc_of_ne (h : event.usage? = none) : usage? (t ++ [event]) = usage? t := by
  simp [usage?, h]

end Snoc

/-- Told one thing more, the assembler is in the state for the longer transcript, and has made the
chunks of its opening. -/
theorem step_told {event : StreamEvent} (h : event ≠ .done) :
    ((told id model t).step event).1 = told id model (t ++ [event])
      ∧ openingChunks id model (t ++ [event])
        = openingChunks id model t ++ ((told id model t).step event).2.toList := by
  have hopen := contents_opening_snoc event t
  have hclose := contents_closing_snoc event t
  cases event with
  | done => exact absurd rfl h
  | finish reason =>
    rw [show contents [.finish reason] = [] from rfl, ite_self, List.append_nil] at hopen hclose
    have husage : usage? (t ++ [.finish reason]) = usage? t := usage?_snoc_of_ne rfl
    refine ⟨?_, by simp [openingChunks, hopen, told, Assembler.step]⟩
    simp [told, Assembler.step, hopen, hclose, husage, reasons, StreamEvent.reason?]
  | usage u =>
    rw [show contents [.usage u] = [] from rfl, ite_self, List.append_nil] at hopen hclose
    refine ⟨?_, by simp [openingChunks, hopen, told, Assembler.step]⟩
    simp only [told, Assembler.step, Bool.false_eq_true, ↓reduceIte, hopen, hclose, usage?_snoc]
    simp only [reasons, List.filterMap_append]
    cases usage? t <;> simp [StreamEvent.reason?]
  | delta d =>
    have hreason : reasons (t ++ [.delta d]) = reasons t := by
      simp [reasons, StreamEvent.reason?]
    have husage : usage? (t ++ [.delta d]) = usage? t := usage?_snoc_of_ne rfl
    cases hd : d.isEmpty with
    | true =>
      have hnone : contents [.delta d] = [] := by
        simp [contents, deltas, StreamEvent.delta?, hd]
      rw [hnone, ite_self, List.append_nil] at hopen hclose
      refine ⟨?_, by simp [openingChunks, hopen, told, Assembler.step, hd]⟩
      simp [told, Assembler.step, hd, hopen, hclose, hreason, husage]
    | false =>
      have hone : contents [.delta d] = [d] := by
        simp [contents, deltas, StreamEvent.delta?, hd]
      rw [hone] at hopen hclose
      by_cases hr : reasons t = []
      · rw [if_pos hr] at hopen hclose
        rw [List.append_nil] at hclose
        rw [openingChunks, hopen, List.mapIdx_concat]
        simp [openingChunks, told, Assembler.step, Assembler.nextChunk, hd, hopen, hclose,
          hreason, husage, hr]
      · rw [if_neg hr] at hopen hclose
        rw [List.append_nil] at hopen
        have hsome : (reasons t).getLast?.isSome = true := by
          simpa [List.getLast?_isSome] using hr
        rw [openingChunks, hopen]
        simp [openingChunks, told, Assembler.step, hd, hopen, hclose, hreason, husage, hsome,
          Delta.joined_snoc]

theorem stepAll_of_not_done :
    ∀ {said : List StreamEvent} (t : List StreamEvent), .done ∉ said →
      ((told id model t).stepAll said).1 = told id model (t ++ said)
        ∧ openingChunks id model (t ++ said)
          = openingChunks id model t ++ ((told id model t).stepAll said).2
  | [], t, _ => by simp [Assembler.stepAll]
  | event :: rest, t, h => by
    rw [List.mem_cons, not_or] at h
    obtain ⟨h1, h2⟩ := step_told id model t (Ne.symm h.1)
    obtain ⟨h3, h4⟩ := stepAll_of_not_done (t ++ [event]) h.2
    rw [List.append_assoc, List.singleton_append] at h3 h4
    simp only [Assembler.stepAll, h1]
    exact ⟨h3, by rw [h4, h2, List.append_assoc]⟩

theorem stepAll_of_done :
    ∀ {said : List StreamEvent} (t : List StreamEvent), .done ∈ said →
      ((told id model t).stepAll said).1.completed = true
        ∧ openingChunks id model t ++ ((told id model t).stepAll said).2
          = chunks id model (t ++ beforeDone said) true
  | event :: rest, t, h => by
    by_cases he : event = .done
    · subst he
      have hs : (told id model t).step .done
          = ((told id model t).complete, some (lastChunk id model t)) := rfl
      simp only [Assembler.stepAll, hs]
      rw [Assembler.stepAll_of_completed rfl]
      exact ⟨rfl, by simp [chunks, beforeDone]⟩
    · obtain ⟨h1, h2⟩ := step_told id model t he
      obtain ⟨h3, h4⟩ :=
        stepAll_of_done (t ++ [event]) ((List.mem_cons.1 h).resolve_left (Ne.symm he))
      have hb : beforeDone (event :: rest) = event :: beforeDone rest :=
        List.takeWhile_cons_of_pos (by simpa using he)
      simp only [Assembler.stepAll, h1]
      rw [hb]
      exact ⟨h3, by rw [← List.append_assoc, ← h2, h4, List.append_assoc, List.singleton_append]⟩

theorem beforeDone_append (h : .done ∉ t) (said : List StreamEvent) :
    beforeDone (t ++ said) = t ++ beforeDone said := by
  refine List.takeWhile_append_of_pos fun e he => ?_
  have : e ≠ .done := fun hd => h (hd ▸ he)
  simpa using this

theorem beforeDone_of_not_done (h : .done ∉ t) : beforeDone t = t := by
  simpa [beforeDone] using beforeDone_append t h []

theorem isComplete_of_not_done (h : .done ∉ t) : isComplete t = !(reasons t).isEmpty := by
  simp [isComplete, beforeDone_of_not_done t h, h]

theorem words_contents : Delta.words (contents t) = Delta.words (deltas t) :=
  Delta.words_filter _

theorem calls_contents : Delta.calls (contents t) = Delta.calls (deltas t) :=
  Delta.calls_filter _

theorem deltas_openingChunks : (openingChunks id model t).map (·.delta) = contents (opening t) := by
  refine List.ext_getElem? fun i => ?_
  rw [List.getElem?_map, openingChunks, List.getElem?_mapIdx]
  cases (contents (opening t))[i]? <;> rfl

/-- The chunks of a complete answer hold the words of its transcript. -/
theorem words_chunks :
    Delta.words ((chunks id model t true).map (·.delta)) = Delta.words (deltas t) := by
  have hlast : [lastChunk id model t].map (·.delta) = [Delta.joined (contents (closing t))] := rfl
  rw [chunks, if_pos rfl, List.map_append, deltas_openingChunks, hlast, Delta.words_append,
    Delta.words_joined, words_contents, words_contents, ← Delta.words_append, ← deltas_append,
    opening_append_closing]

/-- The chunks of a complete answer hold the fragments of calls in its transcript. -/
theorem calls_chunks :
    Delta.calls ((chunks id model t true).map (·.delta)) = Delta.calls (deltas t) := by
  have hlast : [lastChunk id model t].map (·.delta) = [Delta.joined (contents (closing t))] := rfl
  rw [chunks, if_pos rfl, List.map_append, deltas_openingChunks, hlast, Delta.calls_append,
    Delta.calls_joined, calls_contents, calls_contents, ← Delta.calls_append, ← deltas_append,
    opening_append_closing]

end Transcript

/-- What a stream says, up to where it declares the answer complete, unless it fails before. -/
def Decoder.transcript {σ : Type} (d : Decoder σ) (ending : Outcome Unit) :
    σ → List (Work ServerEvent) → Outcome (List StreamEvent)
  | _, [] => ending.map fun _ => []
  | state, event :: rest =>
    match event.outcome with
    | .error e => .error e
    | .ok event =>
      match d.hear state event with
      | .error e => .error e
      | .ok (said, state) =>
        if .done ∈ said then .ok said else (transcript d ending state rest).map (said ++ ·)

namespace Decoder

variable {σ : Type} {d : Decoder σ} {ending : Outcome Unit} {state : σ} {said : List StreamEvent}

theorem transcript_nil (h : d.transcript ending state [] = .ok said) :
    ending = .ok () ∧ said = [] := by
  rcases ending with e | _
  · simp [transcript, Except.map] at h
  · simpa [transcript, Except.map, eq_comm] using h

/-- A transcript begins with what the first event says, and ends there if that completes it. -/
theorem transcript_cons {event : Work ServerEvent} {rest : List (Work ServerEvent)}
    (h : d.transcript ending state (event :: rest) = .ok said) :
    ∃ heard spoken next, event.outcome = .ok heard ∧ d.hear state heard = .ok (spoken, next)
      ∧ (.done ∈ spoken ∧ said = spoken
        ∨ .done ∉ spoken ∧ ∃ more, d.transcript ending next rest = .ok more
          ∧ said = spoken ++ more) := by
  rw [transcript] at h
  rcases he : event.outcome with e | heard <;> rw [he] at h
  · simp at h
  simp only [] at h
  rcases hh : d.hear state heard with e | ⟨spoken, next⟩ <;> rw [hh] at h
  · simp at h
  refine ⟨heard, spoken, next, rfl, hh, ?_⟩
  simp only [] at h
  split_ifs at h with hd
  · exact .inl ⟨hd, (Except.ok.inj h).symm⟩
  · rcases hm : d.transcript ending next rest with e | more <;> rw [hm] at h
    · simp [Except.map] at h
    · exact .inr ⟨hd, more, rfl, (Except.ok.inj h).symm⟩

end Decoder

/-- A pump that came to an end, and neither the call nor the sink brought it about. -/
structure Pumped.Undisturbed (p : Pumped) : Prop where
  ended : p.outcome ≠ none
  uncancelled : p.outcome ≠ some (.error .cancelled)
  inTime : p.outcome ≠ some (.error CallContext.deadlineExceeded)
  unrefused : p.intake.refused = none

/-- If nothing disturbs the pump, it delivers the chunks of what is said, and fails only if the
answer does not come to its end. -/
def Pumped.Delivers (p : Pumped) (id model : String) (said : List StreamEvent) : Prop :=
  p.Undisturbed →
    p.intake.accepted = Transcript.chunks id model (Transcript.beforeDone said)
        (Transcript.isComplete said)
      ∧ p.outcome = some (if Transcript.isComplete said then .ok () else .error Assembler.cutShort)

namespace Pumped.Delivers

variable {id model : String} {said : List StreamEvent} {i j : Intake} {pulled : Nat}

theorem of_guard {α : Type} {c : CallContext} {now later : Nat} {work : Work α} {e : Failure}
    (h : c.guard now work = some (.error e, later)) (hwork : work.outcome ≠ .error e) :
    Delivers ⟨some (.error e), i, pulled⟩ id model said := by
  intro hp
  rcases CallContext.guard_cases h with he | he | he
  · obtain rfl := Except.error.inj he
    exact absurd rfl hp.uncancelled
  · obtain rfl := Except.error.inj he
    exact absurd rfl hp.inTime
  · exact absurd he.symm hwork

theorem of_refused {sink : Sink} {chunks : List Chunk} {o : Option (Outcome Unit)} {e : Failure}
    (h : i.offerAll sink chunks = (j, .error e)) : Delivers ⟨o, j, pulled⟩ id model said := by
  intro hp
  obtain ⟨before, chunk, after, -, -, hj⟩ := Intake.offerAll_error sink h
  have := hp.unrefused
  simp [hj] at this

end Pumped.Delivers

namespace Flow

open Transcript

variable {σ : Type} (d : Decoder σ) (sink : Sink) (last : Work Unit) (id model : String)

/-- From the state for what has been said so far, a pump delivers the chunks of all that is said. -/
theorem pump_delivers :
    ∀ (events : List (Work ServerEvent)) (pulled : Nat) {t said : List StreamEvent} {f : Flow σ},
      f.assembler = told id model t → f.intake.accepted = openingChunks id model t →
      .done ∉ t → d.transcript last.outcome f.state events = .ok said →
      (f.pump d sink last pulled events).Delivers id model (t ++ said)
  | [], pulled, t, said, f, ha, hi, ht, hs => by
    have hf : f.assembler.completed = false := by rw [ha]; rfl
    obtain ⟨hlast, rfl⟩ := Decoder.transcript_nil hs
    have hreason : f.assembler.finishReason.isNone = (reasons t).isEmpty := by
      rw [ha, told]
      rcases reasons t with _ | _ <;> simp
    rw [pump_nil hf, List.append_nil, hreason]
    rcases hg : f.intake.context.guard f.intake.now last with _ | ⟨e | _, now⟩
    · exact fun hp => absurd rfl hp.ended
    · exact .of_guard hg (by simp [hlast])
    simp only []
    cases hr : (reasons t).isEmpty with
    | true =>
      intro _
      rw [isComplete_of_not_done t ht, beforeDone_of_not_done t ht, hr]
      exact ⟨by simpa [chunks] using hi, rfl⟩
    | false =>
      rcases ho : (f.intake.atTime now).offerAll sink [f.assembler.lastChunk] with ⟨j, e | _⟩
      · exact .of_refused ho
      intro _
      rw [isComplete_of_not_done t ht, beforeDone_of_not_done t ht, hr]
      have hj := (Intake.offerAll_ok sink ho).1
      rw [Intake.atTime_accepted, hi, ha] at hj
      exact ⟨hj, rfl⟩
  | event :: rest, pulled, t, said, f, ha, hi, ht, hs => by
    have hf : f.assembler.completed = false := by rw [ha]; rfl
    obtain ⟨heard, spoken, state, he, hh, hs⟩ := Decoder.transcript_cons hs
    rw [pump_cons hf]
    rcases hg : f.intake.context.guard f.intake.now event with _ | ⟨e | heard', now⟩
    · exact fun hp => absurd rfl hp.ended
    · exact .of_guard hg (by simp [he])
    obtain rfl : heard = heard' := Except.ok.inj (he.symm.trans (CallContext.guard_ok hg))
    simp only [hh]
    rcases ho : (f.intake.atTime now).offerAll sink (f.assembler.stepAll spoken).2 with ⟨j, e | _⟩
    · exact .of_refused ho
    have hj := (Intake.offerAll_ok sink ho).1
    rw [Intake.atTime_accepted, hi, ha] at hj
    rw [ha]
    rcases hs with ⟨hd, rfl⟩ | ⟨hd, more, hmore, rfl⟩
    · obtain ⟨hc, hchunks⟩ := stepAll_of_done id model t hd
      have hcomplete : isComplete (t ++ said) = true := by simp [isComplete, hd]
      simp only [proceed, hc, ↓reduceIte]
      rw [Pumped.Delivers, beforeDone_append t ht, hcomplete]
      exact fun _ => ⟨hj.trans hchunks, rfl⟩
    · obtain ⟨hstate, hchunks⟩ := stepAll_of_not_done id model t hd
      have hc : ((told id model t).stepAll spoken).1.completed = false := by rw [hstate]; rfl
      simp only [proceed, hc, Bool.false_eq_true, ↓reduceIte]
      rw [← List.append_assoc]
      exact pump_delivers rest (pulled + 1) hstate (hj.trans hchunks.symm) (by simp [ht, hd]) hmore

end Flow

namespace OpenAI

/-- An event with a piece of an answer, which comes at once. -/
def piece (members : List (String × Json)) : Work ServerEvent :=
  .done (.ok (.ofData (Json.mkObj members).render))

/-- Words before and after a reason to end, a report of usage, and a failure that nobody sees. -/
def greeting : List (Work ServerEvent) := [
  piece [("choices", .arr [.mkObj [("delta", .mkObj [("content", "He")])]])],
  piece [("choices", .arr [.mkObj [("delta", .mkObj [("content", "llo")]),
    ("finish_reason", "length")]])],
  piece [("choices", .arr [.mkObj [("delta", .mkObj [("content", "!")])]])],
  piece [("choices", .arr []), ("usage", .mkObj [("prompt_tokens", .nat 3)])],
  .done (.ok (.ofData doneMark)),
  .done (.error .unauthenticated)]

end OpenAI

end Switchboard
