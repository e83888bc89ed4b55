import Switchboard.Dialect.Anthropic.Stream
import Switchboard.Dialect.Google.Stream
import Switchboard.Dialect.OpenAI.Stream
import Switchboard.Proofs.Call.Guard
import Switchboard.Proofs.Stream.Agreement

/-!
# What a cancellation leaves

The call is looked at before a pull and not between the chunks of one. But in no dialect does an
event say two things that a chunk goes out for (`Decoder.OfDialect.single`), so a call that is
cancelled while a chunk is taken is looked at before there is another one, and the sink is left
alone (`pumpStream_cancelling`).
-/

namespace Switchboard

/-- A chunk may go out for it. -/
def StreamEvent.speaks : StreamEvent → Bool
  | delta _ => true
  | done => true
  | _ => false

section Single

open StreamEvent

theorem Assembler.step_length_le (a : Assembler) (event : StreamEvent) :
    (a.step event).2.toList.length ≤ if event.speaks then 1 else 0 := by
  cases hc : a.completed with
  | true => simp [step_of_completed hc]
  | false =>
    rcases step_cases hc event with ⟨usage, reason, trailing, hs⟩ | ⟨d, rfl, hs⟩ | ⟨rfl, hs⟩
    · simp [hs]
    · simp [hs, speaks]
    · simp [hs, speaks]

theorem Assembler.stepAll_length_le :
    ∀ (said : List StreamEvent) (a : Assembler), (a.stepAll said).2.length ≤ said.countP speaks
  | [], a => Nat.le_refl 0
  | event :: rest, a => by
    have h1 := step_length_le a event
    have h2 := stepAll_length_le rest (a.step event).1
    simp only [stepAll, List.length_append, List.countP_cons]
    omega

theorem Decoder.single_of_speaks {σ : Type} {d : Decoder σ}
    (h : ∀ {state event said next}, d.decode state event = .ok (said, next) →
      said.countP speaks ≤ 1) : d.Single :=
  fun hd a => Nat.le_trans (Assembler.stepAll_length_le _ a) (h hd)

theorem Decoder.stateless_single {decode : ServerEvent → Outcome (List StreamEvent)}
    (h : ∀ {event said}, decode event = .ok said → said.countP speaks ≤ 1) :
    (Decoder.stateless decode).Single := by
  refine single_of_speaks fun {state event said next} hd => ?_
  simp only [stateless] at hd
  rcases hdecode : decode event with e | said' <;> rw [hdecode] at hd <;>
    simp only [Except.map, reduceCtorEq, Except.ok.injEq, Prod.mk.injEq] at hd
  exact hd.1 ▸ h hdecode

theorem countP_silent {α : Type} {f : α → StreamEvent} (hf : ∀ x, (f x).speaks = false)
    (x? : Option α) : (x?.map f).toList.countP speaks = 0 := by
  rcases x? with _ | x
  · rfl
  · simp [hf]

/-- A piece says one delta at most, and it does not declare the answer complete. -/
theorem OpenAI.pieceEvents_speaks {piece : Json} {said : List StreamEvent}
    (h : pieceEvents piece = .ok said) : said.countP speaks ≤ 1 := by
  unfold pieceEvents at h
  split at h
  · simp at h
  rw [← Except.ok.inj h, List.countP_append, countP_silent fun _ => rfl]
  rcases firstChoice? piece with _ | choice
  · exact Nat.zero_le 1
  · rw [Option.elim_some, choiceEvents, List.countP_cons, countP_silent fun _ => rfl]
    exact Nat.le_refl 1

theorem OpenAI.decoder_single : decoder.Single := by
  refine Decoder.stateless_single fun {event said} h => ?_
  unfold streamEvents at h
  split_ifs at h
  · rw [← Except.ok.inj h]
    exact Nat.le_refl 1
  · split at h
    · simp at h
    · exact pieceEvents_speaks h

theorem Anthropic.openedBlock_speaks (index : Nat) (b : Json) :
    (openedBlock index b).countP speaks ≤ 1 := by
  unfold openedBlock
  split
  · exact Nat.le_refl 1
  · split_ifs
    · exact Nat.zero_le 1
    · exact Nat.le_refl 1
  · exact Nat.zero_le 1

theorem Anthropic.filledBlock_speaks (index : Nat) (delta : Json) :
    (filledBlock index delta).countP speaks ≤ 1 := by
  unfold filledBlock
  split
  · exact Nat.le_refl 1
  · exact Nat.le_refl 1
  · exact Nat.zero_le 1

/-- A block is opened with one delta at most and filled with one, and other kinds say none. -/
theorem Anthropic.kindEvents_speaks {kind : String} {data : Json} {said : List StreamEvent}
    (h : kindEvents kind data = .ok said) : said.countP speaks ≤ 1 := by
  simp only [kindEvents] at h
  split at h <;> simp only [reduceCtorEq, Except.ok.injEq] at h <;> rw [← h]
  · rw [usageEvents, countP_silent fun _ => rfl]
    exact Nat.zero_le 1
  · exact openedBlock_speaks _ _
  · exact filledBlock_speaks _ _
  · rw [usageEvents, List.countP_append, countP_silent fun _ => rfl, countP_silent fun _ => rfl]
    exact Nat.zero_le 1
  · exact Nat.le_refl 1
  · exact Nat.zero_le 1

theorem Anthropic.decoder_single : decoder.Single := by
  refine Decoder.stateless_single fun {event said} h => ?_
  unfold streamEvents at h
  split at h
  · simp at h
  · exact kindEvents_speaks h

/-- The parts of a piece are put together in one delta. -/
theorem Google.pieceEvents_speaks (calls : Nat) (piece : Json) :
    (pieceEvents calls piece).1.countP speaks ≤ 1 := by
  unfold pieceEvents
  split
  · simp only []
    rw [List.countP_cons, List.countP_append, countP_silent fun _ => rfl,
      countP_silent fun _ => rfl]
    exact Nat.le_refl 1
  · simp only []
    rw [List.countP_append, countP_silent fun _ => rfl]
    split_ifs
    · exact Nat.zero_le 1
    · exact Nat.zero_le 1

theorem Google.decoder_single : decoder.Single := by
  refine Decoder.single_of_speaks fun {calls event said next} h => ?_
  simp only [decoder] at h
  split at h
  · simp at h
  · rename_i piece _
    have hsaid : (pieceEvents calls piece).1 = said := congrArg Prod.fst (Except.ok.inj h)
    exact hsaid ▸ pieceEvents_speaks calls piece

/-- The decoders of the dialects. -/
inductive Decoder.OfDialect : ∀ {σ : Type}, Decoder σ → Prop
  | openAI : OfDialect OpenAI.decoder
  | anthropic : OfDialect Anthropic.decoder
  | google : OfDialect Google.decoder

theorem Decoder.OfDialect.single {σ : Type} {d : Decoder σ} (h : d.OfDialect) : d.Single := by
  cases h with
  | openAI => exact OpenAI.decoder_single
  | anthropic => exact Anthropic.decoder_single
  | google => exact Google.decoder_single

end Single

theorem Sink.agree_cancelling (sink : Sink) (n : Nat) :
    Agree n sink (sink.cancelling (n + 1)) := by
  intro taken chunk h
  have hlt : ¬ n + 1 ≤ taken.length + 1 := by omega
  simp [cancelling, hlt]

namespace Intake

variable {sink : Sink} {i j : Intake} {chunk : Chunk}

theorem offer_cancelling_error {e : Failure} (n : Nat) (h : i.offer sink chunk = (j, .error e)) :
    i.offer (sink.cancelling n) chunk = (j, .error e) := by
  rw [← h]
  simp only [offer, Sink.cancelling] at h ⊢
  split at h
  · rfl
  · simp at h

/-- A chunk is accepted all the same, and when it has been, the call is cancelled. -/
theorem offer_cancelling_ok (h : i.offer sink chunk = (j, .ok ())) :
    ∃ k, i.offer (sink.cancelling (i.accepted.length + 1)) chunk = (k, .ok ())
      ∧ k.accepted = j.accepted ∧ k.refused = j.refused
      ∧ k.context.isCancelled k.now = true := by
  simp only [offer, Sink.cancelling] at h ⊢
  split at h
  · simp at h
  · obtain ⟨rfl, -⟩ := Prod.mk.inj h
    refine ⟨_, rfl, rfl, rfl, ?_⟩
    simp [CallContext.isCancelled_cancelling]

end Intake

/-- What a pump comes to if the call is cancelled while the chunk after the first `n` is taken,
given what it comes to if not. -/
def Pumped.CancelledAt (p : Pumped) (n : Nat) (q : Pumped) : Prop :=
  match p.intake.accepted[n]? with
  | none => q = p
  | some chunk =>
    q.intake.accepted = p.intake.accepted.take (n + 1) ∧ q.intake.refused = none
      ∧ q.outcome = some (if chunk.isFinal then .ok () else .error .cancelled)

namespace Flow

variable {σ : Type} {d : Decoder σ} {sink : Sink} {last : Work Unit} {n : Nat}

/-- In a call that is cancelled nothing more is pulled. -/
theorem pump_of_cancelled {f : Flow σ} (h : f.intake.context.isCancelled f.intake.now = true)
    (pulled : Nat) (events : List (Work ServerEvent)) :
    f.pump d sink last pulled events = ⟨some (.error .cancelled), f.intake, pulled⟩ := by
  rcases events with _ | ⟨event, rest⟩
  · simp [pump, CallContext.guard_of_cancelled h, ended]
  · simp [pump, CallContext.guard_of_cancelled h, ended]

theorem cancelledAt_of_alongside (hd : d.Single) {id model : String} {p q : Pumped}
    (hpq : Alongside d last n sink (sink.cancelling (n + 1)) id model p q) :
    p.CancelledAt n q := by
  cases hpq with
  | together hp => rw [Pumped.CancelledAt, List.getElem?_eq_none hp]
  | @apart state a i chunks pulled rest hi hn hr hmade hsingle =>
    have hlen := hsingle hd
    obtain ⟨chunk, rfl⟩ : ∃ chunk, chunks = [chunk] :=
      List.length_eq_one_iff.1 (by omega)
    obtain rfl : n = i.accepted.length := by
      rw [List.length_singleton] at hn
      omega
    have hone : ∀ s, i.offerAll s [chunk] = i.offer s chunk := fun s =>
      (Intake.offer?_eq s i (some chunk)).symm
    rw [hone, hone]
    rcases ho : i.offer sink chunk with ⟨j, e | _⟩
    · rw [Intake.offer_cancelling_error _ ho, Pumped.CancelledAt]
      have hj : j.accepted = i.accepted := by rw [Intake.offer_error sink ho]
      simp [proceed, hj]
    · obtain ⟨k, hk, hka, hkr, hcancelled⟩ := Intake.offer_cancelling_ok ho
      obtain ⟨hja, hjr⟩ := Intake.offer_ok sink ho
      obtain ⟨more, hmore⟩ := proceed_prefix d last sink state a pulled rest (j, .ok ())
      have hq : proceed d (sink.cancelling (i.accepted.length + 1)) last state a pulled rest
          (k, .ok ()) =
            ⟨some (if chunk.isFinal then .ok () else .error .cancelled), k, pulled⟩ := by
        rw [hmade.isFinal_last, proceed]
        split_ifs
        · rfl
        · exact pump_of_cancelled hcancelled pulled rest
      have hnext : (i.accepted ++ [chunk] ++ more)[i.accepted.length]? = some chunk := by simp
      have htake : (i.accepted ++ [chunk] ++ more).take (i.accepted.length + 1) =
          i.accepted ++ [chunk] := List.take_left' (by simp)
      rw [hk, hq, Pumped.CancelledAt, ← hmore, hja, hnext, htake]
      exact ⟨hka.trans hja, hkr.trans (hjr.trans hr), rfl⟩

end Flow

/-- In every dialect, if the call is cancelled while a chunk is taken, the chunks up to that one are
accepted and nothing is offered any more, whatever the stream goes on with; the pump comes to a
good end if the chunk is final and is cancelled if not. In a call that is cancelled before the first
pull, nothing is pulled at all. -/
theorem pumpStream_cancelling {σ : Type} {d : Decoder σ} (hd : d.OfDialect) (sink : Sink)
    (id model : String) (context : CallContext) (now : Nat) (events : List (Work ServerEvent))
    (last : Work Unit) :
    let p := pumpStream d sink id model context now events last
    (∀ n,
        let q := pumpStream d (sink.cancelling (n + 1)) id model context now events last
        match p.intake.accepted[n]? with
        | none => q = p
        | some chunk =>
          q.intake.accepted = p.intake.accepted.take (n + 1) ∧ q.intake.refused = none
            ∧ q.outcome = some (if chunk.isFinal then .ok () else .error .cancelled))
      ∧ (context.isCancelled now = true →
          p = ⟨some (.error .cancelled), .start context now, 0⟩) := by
  intro p
  refine ⟨fun n => ?_, fun h => ?_⟩
  · exact Flow.cancelledAt_of_alongside hd.single (Flow.pump_alongside d last
      (sink.agree_cancelling n) events 0 (Assembler.start_made id model) rfl (Nat.zero_le n) rfl)
  · exact Flow.pump_of_cancelled (f := .start d id model context now) h 0 events

namespace Google

/-- A piece in two parts with a reason to end, after which the connection breaks. -/
def broken : List (Work ServerEvent) := [
  .done (.ok (.ofData (Json.mkObj [("candidates", .arr [.mkObj [
    ("content", .mkObj [("parts", .arr [.mkObj [("text", "Hel")], .mkObj [("text", "lo")]])]),
    ("finishReason", "MAX_TOKENS")]])]).render)),
  .done (.error (.transport "connection reset"))]

theorem broken_cancelled :
    let q := pumpStream decoder (Sink.all.cancelling 1) "r" "m" .unbounded 0 broken (.done (.ok ()))
    Decoder.OfDialect decoder ∧ q.intake.accepted =
        [⟨"r", "m", 0, .ofText "Hello", false, none, none⟩]
      ∧ q.intake.refused = none ∧ q.outcome = some (.error .cancelled)
      ∧ pumpStream decoder .all "r" "m" ⟨some 0, none⟩ 0 broken (.done (.ok ())) =
          ⟨some (.error .cancelled), .start ⟨some 0, none⟩ 0, 0⟩ := by
  intro q
  have hcancelling := (pumpStream_cancelling .google .all "r" "m" .unbounded 0 broken
    (.done (.ok ()))).1 0
  have haccepted : (pumpStream decoder .all "r" "m" .unbounded 0 broken
      (.done (.ok ()))).intake.accepted =
        [⟨"r", "m", 0, .ofText "Hello", false, none, none⟩] := by decide +kernel
  simp only [haccepted] at hcancelling
  obtain ⟨h1, h2, h3⟩ := hcancelling
  exact ⟨.google, h1, h2, h3, (pumpStream_cancelling .google .all "r" "m" ⟨some 0, none⟩ 0 broken
    (.done (.ok ()))).2 rfl⟩

end Google

end Switchboard
