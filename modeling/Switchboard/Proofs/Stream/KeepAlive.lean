import Switchboard.Dialect.Anthropic.Stream
import Switchboard.Dialect.Google.Stream
import Switchboard.Proofs.Call.Schedule
import Switchboard.Proofs.Dialect.OpenAI.Streaming

/-!
# Events that keep a stream alive

Every dialect has events that say nothing and leave the decoder as it was (`KeepAlive.ignores`). To
wait for one of them, and then for what is left of the next event, is to wait for that event
(`CallContext.guard_delayed`). So however many of them are put into a stream, it is pumped to the
same end through the same chunks (`pumpStream_padded`).
-/

namespace Switchboard

/-- The work, begun only after a wait. -/
def Work.delayed {α : Type} (wait : Nat) (work : Work α) : Work α :=
  { work with takes := work.takes.map (wait + ·) }

namespace CallContext

variable {c : CallContext} {now instant : Nat}

/-- A call that is over by some instant is ended by its cancellation or by its deadline, whichever
comes first. -/
theorem ended_of_over (h : c.over? instant ≠ none) :
    (∃ t, c.cancelledAt = some t ∧ t ≤ instant ∧ ∀ d, c.deadline = some d → t ≤ d)
      ∨ ∃ d, c.deadline = some d ∧ d ≤ instant ∧ ∀ t, c.cancelledAt = some t → d < t := by
  rw [Ne, over?_eq_none_iff, isCancelled] at h
  rcases c with ⟨_ | t, _ | d⟩
  · simp at h
  · exact .inr ⟨d, rfl, by simpa using h, by simp⟩
  · exact .inl ⟨t, rfl, by simpa using h, by simp⟩
  · simp only [Option.any_some, decide_eq_false_iff_not, Nat.not_le] at h
    rcases Nat.lt_or_ge d t with hlt | hle
    · exact .inr ⟨d, rfl, by omega, by simpa using hlt⟩
    · exact .inl ⟨t, rfl, by omega, by simpa using hle⟩

/-- A call that is not over yet, but is by some instant, ends all work that goes on until then in
the same way. -/
theorem guard_of_overtaken (h : c.over? now = none) (hover : c.over? instant ≠ none) :
    ∃ f later, ∀ {α : Type} (work : Work α), (∀ t, ends now work = some t → instant ≤ t) →
      c.guard now work = some (.error f, later) := by
  obtain ⟨hcancelled, hdeadline⟩ := over?_eq_none_iff.1 h
  rcases ended_of_over hover with ⟨t, ht, hle, hd⟩ | ⟨d, hd, hle, ht⟩
  · refine ⟨.cancelled, t, fun work hwork => ?_⟩
    rw [guard_of_not_cancelled hcancelled, ht]
    refine first_append_cons ?_ [] (by simp)
    rw [List.forall_mem_cons, List.forall_mem_singleton]
    refine ⟨fun u hu => ?_, fun u hu => Nat.le_trans hle (hwork u hu)⟩
    obtain ⟨d, hd', rfl⟩ := Option.map_eq_some_iff.1 hu
    exact Nat.le_trans (hd d hd') (Nat.le_max_right _ _)
  · have hlt : now < d := any_passed_iff.1 hdeadline d hd
    refine ⟨deadlineExceeded, d, fun work hwork => ?_⟩
    rw [guard_of_not_cancelled hcancelled, hd, Option.map_some,
      Nat.max_eq_right (Nat.le_of_lt hlt)]
    refine first_append_cons ?_ [(c.cancelledAt, Except.error Failure.cancelled)] ?_
    · rw [List.forall_mem_singleton]
      exact fun u hu => Nat.le_trans hle (hwork u hu)
    · rw [List.forall_mem_singleton]
      exact ht

theorem ends_delayed {α : Type} (wait : Nat) (work : Work α) :
    ends now (work.delayed wait) = ends (now + wait) work := by
  simp only [ends, Work.delayed, Option.map_map]
  exact Option.map_congr fun n _ => (Nat.add_assoc now wait n).symm

/-- A call that is not over after a wait goes on as if it began then. -/
theorem guard_of_not_over {α : Type} (h : c.over? now = none) {wait : Nat}
    (hlater : c.over? (now + wait) = none) (work : Work α) :
    c.guard now (work.delayed wait) = c.guard (now + wait) work := by
  obtain ⟨hcancelled, hdeadline⟩ := over?_eq_none_iff.1 h
  obtain ⟨hcancelled', hdeadline'⟩ := over?_eq_none_iff.1 hlater
  have hmax : c.deadline.map (max now) = c.deadline.map (max (now + wait)) :=
    Option.map_congr fun d hd => by
      have hlt := any_passed_iff.1 hdeadline' d hd
      omega
  rw [guard_of_not_cancelled hcancelled, guard_of_not_cancelled hcancelled', ends_delayed, hmax]
  rfl

/-- To wait for a work is to wait for something else first, as long as that puts nothing off. -/
theorem guard_delayed {α β : Type} (c : CallContext) (now wait : Nat) (x : β) (work : Work α) :
    c.guard now (work.delayed wait) =
      match c.guard now ⟨some wait, .ok x⟩ with
      | none => none
      | some (.error f, later) => some (.error f, later)
      | some (.ok _, later) => c.guard later work := by
  cases hnow : c.over? now with
  | some f => rw [guard_of_over hnow, guard_of_over hnow]
  | none =>
    by_cases hlater : c.over? (now + wait) = none
    · have hwait : c.guard now (⟨some wait, .ok x⟩ : Work β) = some (.ok x, now + wait) := by
        rw [show (⟨some wait, .ok x⟩ : Work β) = (Work.done (.ok x)).delayed wait from rfl,
          guard_of_not_over hnow hlater, guard_done hlater]
      rw [hwait, guard_of_not_over hnow hlater]
    · obtain ⟨f, later, hguard⟩ := guard_of_overtaken hnow hlater
      rw [hguard (work.delayed wait) fun t ht => le_of_ends (ends_delayed wait work ▸ ht),
        hguard ⟨some wait, .ok x⟩ fun t ht => Nat.le_of_eq (Option.some.inj ht)]

end CallContext

/-- Pumps that end the same after the same chunks, and at the same time unless they wait
forever. -/
structure Pumped.Same (p q : Pumped) : Prop where
  outcome : q.outcome = p.outcome
  accepted : q.intake.accepted = p.intake.accepted
  refused : q.intake.refused = p.intake.refused
  now : p.outcome ≠ none → q.intake.now = p.intake.now

theorem Pumped.Same.trans {p q r : Pumped} (h : p.Same q) (h' : q.Same r) : p.Same r where
  outcome := h'.outcome.trans h.outcome
  accepted := h'.accepted.trans h.accepted
  refused := h'.refused.trans h.refused
  now hp := (h'.now (h.outcome ▸ hp)).trans (h.now hp)

/-- Two streams, the second of which is the first with quiet events put in. Such an event comes
while the next one is awaited, or the end, and puts nothing off. -/
inductive Padded (quiet : ServerEvent → Prop) :
    List (Work ServerEvent) → Work Unit → List (Work ServerEvent) → Work Unit → Prop
  | ended (last : Work Unit) : Padded quiet [] last [] last
  | pull (work : Work ServerEvent) {pulls padded : List (Work ServerEvent)}
      {last ending : Work Unit} :
      Padded quiet pulls last padded ending →
      Padded quiet (work :: pulls) last (work :: padded) ending
  | before (wait : Nat) (work : Work ServerEvent) {event : ServerEvent}
      {pulls padded : List (Work ServerEvent)} {last ending : Work Unit} :
      quiet event → Padded quiet (work :: pulls) last padded ending →
      Padded quiet (work.delayed wait :: pulls) last (⟨some wait, .ok event⟩ :: padded) ending
  | beforeEnd (wait : Nat) (last : Work Unit) {event : ServerEvent}
      {padded : List (Work ServerEvent)} {ending : Work Unit} :
      quiet event → Padded quiet [] last padded ending →
      Padded quiet [] (last.delayed wait) (⟨some wait, .ok event⟩ :: padded) ending

/-- The event says nothing, and leaves the decoder in the state it was in. -/
def Decoder.Ignores {σ : Type} (d : Decoder σ) (event : ServerEvent) : Prop :=
  ∀ state, d.hear state event = .ok ([], state)

namespace Flow

variable {σ α β : Type} {d : Decoder σ} {sink : Sink} {last : Work Unit}

/-- The flow at a later time. -/
def atTime (f : Flow σ) (now : Nat) : Flow σ := { f with intake := f.intake.atTime now }

/-- Waits under the guard of the call, and goes on with what comes. -/
def await (f : Flow σ) (pulled : Nat) (work : Work α) (next : Flow σ → α → Pumped) : Pumped :=
  match f.intake.context.guard f.intake.now work with
  | none => ⟨none, f.intake, pulled⟩
  | some (.error e, now) => (f.atTime now).ended pulled (.error e)
  | some (.ok x, now) => next (f.atTime now) x

/-- How the pump goes on at the end of a stream. -/
def close (sink : Sink) (f : Flow σ) (pulled : Nat) : Pumped :=
  (f.finish sink).1.ended pulled (f.finish sink).2

theorem pump_nil_eq_await (f : Flow σ) (pulled : Nat) :
    f.pump d sink last pulled [] = f.await pulled last fun f _ => f.close sink pulled := by
  rw [pump, await]
  rcases f.intake.context.guard f.intake.now last with _ | ⟨_ | _, _⟩ <;> rfl

variable (d sink last) in
/-- How the pump goes on with an event. -/
def hear (f : Flow σ) (pulled : Nat) (rest : List (Work ServerEvent)) (event : ServerEvent) :
    Pumped :=
  match f.take d sink event with
  | (f, .error e) => f.ended (pulled + 1) (.error e)
  | (f, .ok true) => f.ended (pulled + 1) (.ok ())
  | (f, .ok false) => f.pump d sink last (pulled + 1) rest

theorem pump_cons_eq_await (f : Flow σ) (pulled : Nat) (work : Work ServerEvent)
    (rest : List (Work ServerEvent)) :
    f.pump d sink last pulled (work :: rest) =
      f.await pulled work fun f event => f.hear d sink last pulled rest event := by
  rw [pump, await]
  rcases f.intake.context.guard f.intake.now work with _ | ⟨_ | _, _⟩ <;> rfl

theorem await_same {f : Flow σ} {pulled pulled' : Nat} {work : Work α}
    {next next' : Flow σ → α → Pumped} (h : ∀ f x, (next f x).Same (next' f x)) :
    (f.await pulled work next).Same (f.await pulled' work next') := by
  unfold await
  rcases f.intake.context.guard f.intake.now work with _ | ⟨e | x, now⟩
  · exact ⟨rfl, rfl, rfl, fun _ => rfl⟩
  · exact ⟨rfl, rfl, rfl, fun _ => rfl⟩
  · exact h _ x

/-- To wait for what comes first, and then for the rest of the work, is to wait for the work. -/
theorem await_delayed {f : Flow σ} {pulled pulled' wait : Nat} {work : Work α} {x : β}
    {next : Flow σ → α → Pumped} {next' : Flow σ → Pumped}
    (h : ∀ f : Flow σ, (f.await pulled work next).Same (next' f)) :
    (f.await pulled (work.delayed wait) next).Same
      (f.await pulled' ⟨some wait, .ok x⟩ fun f _ => next' f) := by
  have hsplit : (f.await pulled (work.delayed wait) next).Same
      (f.await pulled' ⟨some wait, .ok x⟩ fun f _ => f.await pulled work next) := by
    unfold await
    rw [CallContext.guard_delayed _ _ wait x]
    rcases f.intake.context.guard f.intake.now ⟨some wait, .ok x⟩ with _ | ⟨e | _, later⟩
    · exact ⟨rfl, rfl, rfl, fun _ => rfl⟩
    · exact ⟨rfl, rfl, rfl, fun _ => rfl⟩
    · simp only [atTime, Intake.atTime]
      rcases f.intake.context.guard later work with _ | ⟨e | y, now⟩
      · exact ⟨rfl, rfl, rfl, fun hnone => absurd rfl hnone⟩
      · exact ⟨rfl, rfl, rfl, fun _ => rfl⟩
      · exact ⟨rfl, rfl, rfl, fun _ => rfl⟩
  exact hsplit.trans (await_same fun f _ => h f)

/-- To pull an event that says nothing takes time and changes nothing else. -/
theorem pump_of_ignores {event : ServerEvent} {wait : Nat} (h : d.Ignores event) (f : Flow σ)
    (pulled : Nat) (rest : List (Work ServerEvent)) :
    f.pump d sink last pulled (⟨some wait, .ok event⟩ :: rest) =
      f.await pulled (⟨some wait, .ok event⟩ : Work ServerEvent) fun f _ =>
        f.pump d sink last (pulled + 1) rest := by
  rw [pump_cons_eq_await]
  unfold await
  rcases hguard : f.intake.context.guard f.intake.now ⟨some wait, .ok event⟩ with
    _ | ⟨e | heard, later⟩
  · rfl
  · rfl
  obtain rfl : event = heard := Except.ok.inj (CallContext.guard_ok hguard)
  simp only [hear, take_eq, h (f.atTime later).state]
  rfl

/-- A pump goes on the same through a stream and through the stream with more events in it, if
those say nothing. -/
theorem pump_padded {quiet : ServerEvent → Prop} (hquiet : ∀ event, quiet event → d.Ignores event)
    {pulls padded : List (Work ServerEvent)} {ending : Work Unit}
    (h : Padded quiet pulls last padded ending) : ∀ (f : Flow σ) (n m : Nat),
      (f.pump d sink last n pulls).Same (f.pump d sink ending m padded) := by
  induction h with
  | ended last =>
    intro f n m
    rw [pump_nil_eq_await, pump_nil_eq_await]
    exact await_same fun f _ => ⟨rfl, rfl, rfl, fun _ => rfl⟩
  | pull work _ ih =>
    intro f n m
    rw [pump_cons_eq_await, pump_cons_eq_await]
    refine await_same fun f event => ?_
    unfold hear
    rcases f.take d sink event with ⟨g, e | _ | _⟩
    · exact ⟨rfl, rfl, rfl, fun _ => rfl⟩
    · exact ih g (n + 1) (m + 1)
    · exact ⟨rfl, rfl, rfl, fun _ => rfl⟩
  | before wait _ hevent _ ih =>
    intro f n m
    rw [pump_of_ignores (hquiet _ hevent), pump_cons_eq_await]
    exact await_delayed fun f => pump_cons_eq_await f n _ _ ▸ ih f n (m + 1)
  | beforeEnd wait _ hevent _ ih =>
    intro f n m
    rw [pump_of_ignores (hquiet _ hevent), pump_nil_eq_await]
    exact await_delayed fun f => pump_nil_eq_await f n ▸ ih f n (m + 1)

end Flow

namespace Anthropic

/-- The kinds of events that say something. -/
def kinds : List String :=
  ["message_start", "content_block_start", "content_block_delta", "message_delta", "message_stop",
    "error"]

/-- The kind of an event with some data. -/
def kindOf (event : ServerEvent) (data : Json) : String :=
  if event.name ≠ "" ∧ event.name ≠ ServerEvent.defaultName then event.name
  else textIn data "type"

theorem kindEvents_of_not_mem {kind : String} (h : kind ∉ kinds) (data : Json) :
    kindEvents kind data = .ok [] := by
  simp only [kindEvents]
  split
  iterate 6 exact absurd (by decide) h
  rfl

end Anthropic

/-- An event that only keeps the stream alive. -/
inductive Decoder.KeepAlive : ∀ {σ : Type}, Decoder σ → ServerEvent → Prop
  | blank {σ : Type} {d : Decoder σ} {event : ServerEvent} :
      Text.blank event.data = true → KeepAlive d event
  | anthropic {event : ServerEvent} {data : Json} :
      Json.ofString? event.data = some data → Anthropic.kindOf event data ∉ Anthropic.kinds →
      KeepAlive Anthropic.decoder event
  | openAI {event : ServerEvent} {piece : Json} :
      Json.ofString? event.data = some piece → piece.member? "error" = none →
      OpenAI.firstChoice? piece = none → (piece.get "usage").isObj = false →
      KeepAlive OpenAI.decoder event
  | google {event : ServerEvent} {piece : Json} :
      Json.ofString? event.data = some piece → Google.candidate? piece = none →
      (piece.get "promptFeedback").string? "blockReason" = none →
      (piece.get "usageMetadata").isObj = false → KeepAlive Google.decoder event

namespace Decoder.KeepAlive

variable {σ : Type} {d : Decoder σ} {event : ServerEvent}

theorem ignores (h : d.KeepAlive event) : d.Ignores event := by
  intro state
  cases h with
  | blank hblank => exact if_pos hblank
  | @anthropic _ data hdata hkind =>
    rw [hear_of_not_blank (Json.not_blank hdata)]
    have hsaid := Anthropic.kindEvents_of_not_mem hkind data
    simp only [Anthropic.kindOf] at hsaid
    simp [Anthropic.decoder, stateless, Anthropic.streamEvents, hdata, hsaid, Except.map]
  | openAI hpiece hsound hchoice husage =>
    rw [OpenAI.hear_of_reads ⟨hpiece, hsound, rfl⟩, hchoice, OpenAI.reported_of_not_obj husage]
    rfl
  | google hpiece hcandidate hblocked husage =>
    rw [hear_of_not_blank (Json.not_blank hpiece)]
    simp [Google.decoder, hpiece, Google.pieceEvents, hcandidate, Google.isBlocked, hblocked,
      Google.usage?, husage]

end Decoder.KeepAlive

/-- Events that only keep a stream alive are not to be told from none: wherever they are put, and
however many, the sink is offered the same chunks, numbered the same and with the same calls, and
the pump comes to the same end, where the stream breaks off too. -/
theorem pumpStream_padded {σ : Type} {d : Decoder σ} {pulls padded : List (Work ServerEvent)}
    {last ending : Work Unit} (h : Padded d.KeepAlive pulls last padded ending) (sink : Sink)
    (id model : String) (context : CallContext) (now : Nat) :
    (pumpStream d sink id model context now pulls last).Same
      (pumpStream d sink id model context now padded ending) :=
  Flow.pump_padded (fun _ => Decoder.KeepAlive.ignores) h _ 0 0

namespace Google

/-- A piece with one call. -/
def callPiece (name : String) : ServerEvent :=
  .ofData (Json.mkObj [("candidates", .arr [.mkObj [("content", .mkObj [("parts",
    .arr [.mkObj [("functionCall", .mkObj [("name", name)])]])])]])]).render

/-- Two calls, and then the end, with no reason given. -/
def truncated : List (Work ServerEvent) :=
  [⟨some 50, .ok (callPiece "look")⟩, ⟨some 70, .ok (callPiece "leap")⟩]

/-- The same calls at the same times, with blanks and empty objects while they are awaited. -/
def truncatedSlowly : List (Work ServerEvent) :=
  [⟨some 20, .ok (.ofData " ")⟩, ⟨some 30, .ok (callPiece "look")⟩, ⟨some 60, .ok (.ofData "{}")⟩,
    ⟨some 0, .ok ⟨"ping", ""⟩⟩, ⟨some 10, .ok (callPiece "leap")⟩, ⟨some 25, .ok (.ofData "{}")⟩]

theorem truncated_padded :
    Padded decoder.KeepAlive truncated ⟨some 40, .ok ()⟩ truncatedSlowly ⟨some 15, .ok ()⟩
      ∧ let p := pumpStream decoder .all "r" "m" ⟨none, some 900⟩ 0 truncatedSlowly
          ⟨some 15, .ok ()⟩
        p.outcome = some (.error Assembler.cutShort)
          ∧ p.intake.accepted =
              [⟨"r", "m", 0, ⟨none, [⟨0, some "call_0", some "look", ""⟩]⟩, false, none, none⟩,
                ⟨"r", "m", 1, ⟨none, [⟨1, some "call_1", some "leap", ""⟩]⟩, false, none, none⟩]
          ∧ p.intake.now = 160 := by
  have hblank : decoder.KeepAlive (.ofData " ") := .blank (by decide)
  have hping : decoder.KeepAlive ⟨"ping", ""⟩ := .blank (by decide)
  have hread : Json.ofString? "{}" = some (.obj []) := by decide +kernel
  have hempty : decoder.KeepAlive (.ofData "{}") := .google hread rfl rfl rfl
  have hpadded :
      Padded decoder.KeepAlive truncated ⟨some 40, .ok ()⟩ truncatedSlowly ⟨some 15, .ok ()⟩ :=
    .before 20 ⟨some 30, .ok (callPiece "look")⟩ hblank (.pull _
      (.before 60 ⟨some 10, .ok (callPiece "leap")⟩ hempty
        (.before 0 ⟨some 10, .ok (callPiece "leap")⟩ hping (.pull _
          (.beforeEnd 25 ⟨some 15, .ok ()⟩ hempty (.ended _))))))
  have hsame := pumpStream_padded hpadded .all "r" "m" ⟨none, some 900⟩ 0
  have houtcome : (pumpStream decoder .all "r" "m" ⟨none, some 900⟩ 0 truncated
      ⟨some 40, .ok ()⟩).outcome = some (.error Assembler.cutShort) := by decide +kernel
  refine ⟨hpadded, hsame.outcome.trans houtcome, hsame.accepted.trans ?_,
    (hsame.now (by simp [houtcome])).trans ?_⟩
  · decide +kernel
  · decide +kernel

end Google

end Switchboard
