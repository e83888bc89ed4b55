import Mathlib.Data.List.Forall2
import Switchboard.Proofs.Stream.Refusal
import Switchboard.Proofs.Stream.Transcript

/-!
# Streams that nothing disturbs

When the call lasts, every event comes and the sink takes every chunk (`Smooth`), a pump can fail
only where an event cannot be decoded or the answer comes to no end (`Flow.pump_undisturbed`). What
the events of such a stream say is known from the decoder alone (`Decoder.hearAll`), and if it makes
a complete answer, its chunks are all accepted (`pumpStream_smooth`).
-/

namespace Switchboard

/-- The work comes to this, after some time. -/
def Work.Brings {α : Type} (work : Work α) (x : α) : Prop :=
  work.takes.isSome = true ∧ work.outcome = .ok x

/-- Nothing comes between a stream and its sink: the call goes on, the sink takes every chunk, and
the pulls bring these events and then the end. -/
structure Smooth (sink : Sink) (context : CallContext) (pulls : List (Work ServerEvent))
    (last : Work Unit) (events : List ServerEvent) : Prop where
  lasting : context = .unbounded
  accepting : sink.Accepting
  quiet : ∀ taken chunk, (sink taken chunk).cancels = false
  arriving : List.Forall₂ Work.Brings pulls events
  closing : last.Brings ()

/-- Events that all come at once. -/
theorem Smooth.atOnce (events : List ServerEvent) :
    Smooth .all .unbounded (events.map fun e => .done (.ok e)) (.done (.ok ())) events where
  lasting := rfl
  accepting _ _ := rfl
  quiet _ _ := rfl
  arriving := by
    induction events with
    | nil => exact .nil
    | cons event rest ih => exact .cons ⟨rfl, rfl⟩ ih
  closing := ⟨rfl, rfl⟩

/-- Without a cancellation and a deadline, work comes to its own outcome. -/
theorem CallContext.guard_unbounded {α : Type} {work : Work α} {x : α} (h : work.Brings x)
    (now : Nat) : ∃ later, unbounded.guard now work = some (.ok x, later) := by
  obtain ⟨t, ht⟩ := Option.isSome_iff_exists.1 h.1
  refine ⟨now + t, ?_⟩
  unfold guard
  rw [if_neg (by simp [isCancelled, unbounded])]
  simp [unbounded, first, ht, h.2]

namespace Intake

variable {sink : Sink}

theorem offerAll_smooth (hs : sink.Accepting)
    (hq : ∀ taken chunk, (sink taken chunk).cancels = false) :
    ∀ (chunks : List Chunk) {i : Intake}, i.context = .unbounded →
      ∃ j, i.offerAll sink chunks = (j, .ok ()) ∧ j.context = .unbounded
  | [], i, hi => ⟨i, rfl, hi⟩
  | chunk :: rest, i, hi => by
    have hoffer : i.offer sink chunk =
        ({ i with
            now := i.now + (sink i.accepted chunk).takes
            accepted := i.accepted ++ [chunk] }, .ok ()) := by
      simp [offer, hs i.accepted chunk, hq i.accepted chunk]
    rw [offerAll, hoffer]
    exact offerAll_smooth hs hq rest hi

end Intake

namespace Decoder

variable {σ : Type} {d : Decoder σ} {state next final : σ}
  {event : ServerEvent} {before after rest : List ServerEvent} {said more : List StreamEvent}

theorem hear_of_not_blank (h : Text.blank event.data = false) :
    d.hear state event = d.decode state event := by
  unfold hear
  rw [h]
  rfl

/-- What events say one after the other, unless one of them cannot be decoded. -/
def hearAll (d : Decoder σ) (state : σ) : List ServerEvent → Outcome (List StreamEvent × σ)
  | [] => .ok ([], state)
  | event :: rest =>
    match d.hear state event with
    | .error e => .error e
    | .ok (said, next) => (hearAll d next rest).map fun (more, final) => (said ++ more, final)

theorem hearAll_cons (h : d.hear state event = .ok (said, next))
    (hrest : d.hearAll next rest = .ok (more, final)) :
    d.hearAll state (event :: rest) = .ok (said ++ more, final) := by
  simp only [hearAll, h, hrest]
  rfl

theorem hearAll_singleton (h : d.hear state event = .ok (said, next)) :
    d.hearAll state [event] = .ok (said, next) := by
  simpa using hearAll_cons h (rfl : d.hearAll next [] = .ok ([], next))

theorem hearAll_cons_cases (h : d.hearAll state (event :: rest) = .ok (said, final)) :
    ∃ spoken next more, d.hear state event = .ok (spoken, next)
      ∧ d.hearAll next rest = .ok (more, final) ∧ said = spoken ++ more := by
  simp only [hearAll] at h
  rcases hh : d.hear state event with e | ⟨spoken, next⟩ <;> rw [hh] at h
  · simp at h
  simp only [] at h
  rcases hr : d.hearAll next rest with e | ⟨more, last⟩ <;> rw [hr] at h
  · simp [Except.map] at h
  · simp only [Except.map, Except.ok.injEq, Prod.mk.injEq] at h
    obtain ⟨rfl, rfl⟩ := h
    exact ⟨spoken, next, more, rfl, hr, rfl⟩

theorem hearAll_append :
    ∀ {before : List ServerEvent} {state : σ} {said : List StreamEvent},
      d.hearAll state before = .ok (said, next) → d.hearAll next after = .ok (more, final) →
      d.hearAll state (before ++ after) = .ok (said ++ more, final)
  | [], state, said, h, hafter => by
    obtain ⟨rfl, rfl⟩ := Prod.mk.inj (Except.ok.inj h)
    exact hafter
  | event :: rest, state, said, h, hafter => by
    obtain ⟨spoken, middle, between, hh, hr, rfl⟩ := hearAll_cons_cases h
    rw [List.append_assoc]
    exact hearAll_cons hh (hearAll_append hr hafter)

/-- Events that each bring one delta to a decoder that keeps nothing. -/
theorem hearAll_deltas {α : Type} {d : Decoder Unit} {brings : ServerEvent → α → Prop}
    {delta : α → Delta}
    (hbrings : ∀ event x, brings event x → d.hear () event = .ok ([.delta (delta x)], ())) :
    ∀ {events : List ServerEvent} {xs : List α}, List.Forall₂ brings events xs →
      d.hearAll () events = .ok ((xs.map delta).map .delta, ())
  | [], [], .nil => rfl
  | _ :: _, _ :: _, .cons h hrest => hearAll_cons (hbrings _ _ h) (hearAll_deltas hbrings hrest)

open Transcript

theorem beforeDone_append_of_done (more : List StreamEvent) :
    ∀ {said : List StreamEvent}, .done ∈ said → beforeDone (said ++ more) = beforeDone said
  | event :: rest, h => by
    by_cases he : event = .done
    · simp [beforeDone, he]
    · have hrest := beforeDone_append_of_done more ((List.mem_cons.1 h).resolve_left (Ne.symm he))
      unfold beforeDone at hrest ⊢
      rw [List.cons_append, List.takeWhile_cons_of_pos (by simpa using he),
        List.takeWhile_cons_of_pos (by simpa using he), hrest]

/-- The transcript of a stream leaves out only what its events say after the answer is declared
complete. -/
theorem transcript_of_hearAll {pulls : List (Work ServerEvent)} {events : List ServerEvent}
    (hpulls : List.Forall₂ Work.Brings pulls events) :
    ∀ {state : σ} {said : List StreamEvent}, d.hearAll state events = .ok (said, final) →
      ∃ t, d.transcript (.ok ()) state pulls = .ok t ∧ beforeDone t = beforeDone said
        ∧ (.done ∈ t ↔ .done ∈ said) := by
  induction hpulls with
  | nil =>
    intro state said h
    obtain ⟨rfl, rfl⟩ := Prod.mk.inj (Except.ok.inj h)
    exact ⟨[], rfl, rfl, Iff.rfl⟩
  | cons hpull _ ih =>
    intro state said h
    obtain ⟨spoken, next, more, hh, hr, rfl⟩ := hearAll_cons_cases h
    obtain ⟨t, ht, hbefore, hdone⟩ := ih hr
    simp only [transcript, hpull.2, hh]
    by_cases hd : .done ∈ spoken
    · exact ⟨spoken, by rw [if_pos hd], (beforeDone_append_of_done more hd).symm, by simp [hd]⟩
    · refine ⟨spoken ++ t, by rw [if_neg hd, ht]; rfl, ?_, by simp [hd, hdone]⟩
      rw [beforeDone_append spoken hd, beforeDone_append spoken hd, hbefore]

end Decoder

namespace Flow

variable {σ : Type} {d : Decoder σ} {sink : Sink} {context : CallContext} {last : Work Unit}

/-- A pump that comes to a good end, or to none because the stream breaks off, was not disturbed. -/
theorem undisturbed_of_outcome {p : Pumped} (hr : p.intake.refused = none)
    (ho : p.outcome = some (.ok ()) ∨ p.outcome = some (.error Assembler.cutShort)) :
    p.Undisturbed := by
  rcases ho with ho | ho
  · exact ⟨by simp [ho], by simp [ho], by simp [ho], hr⟩
  · refine ⟨by simp [ho], by simp [ho, Assembler.cutShort], ?_, hr⟩
    simp [ho, Assembler.cutShort, CallContext.deadlineExceeded]

theorem pump_undisturbed {id model : String} (hacc : sink.Accepting)
    (hq : ∀ taken chunk, (sink taken chunk).cancels = false) (hlast : last.Brings ())
    {pulls : List (Work ServerEvent)} {events : List ServerEvent}
    (hpulls : List.Forall₂ Work.Brings pulls events) :
    ∀ (pulled : Nat) {t said : List StreamEvent} {f : Flow σ} {final : σ},
      d.hearAll f.state events = .ok (said, final) → f.assembler = Transcript.told id model t →
      f.intake.context = .unbounded → f.intake.refused = none →
      (f.pump d sink last pulled pulls).Undisturbed := by
  induction hpulls with
  | nil =>
    intro pulled t said f final hh ha hc hr
    have hf : f.assembler.completed = false := by rw [ha]; rfl
    obtain ⟨later, hg⟩ := CallContext.guard_unbounded hlast f.intake.now
    rw [pump_nil hf, hc, hg]
    simp only []
    split_ifs with hreason
    · exact undisturbed_of_outcome hr (.inr rfl)
    · obtain ⟨j, hj, -⟩ := Intake.offerAll_smooth hacc hq [f.assembler.lastChunk]
        (i := f.intake.atTime later) hc
      rw [hj, proceed_of_completed rfl]
      exact undisturbed_of_outcome ((Intake.offerAll_ok sink hj).2.trans hr) (.inl rfl)
  | cons hpull hpulls ih =>
    intro pulled t said f final hh ha hc hr
    have hf : f.assembler.completed = false := by rw [ha]; rfl
    obtain ⟨spoken, next, more, hhear, hmore, -⟩ := Decoder.hearAll_cons_cases hh
    obtain ⟨later, hg⟩ := CallContext.guard_unbounded hpull f.intake.now
    rw [pump_cons hf, hc, hg]
    simp only [hhear]
    obtain ⟨j, hj, hjc⟩ := Intake.offerAll_smooth hacc hq (f.assembler.stepAll spoken).2
      (i := f.intake.atTime later) hc
    have hjr := (Intake.offerAll_ok sink hj).2.trans hr
    rw [hj, proceed]
    split_ifs with hcompleted
    · exact undisturbed_of_outcome hjr (.inl rfl)
    · have hd : .done ∉ spoken := by
        intro hd
        rw [ha] at hcompleted
        exact hcompleted (Transcript.stepAll_of_done id model t hd).1
      have hstate := (Transcript.stepAll_of_not_done id model t hd).1
      rw [← ha] at hstate
      exact ih (pulled + 1) (f := ⟨next, _, j⟩) hmore hstate hjc hjr

end Flow

open Transcript in
/-- A stream that nothing disturbs comes to a good end if what it says makes a complete answer, and
then its chunks are those of what it says before it declares the answer complete. -/
theorem pumpStream_smooth {σ : Type} {d : Decoder σ} {sink : Sink} {context : CallContext}
    {pulls : List (Work ServerEvent)} {last : Work Unit} {events : List ServerEvent} {final : σ}
    {said : List StreamEvent} (hs : Smooth sink context pulls last events)
    (hsaid : d.hearAll d.start events = .ok (said, final)) (hc : isComplete said = true)
    (id model : String) (now : Nat) :
    (pumpStream d sink id model context now pulls last).outcome = some (.ok ())
      ∧ (pumpStream d sink id model context now pulls last).intake.accepted =
          chunks id model (beforeDone said) true := by
  obtain ⟨t, ht, hbefore, hdone⟩ := Decoder.transcript_of_hearAll hs.arriving hsaid
  have hcomplete : isComplete t = true := by
    rw [← hc]
    simp only [isComplete, hbefore, List.contains_eq_mem, hdone]
  have hlast : last.outcome = .ok () := hs.closing.2
  rw [← hlast] at ht
  have hp : (pumpStream d sink id model context now pulls last).Undisturbed :=
    Flow.pump_undisturbed (f := .start d id model context now) (t := []) hs.accepting hs.quiet
      hs.closing hs.arriving 0 hsaid rfl hs.lasting rfl
  obtain ⟨haccepted, houtcome⟩ := Flow.pump_delivers d sink last id model pulls 0
    (f := .start d id model context now) (t := []) rfl rfl (by simp) ht hp
  rw [List.nil_append, hcomplete] at houtcome
  rw [List.nil_append, hcomplete, hbefore] at haccepted
  exact ⟨houtcome, haccepted⟩

end Switchboard
