import Mathlib.Tactic.ByContra
import Mathlib.Tactic.SplitIfs
import Switchboard.Stream.Pump

/-!
# What a pull adds

One pull adds the chunks that the assembler makes of what the event says, and no sink has a say in
them (`Assembler.stepAll`); then they are offered one after the other (`Intake.offerAll`). So the
pump is known by its equations `Flow.pump_cons` and `Flow.pump_nil`, which name nothing else.
-/

namespace Switchboard

namespace Assembler

/-- What events make of the state one after the other, and the chunks that go out. -/
def stepAll (a : Assembler) : List StreamEvent → Assembler × List Chunk
  | [] => (a, [])
  | event :: rest =>
    let after := stepAll (a.step event).1 rest
    (after.1, (a.step event).2.toList ++ after.2)

theorem step_of_completed {a : Assembler} (h : a.completed = true) (event : StreamEvent) :
    a.step event = (a, none) := by
  simp [step, h]

/-- A chunk goes out for a delta as long as there is no reason to end, and for the declaration that
the answer is complete; anything else changes what is held back. -/
theorem step_cases {a : Assembler} (h : a.completed = false) (event : StreamEvent) :
    (∃ usage reason trailing, a.step event =
        ({ a with usage, finishReason := reason, trailing }, none))
    ∨ (∃ d, event = .delta d ∧
        a.step event = ({ a with sequence := a.sequence + 1 }, some (a.nextChunk d)))
    ∨ (event = .done ∧ a.step event = (a.complete, some a.lastChunk)) := by
  rw [step.eq_def, if_neg (by simp [h])]
  cases event with
  | delta d =>
    simp only []
    split_ifs
    · exact .inl ⟨_, _, _, rfl⟩
    · exact .inl ⟨_, _, _, rfl⟩
    · exact .inr (.inl ⟨d, rfl, rfl⟩)
  | finish reason => exact .inl ⟨_, _, _, rfl⟩
  | usage u => exact .inl ⟨_, _, _, rfl⟩
  | done => exact .inr (.inr ⟨rfl, rfl⟩)

theorem stepAll_of_completed {a : Assembler} (h : a.completed = true) :
    ∀ said : List StreamEvent, a.stepAll said = (a, [])
  | [] => rfl
  | event :: rest => by simp [stepAll, step_of_completed h, stepAll_of_completed h rest]

end Assembler

namespace Intake

/-- The intake at a later time. -/
def atTime (i : Intake) (now : Nat) : Intake := { i with now }

@[simp] theorem atTime_accepted (i : Intake) (now : Nat) :
    (i.atTime now).accepted = i.accepted := rfl

variable (sink : Sink)

/-- Offers chunks one after the other, up to where one is refused. -/
def offerAll (i : Intake) : List Chunk → Intake × Outcome Unit
  | [] => (i, .ok ())
  | chunk :: rest =>
    match i.offer sink chunk with
    | (i, .ok ()) => offerAll i rest
    | (i, .error e) => (i, .error e)

theorem offer?_eq (i : Intake) (chunk? : Option Chunk) :
    i.offer? sink chunk? = i.offerAll sink chunk?.toList := by
  rcases chunk? with _ | chunk
  · rfl
  · simp only [offer?, Option.toList_some, offerAll]
    rcases i.offer sink chunk with ⟨j, _ | _⟩ <;> rfl

theorem offerAll_append :
    ∀ (first second : List Chunk) (i : Intake), i.offerAll sink (first ++ second) =
      match i.offerAll sink first with
      | (j, .ok ()) => j.offerAll sink second
      | (j, .error e) => (j, .error e)
  | [], second, i => rfl
  | chunk :: first, second, i => by
    simp only [List.cons_append, offerAll]
    rcases i.offer sink chunk with ⟨j, _ | _⟩
    · rfl
    · exact offerAll_append first second j

theorem offer_ok {i j : Intake} {chunk : Chunk} (h : i.offer sink chunk = (j, .ok ())) :
    j.accepted = i.accepted ++ [chunk] ∧ j.refused = i.refused := by
  simp only [offer] at h
  split at h <;> simp only [Prod.mk.injEq, reduceCtorEq, and_false, and_true] at h
  subst h
  exact ⟨rfl, rfl⟩

theorem offer_error {i j : Intake} {chunk : Chunk} {e : Failure}
    (h : i.offer sink chunk = (j, .error e)) : j = { i with refused := some chunk } := by
  simp only [offer] at h
  split at h <;> simp only [Prod.mk.injEq, reduceCtorEq, and_false] at h
  exact h.1.symm

theorem offerAll_ok :
    ∀ {chunks : List Chunk} {i j : Intake}, i.offerAll sink chunks = (j, .ok ()) →
      j.accepted = i.accepted ++ chunks ∧ j.refused = i.refused
  | [], i, j, h => by
    simp only [offerAll, Prod.mk.injEq, and_true] at h
    simp [h]
  | chunk :: rest, i, j, h => by
    simp only [offerAll] at h
    rcases ho : i.offer sink chunk with ⟨k, _ | _⟩ <;> rw [ho] at h
    · simp at h
    · obtain ⟨h1, h2⟩ := offerAll_ok h
      obtain ⟨h3, h4⟩ := offer_ok sink ho
      exact ⟨by simp [h1, h3], h2.trans h4⟩

/-- A refusal comes after chunks that were accepted, and nothing is offered after it. -/
theorem offerAll_error :
    ∀ {chunks : List Chunk} {i j : Intake} {e : Failure}, i.offerAll sink chunks = (j, .error e) →
      ∃ before chunk after, chunks = before ++ chunk :: after
        ∧ j.accepted = i.accepted ++ before ∧ j.refused = some chunk
  | [], i, j, e, h => by simp [offerAll] at h
  | chunk :: rest, i, j, e, h => by
    simp only [offerAll] at h
    rcases ho : i.offer sink chunk with ⟨k, _ | _⟩ <;> rw [ho] at h
    · simp only [Prod.mk.injEq, Except.error.injEq] at h
      obtain ⟨rfl, rfl⟩ := h
      exact ⟨[], chunk, rest, rfl, by simp [offer_error sink ho], by simp [offer_error sink ho]⟩
    · obtain ⟨before, c, after, rfl, h1, h2⟩ := offerAll_error h
      exact ⟨chunk :: before, c, after, rfl, by simp [h1, (offer_ok sink ho).1], h2⟩

/-- What was accepted stays accepted. -/
theorem offerAll_prefix (chunks : List Chunk) {i : Intake} :
    i.accepted <+: (i.offerAll sink chunks).1.accepted := by
  rcases ho : i.offerAll sink chunks with ⟨j, e | _⟩
  · obtain ⟨before, chunk, after, -, hj, -⟩ := offerAll_error sink ho
    exact ⟨before, hj.symm⟩
  · exact ⟨chunks, (offerAll_ok sink ho).1.symm⟩

end Intake

/-- What an event says; one with blank data says nothing. -/
def Decoder.hear {σ : Type} (d : Decoder σ) (state : σ) (event : ServerEvent) :
    Outcome (List StreamEvent × σ) :=
  if Text.blank event.data then .ok ([], state) else d.decode state event

namespace Flow

variable {σ : Type} {d : Decoder σ} {sink : Sink} {last : Work Unit}

theorem apply_eq (f : Flow σ) (event : StreamEvent) :
    f.apply sink event =
      let offered := f.intake.offerAll sink (f.assembler.step event).2.toList
      ({ f with assembler := (f.assembler.step event).1, intake := offered.1 },
        offered.2.map fun _ => (f.assembler.step event).1.completed) := by
  simp only [apply, Intake.offer?_eq]

theorem applyAll_of_ok :
    ∀ {said : List StreamEvent} {f : Flow σ} {i : Intake}, f.assembler.completed = false →
      f.intake.offerAll sink (f.assembler.stepAll said).2 = (i, .ok ()) →
      f.applyAll sink said = ({ f with assembler := (f.assembler.stepAll said).1, intake := i },
        .ok (f.assembler.stepAll said).1.completed)
  | [], f, i, hf, h => by
    simp only [Assembler.stepAll, Intake.offerAll, Prod.mk.injEq, and_true] at h
    simp only [applyAll, Assembler.stepAll, hf, ← h]
  | event :: rest, f, i, hf, h => by
    simp only [Assembler.stepAll, Intake.offerAll_append] at h
    simp only [applyAll, apply_eq, Assembler.stepAll]
    rcases ho : f.intake.offerAll sink (f.assembler.step event).2.toList with ⟨j, _ | _⟩ <;>
      rw [ho] at h
    · simp at h
    simp only [Except.map]
    cases hc : (f.assembler.step event).1.completed with
    | true =>
      rw [Assembler.stepAll_of_completed hc] at h ⊢
      simp only [Intake.offerAll, Prod.mk.injEq, and_true] at h
      simp only [hc, h]
    | false => exact applyAll_of_ok (f := ⟨f.state, (f.assembler.step event).1, j⟩) hc h

theorem applyAll_of_error :
    ∀ {said : List StreamEvent} {f : Flow σ} {i : Intake} {e : Failure},
      f.assembler.completed = false →
      f.intake.offerAll sink (f.assembler.stepAll said).2 = (i, .error e) →
      (f.applyAll sink said).1.intake = i ∧ (f.applyAll sink said).2 = .error e
  | [], f, i, e, hf, h => by simp [Assembler.stepAll, Intake.offerAll] at h
  | event :: rest, f, i, e, hf, h => by
    simp only [Assembler.stepAll, Intake.offerAll_append] at h
    simp only [applyAll, apply_eq]
    rcases ho : f.intake.offerAll sink (f.assembler.step event).2.toList with ⟨j, _ | _⟩ <;>
      rw [ho] at h
    · simp only [Prod.mk.injEq] at h
      obtain ⟨rfl, h⟩ := h
      simpa [Except.map] using h
    simp only [Except.map]
    cases hc : (f.assembler.step event).1.completed with
    | true =>
      rw [Assembler.stepAll_of_completed hc] at h
      simp [Intake.offerAll] at h
    | false => exact applyAll_of_error (f := ⟨f.state, (f.assembler.step event).1, j⟩) hc h

theorem take_eq (f : Flow σ) (event : ServerEvent) :
    f.take d sink event =
      match d.hear f.state event with
      | .error e => (f, .error e)
      | .ok (said, state) => applyAll sink { f with state } said := by
  simp only [take, Decoder.hear]
  split <;> rfl

variable (d sink last) in
/-- How a pump goes on once the chunks of a pull have been offered. -/
def proceed (state : σ) (a : Assembler) (pulled : Nat) (rest : List (Work ServerEvent)) :
    Intake × Outcome Unit → Pumped
  | (i, .error e) => ⟨some (.error e), i, pulled⟩
  | (i, .ok ()) =>
    if a.completed then ⟨some (.ok ()), i, pulled⟩
    else pump d sink last ⟨state, a, i⟩ pulled rest

theorem proceed_of_completed {state : σ} {a : Assembler} {pulled : Nat}
    {rest : List (Work ServerEvent)} (ha : a.completed = true) :
    ∀ offered : Intake × Outcome Unit, proceed d sink last state a pulled rest offered =
      ⟨some offered.2, offered.1, pulled⟩
  | (_, .error _) => rfl
  | (_, .ok ()) => if_pos ha

/-- A stream with an event ahead, as long as the answer is not complete. -/
theorem pump_cons {f : Flow σ} (hf : f.assembler.completed = false) (pulled : Nat)
    (event : Work ServerEvent) (rest : List (Work ServerEvent)) :
    f.pump d sink last pulled (event :: rest) =
      match f.intake.context.guard f.intake.now event with
      | none => ⟨none, f.intake, pulled⟩
      | some (.error e, now) => ⟨some (.error e), f.intake.atTime now, pulled⟩
      | some (.ok event, now) =>
        match d.hear f.state event with
        | .error e => ⟨some (.error e), f.intake.atTime now, pulled + 1⟩
        | .ok (said, state) =>
          proceed d sink last state (f.assembler.stepAll said).1 (pulled + 1) rest
            ((f.intake.atTime now).offerAll sink (f.assembler.stepAll said).2) := by
  simp only [pump, ended]
  rcases f.intake.context.guard f.intake.now event with _ | ⟨_ | event, now⟩
  · rfl
  · rfl
  have ht : take d sink { f with intake.now := now } event =
      match d.hear f.state event with
      | .error e => ({ f with intake := f.intake.atTime now }, .error e)
      | .ok (said, state) => applyAll sink ⟨state, f.assembler, f.intake.atTime now⟩ said :=
    take_eq _ _
  simp only [ht]
  rcases d.hear f.state event with _ | ⟨said, state⟩
  · rfl
  simp only []
  rcases ho : (f.intake.atTime now).offerAll sink (f.assembler.stepAll said).2 with ⟨i, e | _⟩
  · obtain ⟨h1, h2⟩ := applyAll_of_error (f := ⟨state, f.assembler, f.intake.atTime now⟩) hf ho
    rcases ha : applyAll sink ⟨state, f.assembler, f.intake.atTime now⟩ said with ⟨g, o⟩
    rw [ha] at h1 h2
    simp only [] at h1 h2
    simp only [h1, h2, proceed]
  · rw [applyAll_of_ok (f := ⟨state, f.assembler, f.intake.atTime now⟩) hf ho, proceed]
    cases (f.assembler.stepAll said).1.completed <;> rfl

/-- A stream at its end, as long as the answer is not complete. -/
theorem pump_nil {f : Flow σ} (hf : f.assembler.completed = false) (pulled : Nat) :
    f.pump d sink last pulled [] =
      match f.intake.context.guard f.intake.now last with
      | none => ⟨none, f.intake, pulled⟩
      | some (.error e, now) => ⟨some (.error e), f.intake.atTime now, pulled⟩
      | some (.ok (), now) =>
        if f.assembler.finishReason.isNone then
          ⟨some (.error Assembler.cutShort), f.intake.atTime now, pulled⟩
        else
          proceed d sink last f.state f.assembler.complete pulled []
            ((f.intake.atTime now).offerAll sink [f.assembler.lastChunk]) := by
  simp only [pump, ended, finish, Assembler.close, hf, Bool.false_eq_true, ↓reduceIte]
  rcases f.intake.context.guard f.intake.now last with _ | ⟨_ | _, now⟩
  · rfl
  · rfl
  cases f.assembler.finishReason with
  | none => rfl
  | some reason =>
    simp only [Option.isNone_some, Bool.false_eq_true, ↓reduceIte, Intake.offer?_eq,
      Option.toList_some]
    exact (proceed_of_completed rfl _).symm

section Pull

variable (d last)

/-- What a pull makes of a pump into each sink. It ends the pump, or it adds chunks, which are
offered before the pump proceeds. -/
inductive Pull (f : Flow σ) (pulled : Nat) : List (Work ServerEvent) → (Sink → Pumped) → Prop
  | ended {events : List (Work ServerEvent)} {o : Option (Outcome Unit)} {now k : Nat} :
      o ≠ some (.ok ()) → k ≤ pulled + events.length →
      Pull f pulled events fun _ => ⟨o, f.intake.atTime now, k⟩
  | closed {now : Nat} :
      Pull f pulled [] fun sink => proceed d sink last f.state f.assembler.complete pulled []
        ((f.intake.atTime now).offerAll sink [f.assembler.lastChunk])
  | heard {work : Work ServerEvent} {rest : List (Work ServerEvent)} {event : ServerEvent}
      {said : List StreamEvent} {state : σ} {now : Nat} :
      d.hear f.state event = .ok (said, state) →
      Pull f pulled (work :: rest) fun sink =>
        proceed d sink last state (f.assembler.stepAll said).1 (pulled + 1) rest
          ((f.intake.atTime now).offerAll sink (f.assembler.stepAll said).2)

theorem exists_pull {f : Flow σ} (hf : f.assembler.completed = false) (pulled : Nat)
    (events : List (Work ServerEvent)) :
    ∃ run, Pull d last f pulled events run
      ∧ ∀ sink, f.pump d sink last pulled events = run sink := by
  refine ⟨_, ?_, fun _ => rfl⟩
  rcases events with _ | ⟨event, rest⟩
  · simp only [pump_nil hf]
    rcases f.intake.context.guard f.intake.now last with _ | ⟨_ | _, now⟩
    · exact .ended (by simp) (Nat.le_refl pulled)
    · exact .ended (by simp) (Nat.le_refl pulled)
    simp only []
    split_ifs
    · exact .ended (by simp) (Nat.le_refl pulled)
    · exact .closed
  · simp only [pump_cons hf]
    rcases f.intake.context.guard f.intake.now event with _ | ⟨_ | heard, now⟩
    · exact .ended (by simp) (Nat.le_add_right _ _)
    · exact .ended (by simp) (Nat.le_add_right _ _)
    simp only []
    rcases hh : d.hear f.state heard with _ | ⟨said, state⟩
    · exact .ended (by simp) (by rw [List.length_cons]; omega)
    · exact .heard hh

end Pull

end Flow

end Switchboard
