import Switchboard.Proofs.Stream.Delivery

/-!
# The order of chunks

Whatever a stream says, the chunks made of it are numbered from zero, and the answer is complete
once the last of them is made (`Assembler.Made`). The sink is offered the first of these chunks, up
to one that it refuses, so what it is offered is in order as well, and a pump comes to a good end
exactly when the final chunk has been accepted (`pumpStream_orderly`).
-/

namespace Switchboard

/-- The first chunks of an answer: numbered from zero, and none after the one that is final. -/
structure Orderly (id model : String) (chunks : List Chunk) : Prop where
  named : ∀ c ∈ chunks, c.id = id ∧ c.model = model
  numbered : chunks.map Chunk.sequence = List.range chunks.length
  early : ∀ c ∈ chunks.dropLast, c.isFinal = false
  reasons : ∀ c ∈ chunks, c.finishReason.isSome = c.isFinal
  usages : ∀ c ∈ chunks, c.usage.isSome = true → c.isFinal = true

namespace Orderly

variable {id model : String} {chunks : List Chunk}

theorem nil : Orderly id model [] := by
  constructor <;> simp

theorem snoc (h : Orderly id model chunks) (hopen : ∀ c ∈ chunks, c.isFinal = false)
    {chunk : Chunk} (hname : chunk.id = id ∧ chunk.model = model)
    (hnumber : chunk.sequence = chunks.length)
    (hreason : chunk.finishReason.isSome = chunk.isFinal)
    (husage : chunk.usage.isSome = true → chunk.isFinal = true) :
    Orderly id model (chunks ++ [chunk]) where
  named := by
    intro c hc
    rcases List.mem_append.1 hc with hc | hc
    · exact h.named c hc
    · exact List.mem_singleton.1 hc ▸ hname
  numbered := by
    rw [List.map_append, h.numbered, List.length_append, List.length_singleton, List.range_succ,
      List.map_singleton, hnumber]
  early := by simpa using hopen
  reasons := by
    intro c hc
    rcases List.mem_append.1 hc with hc | hc
    · exact h.reasons c hc
    · exact List.mem_singleton.1 hc ▸ hreason
  usages := by
    intro c hc
    rcases List.mem_append.1 hc with hc | hc
    · exact h.usages c hc
    · exact List.mem_singleton.1 hc ▸ husage

theorem of_append {more : List Chunk} (h : Orderly id model (chunks ++ more)) :
    Orderly id model chunks where
  named := fun c hc => h.named c (List.mem_append_left _ hc)
  numbered := by
    have := congrArg (List.take chunks.length) h.numbered
    simpa [List.take_range] using this
  early := by
    intro c hc
    refine h.early c ?_
    rcases more with _ | ⟨m, ms⟩
    · simpa using hc
    · rw [List.dropLast_append_of_ne_nil (List.cons_ne_nil m ms)]
      exact List.mem_append_left _ ((List.dropLast_sublist chunks).subset hc)
  reasons := fun c hc => h.reasons c (List.mem_append_left _ hc)
  usages := fun c hc => h.usages c (List.mem_append_left _ hc)

end Orderly

namespace Assembler

/-- An assembler that has made these chunks. -/
structure Made (a : Assembler) (id model : String) (chunks : List Chunk) : Prop where
  named : a.id = id ∧ a.model = model
  sequence : a.sequence = chunks.length
  orderly : Orderly id model chunks
  completed : a.completed = true ↔ ∃ c ∈ chunks, c.isFinal = true

variable {a : Assembler} {id model : String} {chunks : List Chunk}

theorem start_made (id model : String) : (start id model).Made id model [] :=
  ⟨⟨rfl, rfl⟩, rfl, .nil, by simp [start]⟩

theorem Made.isOpen (h : a.Made id model chunks) (ha : a.completed = false) :
    ∀ c ∈ chunks, c.isFinal = false := by
  intro c hc
  by_contra hf
  simp [h.completed.2 ⟨c, hc, by simpa using hf⟩] at ha

theorem Made.next (h : a.Made id model chunks) (ha : a.completed = false) (delta : Delta) :
    { a with sequence := a.sequence + 1 }.Made id model (chunks ++ [a.nextChunk delta]) where
  named := h.named
  sequence := by simp [h.sequence]
  orderly := h.orderly.snoc (h.isOpen ha) h.named h.sequence rfl (by simp [nextChunk])
  completed := by
    have := h.isOpen ha
    simp only [ha, Bool.false_eq_true, false_iff, not_exists, not_and, Bool.not_eq_true]
    intro c hc
    rcases List.mem_append.1 hc with hc | hc
    · exact this c hc
    · rw [List.mem_singleton.1 hc]
      rfl

theorem Made.complete (h : a.Made id model chunks) (ha : a.completed = false) :
    a.complete.Made id model (chunks ++ [a.lastChunk]) where
  named := h.named
  sequence := by simp [Assembler.complete, h.sequence]
  orderly := h.orderly.snoc (h.isOpen ha) h.named h.sequence rfl fun _ => rfl
  completed := by simp [Assembler.complete, lastChunk]

theorem Made.isFinal_last {chunk : Chunk} (h : a.Made id model (chunks ++ [chunk])) :
    chunk.isFinal = a.completed := by
  have hearly := h.orderly.early
  rw [List.dropLast_concat] at hearly
  rw [Bool.eq_iff_iff, h.completed]
  constructor
  · intro hf
    exact ⟨chunk, by simp, hf⟩
  · rintro ⟨c, hc, hf⟩
    rcases List.mem_append.1 hc with hc | hc
    · simp [hearly c hc] at hf
    · exact List.mem_singleton.1 hc ▸ hf

theorem step_made (h : a.Made id model chunks) (event : StreamEvent) :
    (a.step event).1.Made id model (chunks ++ (a.step event).2.toList) := by
  cases hc : a.completed with
  | true => simpa [step_of_completed hc] using h
  | false =>
    rcases step_cases hc event with ⟨usage, reason, trailing, hs⟩ | ⟨d, rfl, hs⟩ | ⟨rfl, hs⟩
    · rw [hs, Option.toList_none, List.append_nil]
      exact ⟨h.named, h.sequence, h.orderly, h.completed⟩
    · rw [hs]
      exact h.next hc d
    · rw [hs]
      exact h.complete hc

theorem stepAll_made :
    ∀ (said : List StreamEvent) {a : Assembler} {chunks : List Chunk}, a.Made id model chunks →
      (a.stepAll said).1.Made id model (chunks ++ (a.stepAll said).2)
  | [], a, chunks, h => by simpa [stepAll] using h
  | event :: rest, a, chunks, h => by
    have := stepAll_made rest (step_made h event)
    simpa only [stepAll, List.append_assoc] using this

end Assembler

/-- What the end of a pump has to do with what its sink was offered. -/
def Pumped.Settled (id model : String) (p : Pumped) : Prop :=
  Orderly id model p.intake.offered
    ∧ (p.outcome = some (.ok ()) ↔ ∃ c ∈ p.intake.accepted, c.isFinal = true)

namespace Pumped

variable {id model : String} {a : Assembler} {i j : Intake} {pulled : Nat}

theorem settled_of_open (hmade : a.Made id model i.accepted) (hi : i.refused = none)
    (ha : a.completed = false) {outcome : Option (Outcome Unit)}
    (ho : outcome ≠ some (.ok ())) : Settled id model ⟨outcome, i, pulled⟩ := by
  refine ⟨by simpa [Intake.offered, hi] using hmade.orderly, ?_⟩
  have := hmade.isOpen ha
  simp only [ho, false_iff, not_exists, not_and, Bool.not_eq_true]
  exact this

theorem settled_of_complete (hmade : a.Made id model i.accepted) (hi : i.refused = none)
    (ha : a.completed = true) : Settled id model ⟨some (.ok ()), i, pulled⟩ :=
  ⟨by simpa [Intake.offered, hi] using hmade.orderly, by simpa using hmade.completed.1 ha⟩

/-- A sink that refuses one of the chunks has accepted none that is final. -/
theorem settled_of_refused {sink : Sink} {chunks : List Chunk} {e : Failure}
    (hmade : a.Made id model (i.accepted ++ chunks))
    (ho : i.offerAll sink chunks = (j, .error e)) :
    Settled id model ⟨some (.error e), j, pulled⟩ := by
  obtain ⟨before, chunk, after, rfl, hj, hr⟩ := Intake.offerAll_error sink ho
  have hall : Orderly id model ((j.accepted ++ [chunk]) ++ after) := by
    simpa [hj] using hmade.orderly
  have hoff := hall.of_append
  refine ⟨by simpa [Intake.offered, hr] using hoff, ?_⟩
  have := hoff.early
  rw [List.dropLast_concat] at this
  simpa using this

end Pumped

namespace Flow

variable {σ : Type} (d : Decoder σ) (sink : Sink) (last : Work Unit)

/-- A pump is settled after a pull if the rest of it is, from wherever it goes on. -/
theorem proceed_settled {id model : String} {state : σ} {a : Assembler} {pulled : Nat}
    {rest : List (Work ServerEvent)} {i : Intake} {chunks : List Chunk}
    (hmade : a.Made id model (i.accepted ++ chunks)) (hi : i.refused = none)
    (hrest : ∀ j : Intake, a.Made id model j.accepted → j.refused = none → a.completed = false →
      (pump d sink last ⟨state, a, j⟩ pulled rest).Settled id model) :
    (proceed d sink last state a pulled rest (i.offerAll sink chunks)).Settled id model := by
  rcases ho : i.offerAll sink chunks with ⟨j, e | _⟩
  · exact Pumped.settled_of_refused hmade ho
  obtain ⟨hj, hjr⟩ := Intake.offerAll_ok sink ho
  rw [← hj] at hmade
  simp only [proceed]
  split_ifs with hc
  · exact Pumped.settled_of_complete hmade (hjr.trans hi) hc
  · exact hrest j hmade (hjr.trans hi) (by simpa using hc)

theorem pump_settled {id model : String} (events : List (Work ServerEvent)) :
    ∀ (pulled : Nat) {f : Flow σ}, f.assembler.Made id model f.intake.accepted →
      f.intake.refused = none → f.assembler.completed = false →
      (f.pump d sink last pulled events).Settled id model := by
  induction events with
  | nil =>
    intro pulled f hmade hr hf
    obtain ⟨run, hpull, hrun⟩ := exists_pull d last hf pulled []
    rw [hrun]
    cases hpull with
    | @ended _ _ now _ ho =>
      exact Pumped.settled_of_open (i := f.intake.atTime now) hmade hr hf ho
    | @closed now =>
      exact proceed_settled d sink last (i := f.intake.atTime now) (hmade.complete hf) hr
        fun _ _ _ h => Bool.noConfusion h
  | cons event rest ih =>
    intro pulled f hmade hr hf
    obtain ⟨run, hpull, hrun⟩ := exists_pull d last hf pulled (event :: rest)
    rw [hrun]
    cases hpull with
    | @ended _ _ now _ ho =>
      exact Pumped.settled_of_open (i := f.intake.atTime now) hmade hr hf ho
    | @heard _ _ _ said _ now _ =>
      exact proceed_settled d sink last (i := f.intake.atTime now)
        (Assembler.stepAll_made said hmade) hr fun _ hmade hr hc => ih (pulled + 1) hmade hr hc

end Flow

/-- The chunks of a stream are offered in order, numbered from zero under one name; only the last of
them can be final, and a reason to end and usage come with it alone. The pump comes to a good end
just when a final chunk was accepted, and so after a failure there is none. -/
theorem pumpStream_orderly {σ : Type} (d : Decoder σ) (sink : Sink) (id model : String)
    (context : CallContext) (now : Nat) (events : List (Work ServerEvent)) (last : Work Unit) :
    let p := pumpStream d sink id model context now events last
    Orderly id model p.intake.offered
      ∧ (p.outcome = some (.ok ()) ↔ ∃ c ∈ p.intake.accepted, c.isFinal = true)
      ∧ ∀ e, p.outcome = some (.error e) → ∀ c ∈ p.intake.accepted, c.isFinal = false := by
  intro p
  obtain ⟨h1, h2⟩ : p.Settled id model :=
    Flow.pump_settled d sink last events 0 (Assembler.start_made id model) rfl rfl
  refine ⟨h1, h2, fun e he c hc => ?_⟩
  by_contra hf
  have := h2.2 ⟨c, hc, by simpa using hf⟩
  simp [he] at this

end Switchboard
