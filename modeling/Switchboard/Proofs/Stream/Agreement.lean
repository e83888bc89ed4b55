import Switchboard.Proofs.Stream.Sequence

/-!
# Sinks that agree at first

Two sinks may take the first chunks alike and differ on a later one. Pumps into the one and into the
other then run side by side, until a pull adds more chunks than the sinks agree on; from there on
each proceeds by itself (`Flow.pump_alongside`).
-/

namespace Switchboard

/-- Sinks that do the same with each of the first `n` chunks. -/
def Sink.Agree (n : Nat) (s t : Sink) : Prop :=
  ∀ taken chunk, taken.length < n → t taken chunk = s taken chunk

/-- One event never makes more than one chunk go out. -/
def Decoder.Single {σ : Type} (d : Decoder σ) : Prop :=
  ∀ {state event said next}, d.decode state event = .ok (said, next) →
    ∀ a : Assembler, (a.stepAll said).2.length ≤ 1

theorem Decoder.Single.hear {σ : Type} {d : Decoder σ} (hd : d.Single) {state next : σ}
    {event : ServerEvent} {said : List StreamEvent} (h : d.hear state event = .ok (said, next))
    (a : Assembler) : (a.stepAll said).2.length ≤ 1 := by
  unfold Decoder.hear at h
  split_ifs at h
  · obtain ⟨rfl, -⟩ := Prod.mk.inj (Except.ok.inj h)
    exact Nat.zero_le 1
  · exact hd h a

namespace Intake

variable {n : Nat} {s t : Sink}

theorem offer_agree (h : Sink.Agree n s t) {i : Intake} (hi : i.accepted.length < n)
    (chunk : Chunk) : i.offer t chunk = i.offer s chunk := by
  simp only [offer, h i.accepted chunk hi]

theorem offerAll_agree (h : Sink.Agree n s t) :
    ∀ (chunks : List Chunk) {i : Intake}, i.accepted.length + chunks.length ≤ n →
      i.offerAll t chunks = i.offerAll s chunks
  | [], i, hn => rfl
  | chunk :: rest, i, hn => by
    rw [List.length_cons] at hn
    simp only [offerAll, offer_agree h (i := i) (by omega)]
    rcases ho : i.offer s chunk with ⟨j, _ | _⟩
    · rfl
    · have hj : j.accepted.length = i.accepted.length + 1 := by simp [(offer_ok s ho).1]
      exact offerAll_agree h rest (by omega)

end Intake

namespace Flow

variable {σ : Type} (d : Decoder σ) (last : Work Unit)

section Accepted

variable (sink : Sink)

/-- What was accepted stays accepted after a pull if it does so in the rest of the pump. -/
theorem proceed_prefix_of {state : σ} {a : Assembler} {pulled : Nat}
    {rest : List (Work ServerEvent)}
    (hrest : ∀ j : Intake, a.completed = false →
      j.accepted <+: (pump d sink last ⟨state, a, j⟩ pulled rest).intake.accepted) :
    ∀ offered : Intake × Outcome Unit,
      offered.1.accepted <+: (proceed d sink last state a pulled rest offered).intake.accepted
  | (i, .error _) => List.prefix_rfl
  | (i, .ok ()) => by
    rw [proceed]
    split_ifs with hc
    · exact List.prefix_rfl
    · exact hrest i (by simpa using hc)

theorem pump_prefix (events : List (Work ServerEvent)) :
    ∀ (pulled : Nat) {f : Flow σ}, f.assembler.completed = false →
      f.intake.accepted <+: (f.pump d sink last pulled events).intake.accepted := by
  induction events with
  | nil =>
    intro pulled f hf
    obtain ⟨run, hpull, hrun⟩ := exists_pull d last hf pulled []
    rw [hrun]
    cases hpull with
    | ended => exact List.prefix_rfl
    | @closed now =>
      exact (Intake.offerAll_prefix sink _ (i := f.intake.atTime now)).trans
        (proceed_prefix_of d last sink (fun _ h => Bool.noConfusion h) _)
  | cons event rest ih =>
    intro pulled f hf
    obtain ⟨run, hpull, hrun⟩ := exists_pull d last hf pulled (event :: rest)
    rw [hrun]
    cases hpull with
    | ended => exact List.prefix_rfl
    | @heard _ _ _ _ state now _ =>
      refine (Intake.offerAll_prefix sink _ (i := f.intake.atTime now)).trans
        (proceed_prefix_of d last sink (fun j hc => ?_) _)
      exact ih (pulled + 1) (f := ⟨state, _, j⟩) hc

theorem proceed_prefix (state : σ) (a : Assembler) (pulled : Nat) (rest : List (Work ServerEvent))
    (offered : Intake × Outcome Unit) :
    offered.1.accepted <+: (proceed d sink last state a pulled rest offered).intake.accepted :=
  proceed_prefix_of d last sink
    (fun j hc => pump_prefix d last sink rest pulled (f := ⟨state, a, j⟩) hc) offered

end Accepted

section Alongside

variable (n : Nat) (s t : Sink) (id model : String)

/-- Two pumps into sinks that agree on `n` chunks: either there are no more chunks than that, or
both came in the same way to a pull that adds more. -/
inductive Alongside : Pumped → Pumped → Prop
  | together {p : Pumped} : p.intake.accepted.length ≤ n → Alongside p p
  | apart {state : σ} {a : Assembler} {i : Intake} {chunks : List Chunk} {pulled : Nat}
      {rest : List (Work ServerEvent)} :
      i.accepted.length ≤ n → n < i.accepted.length + chunks.length → i.refused = none →
      a.Made id model (i.accepted ++ chunks) → (d.Single → chunks.length ≤ 1) →
      Alongside (proceed d s last state a pulled rest (i.offerAll s chunks))
        (proceed d t last state a pulled rest (i.offerAll t chunks))

variable {n s t id model} (h : Sink.Agree n s t)

include h

theorem proceed_alongside {state : σ} {a : Assembler} {pulled : Nat}
    {rest : List (Work ServerEvent)} {i : Intake} {chunks : List Chunk}
    (hi : i.accepted.length ≤ n) (hr : i.refused = none)
    (hmade : a.Made id model (i.accepted ++ chunks)) (hsingle : d.Single → chunks.length ≤ 1)
    (hrest : ∀ j : Intake, a.Made id model j.accepted → a.completed = false →
      j.accepted.length ≤ n → j.refused = none → Alongside d last n s t id model
        (pump d s last ⟨state, a, j⟩ pulled rest) (pump d t last ⟨state, a, j⟩ pulled rest)) :
    Alongside d last n s t id model (proceed d s last state a pulled rest (i.offerAll s chunks))
      (proceed d t last state a pulled rest (i.offerAll t chunks)) := by
  rcases Nat.lt_or_ge n (i.accepted.length + chunks.length) with hlt | hge
  · exact .apart hi hlt hr hmade hsingle
  rw [Intake.offerAll_agree h chunks hge]
  rcases ho : i.offerAll s chunks with ⟨j, e | _⟩
  · obtain ⟨before, chunk, after, rfl, hj, -⟩ := Intake.offerAll_error s ho
    refine .together (p := ⟨some (.error e), j, pulled⟩) ?_
    simp only [hj, List.length_append, List.length_cons] at hge ⊢
    omega
  · obtain ⟨hj, hjr⟩ := Intake.offerAll_ok s ho
    have hjn : j.accepted.length ≤ n := by rw [hj, List.length_append]; exact hge
    simp only [proceed]
    split_ifs with hc
    · exact .together hjn
    · exact hrest j (hj ▸ hmade) (by simpa using hc) hjn (hjr.trans hr)

theorem pump_alongside (events : List (Work ServerEvent)) :
    ∀ (pulled : Nat) {f : Flow σ}, f.assembler.Made id model f.intake.accepted →
      f.assembler.completed = false → f.intake.accepted.length ≤ n → f.intake.refused = none →
      Alongside d last n s t id model (f.pump d s last pulled events)
        (f.pump d t last pulled events) := by
  induction events with
  | nil =>
    intro pulled f hmade hf hn hr
    obtain ⟨run, hpull, hrun⟩ := exists_pull d last hf pulled []
    rw [hrun, hrun]
    cases hpull with
    | ended => exact .together hn
    | @closed now =>
      exact proceed_alongside d last h (i := f.intake.atTime now) hn hr (hmade.complete hf)
        (fun _ => Nat.le_refl 1) fun _ _ h => Bool.noConfusion h
  | cons event rest ih =>
    intro pulled f hmade hf hn hr
    obtain ⟨run, hpull, hrun⟩ := exists_pull d last hf pulled (event :: rest)
    rw [hrun, hrun]
    cases hpull with
    | ended => exact .together hn
    | @heard _ _ _ said _ now hh =>
      exact proceed_alongside d last h (i := f.intake.atTime now) hn hr
        (Assembler.stepAll_made said hmade) (fun hd => hd.hear hh f.assembler)
        fun _ hmade hc hn hr => ih (pulled + 1) hmade hc hn hr

end Alongside

end Flow

end Switchboard
