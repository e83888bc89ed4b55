import Switchboard.Proofs.Call.Guard
import Switchboard.Proofs.Stream.Agreement

/-!
# What a refusal leaves

A sink that refuses a chunk agrees with one that takes everything on the chunks before. The pull
that adds the chunk ends the pump, with the failure that the sink gave and nothing offered after it
(`Intake.offerAll_refusing`), so what was accepted is what comes first of the chunks that the other
sink takes (`pumpStream_refusing`), and what the stream goes on with is never pulled
(`Flow.pump_append_of_refused`).
-/

namespace Switchboard

namespace Sink

/-- It takes every chunk. -/
def Accepting (sink : Sink) : Prop := ∀ taken chunk, (sink taken chunk).refusal = none

/-- The sink, except that it refuses whatever comes after `n` chunks. -/
def refusing (sink : Sink) (n : Nat) (e : Failure) : Sink := fun taken chunk =>
  { sink taken chunk with
    refusal := if n ≤ taken.length then some e else (sink taken chunk).refusal }

theorem refusing_all (n : Nat) (e : Failure) : all.refusing n e = limited n e := rfl

theorem agree_refusing (sink : Sink) (n : Nat) (e : Failure) :
    Agree n sink (sink.refusing n e) := by
  intro taken chunk h
  simp [refusing, Nat.not_le.2 h]

end Sink

namespace Intake

variable {sink : Sink} {n : Nat} {e : Failure}

theorem offer_accepting (h : sink.Accepting) (i : Intake) (chunk : Chunk) :
    ∃ j, i.offer sink chunk = (j, .ok ()) := by
  simp only [offer, h i.accepted chunk]
  exact ⟨_, rfl⟩

theorem offerAll_accepting (h : sink.Accepting) :
    ∀ (chunks : List Chunk) (i : Intake), ∃ j, i.offerAll sink chunks = (j, .ok ())
  | [], i => ⟨i, rfl⟩
  | chunk :: rest, i => by
    obtain ⟨j, hj⟩ := offer_accepting h i chunk
    simp only [offerAll, hj]
    exact offerAll_accepting h rest j

/-- Of the chunks of a pull, those up to the number of the refusal are accepted. -/
theorem offerAll_refusing (h : sink.Accepting) :
    ∀ (chunks : List Chunk) {i : Intake}, i.accepted.length ≤ n →
      n < i.accepted.length + chunks.length →
      ∃ j, i.offerAll (sink.refusing n e) chunks = (j, .error e)
        ∧ j.accepted = (i.accepted ++ chunks).take n ∧ j.refused = (i.accepted ++ chunks)[n]?
  | [], i, hi, hn => by
    rw [List.length_nil, Nat.add_zero] at hn
    omega
  | chunk :: rest, i, hi, hn => by
    rw [List.length_cons] at hn
    rcases Nat.eq_or_lt_of_le hi with rfl | hlt
    · refine ⟨{ i with refused := some chunk }, ?_, by simp, by simp⟩
      simp [offerAll, offer, Sink.refusing]
    · obtain ⟨k, hk⟩ := offer_accepting h i chunk
      have hrefusing : i.offer (sink.refusing n e) chunk = (k, .ok ()) :=
        (offer_agree (sink.agree_refusing n e) hlt chunk).trans hk
      have hka := (offer_ok sink hk).1
      have hlen : k.accepted.length = i.accepted.length + 1 := by simp [hka]
      obtain ⟨j, hj, h1, h2⟩ := offerAll_refusing h rest (i := k) (by omega) (by omega)
      rw [hka, List.append_assoc, List.singleton_append] at h1 h2
      exact ⟨j, by rw [offerAll, hrefusing]; exact hj, h1, h2⟩

end Intake

/-- What a pump comes to if chunk number `n` is refused with `e`, given what it comes to if not. -/
def Pumped.CutAt (p : Pumped) (n : Nat) (e : Failure) (q : Pumped) : Prop :=
  (p.intake.accepted.length ≤ n → q = p)
    ∧ (n < p.intake.accepted.length → q.outcome = some (.error e)
        ∧ q.intake.accepted = p.intake.accepted.take n ∧ q.intake.refused = p.intake.accepted[n]?)

namespace Flow

variable {σ : Type} {d : Decoder σ} {sink : Sink} {last : Work Unit} {n : Nat} {e : Failure}

theorem cutAt_of_alongside (h : sink.Accepting) {id model : String} {p q : Pumped}
    (hpq : Alongside d last n sink (sink.refusing n e) id model p q) : p.CutAt n e q := by
  cases hpq with
  | together hp => exact ⟨fun _ => rfl, fun hn => by omega⟩
  | @apart state a i chunks pulled rest hi hn hr hmade hsingle =>
    obtain ⟨j, hj⟩ := Intake.offerAll_accepting h chunks i
    obtain ⟨k, hk, haccepted, hrefused⟩ := Intake.offerAll_refusing (e := e) h chunks hi hn
    have hja := (Intake.offerAll_ok sink hj).1
    obtain ⟨more, hmore⟩ := proceed_prefix d last sink state a pulled rest (j, .ok ())
    rw [hj, hk, Pumped.CutAt, ← hmore, hja, List.take_append_of_le_length (by simp; omega),
      List.getElem?_append_left (by simp; omega)]
    refine ⟨fun hle => ?_, fun _ => ⟨rfl, haccepted, hrefused⟩⟩
    simp only [List.length_append] at hle
    omega

section Pulled

variable (d sink last)

theorem pump_pulled_le (events : List (Work ServerEvent)) :
    ∀ (pulled : Nat) {f : Flow σ}, f.assembler.completed = false →
      (f.pump d sink last pulled events).pulled ≤ pulled + events.length := by
  induction events with
  | nil =>
    intro pulled f hf
    obtain ⟨run, hpull, hrun⟩ := exists_pull d last hf pulled []
    rw [hrun]
    cases hpull with
    | ended _ hk => exact hk
    | closed =>
      simp only [proceed_of_completed (show f.assembler.complete.completed = true from rfl)]
      exact Nat.le_refl pulled
  | cons event rest ih =>
    intro pulled f hf
    obtain ⟨run, hpull, hrun⟩ := exists_pull d last hf pulled (event :: rest)
    rw [hrun]
    cases hpull with
    | ended _ hk => exact hk
    | @heard _ _ _ said state now _ =>
      simp only [List.length_cons]
      rcases (f.intake.atTime now).offerAll sink (f.assembler.stepAll said).2 with ⟨i, _ | _⟩
      · simp only [proceed]
        omega
      simp only [proceed]
      split_ifs with hc
      · simp only []
        omega
      · have := ih (pulled + 1) (f := ⟨state, _, i⟩) (by simpa using hc)
        omega

/-- Once a chunk has been refused, it makes no difference what the stream goes on with. -/
theorem pump_append_of_refused :
    ∀ (before more : List (Work ServerEvent)) (pulled : Nat) {f : Flow σ},
      f.assembler.completed = false → f.intake.refused = none →
      (f.pump d sink (.done (.error e)) pulled before).intake.refused ≠ none →
      f.pump d sink last pulled (before ++ more) = f.pump d sink (.done (.error e)) pulled before
  | [], more, pulled, f, hf, hr => by
    rw [pump_nil hf]
    rcases hg : f.intake.context.guard f.intake.now (Work.done (.error e)) with _ | ⟨_ | _, now⟩
    · exact fun h => absurd hr h
    · exact fun h => absurd hr h
    · have := CallContext.guard_ok hg
      simp [Work.done] at this
  | event :: before, more, pulled, f, hf, hr => by
    rw [List.cons_append, pump_cons hf, pump_cons hf]
    rcases f.intake.context.guard f.intake.now event with _ | ⟨_ | event, now⟩
    · exact fun _ => rfl
    · exact fun _ => rfl
    simp only []
    rcases d.hear f.state event with _ | ⟨said, state⟩
    · exact fun _ => rfl
    simp only []
    rcases ho : (f.intake.atTime now).offerAll sink (f.assembler.stepAll said).2 with ⟨i, _ | _⟩
    · exact fun _ => rfl
    simp only [proceed]
    split_ifs with hc
    · exact fun _ => rfl
    · exact pump_append_of_refused before more (pulled + 1) (by simpa using hc)
        ((Intake.offerAll_ok sink ho).2.trans hr)

end Pulled

end Flow

/-- With a sink that refuses what comes after `n` chunks, the first `n` are accepted of those that a
sink takes which takes everything. If there are no more of them, the pump comes to the same end. If
there are more, it fails as the sink did, nothing is offered after the chunk that was refused, and
nothing is pulled that the other sink has not needed to be offered that chunk. -/
theorem pumpStream_refusing {σ : Type} (d : Decoder σ) {sink : Sink} (hsink : sink.Accepting)
    (n : Nat) (e : Failure) (id model : String) (context : CallContext) (now : Nat)
    (events : List (Work ServerEvent)) (last : Work Unit) :
    let p := pumpStream d sink id model context now events last
    let q := pumpStream d (sink.refusing n e) id model context now events last
    q.intake.accepted = p.intake.accepted.take n
      ∧ (p.intake.accepted.length ≤ n → q = p)
      ∧ (n < p.intake.accepted.length → q.outcome = some (.error e)
          ∧ q.intake.offered = p.intake.accepted.take (n + 1)
          ∧ ∀ k, n < (pumpStream d sink id model context now (events.take k)
              (.done (.error e))).intake.accepted.length → q.pulled ≤ k) := by
  intro p q
  have hcut : ∀ events last, (pumpStream d sink id model context now events last).CutAt n e
      (pumpStream d (sink.refusing n e) id model context now events last) := fun events last =>
    Flow.cutAt_of_alongside hsink (Flow.pump_alongside d last (sink.agree_refusing n e) events 0
      (Assembler.start_made id model) rfl (Nat.zero_le n) rfl)
  obtain ⟨hsame, hshort⟩ := hcut events last
  refine ⟨?_, hsame, fun hn => ?_⟩
  · rcases Nat.lt_or_ge n p.intake.accepted.length with hn | hn
    · exact (hshort hn).2.1
    · rw [List.take_of_length_le hn]
      exact congrArg (·.intake.accepted) (hsame hn)
  · obtain ⟨houtcome, haccepted, hrefused⟩ := hshort hn
    refine ⟨houtcome, ?_, fun k hk => ?_⟩
    · rw [Intake.offered, haccepted, hrefused, List.take_add_one]
    · have hr : (pumpStream d (sink.refusing n e) id model context now (events.take k)
          (.done (.error e))).intake.refused ≠ none := by
        rw [((hcut (events.take k) (.done (.error e))).2 hk).2.2]
        simpa using hk
      have hq : q = pumpStream d (sink.refusing n e) id model context now (events.take k)
          (.done (.error e)) := by
        have := Flow.pump_append_of_refused d (sink.refusing n e) last (events.take k)
          (events.drop k) 0 (f := .start d id model context now) rfl rfl hr
        rwa [List.take_append_drop] at this
      have hle := Flow.pump_pulled_le d (sink.refusing n e) (.done (.error e)) (events.take k) 0
        (f := .start d id model context now) rfl
      rw [hq]
      refine Nat.le_trans hle ?_
      simp only [Nat.zero_add, List.length_take]
      exact Nat.min_le_left _ _

/-- It says the data of each event, and then says it again. -/
def Decoder.echo : Decoder Unit :=
  .stateless fun event => .ok [.delta (.ofText event.data), .delta (.ofText event.data)]

/-- The second echo of the second event is not offered, and the third event is not pulled. -/
theorem echo_refused :
    let events := ["a", "b", "c"].map fun data => Work.done (.ok (ServerEvent.ofData data))
    let q := pumpStream .echo (.limited 2 .cancelled) "r" "m" .unbounded 0 events (.done (.ok ()))
    Sink.all.Accepting ∧ q.outcome = some (.error .cancelled) ∧ q.pulled ≤ 2
      ∧ q.intake.offered = [⟨"r", "m", 0, .ofText "a", false, none, none⟩,
          ⟨"r", "m", 1, .ofText "a", false, none, none⟩,
          ⟨"r", "m", 2, .ofText "b", false, none, none⟩] := by
  intro events q
  have hall : Sink.all.Accepting := fun _ _ => rfl
  have hmore : 2 < (pumpStream .echo .all "r" "m" .unbounded 0 events
      (.done (.ok ()))).intake.accepted.length := by decide +kernel
  obtain ⟨houtcome, hoffered, hpulled⟩ := (pumpStream_refusing .echo hall 2 .cancelled "r" "m"
    .unbounded 0 events (.done (.ok ()))).2.2 hmore
  rw [Sink.refusing_all] at houtcome hoffered hpulled
  refine ⟨hall, houtcome, hpulled 2 (by decide +kernel), hoffered.trans ?_⟩
  decide +kernel

end Switchboard
