import Switchboard.Proofs.Server.Access
import Switchboard.Proofs.Server.Channel

/-!
# The record of a stream

The record of a stream is written when its body is dropped, by whoever drops it, from what the other
side has put on record by then. A failure is on record before it is sent and before the channel is
closed, so a client that comes to the end is never told of a failure that the record leaves out
(`StreamCall.run_recorded`). What the server answers is one of these courses
(`App.streamAnswer_run`).
-/

namespace Switchboard

namespace Closing

variable (c : Closing) (stop : Stop) (operation request : String)

theorem message_record : (c.record operation request).message = c.message :=
  AccessRecord.message_record ..

theorem message_eq_failed_iff : c.message = "stream failed" ↔ c.failure ≠ none := by
  rcases c with ⟨stop, _ | report⟩
  · cases stop <;> simp [message]
  · simp [message]

/-- The record of a failed stream tells the status and the reason of its failure. -/
theorem tells_failed (ending : Ending Unit) (trace : Option String) (f : Failure) :
    (record ⟨stop, some (.ofRun ending trace f)⟩ operation request).Tells operation
      f.kind.status (some f) :=
  AccessRecord.tells_record operation "stream failed" request f.kind.status (some f) _

/-- The record of any other stream tells the status that was sent. -/
theorem tells_sent : (record ⟨stop, none⟩ operation request).Tells operation 200 none :=
  AccessRecord.tells_record operation _ request 200 none none

end Closing

namespace StreamCall

variable {run : ProviderRun} {s s' : StreamCall} {m : Move}

theorem isOpen_of_moves (hm : s.Moves m s') (h : s'.isOpen = true) : s.isOpen = true := by
  cases hm with
  | answered hreader _ => simp [isOpen, hreader]
  | failed => simp [isOpen] at h
  | silenced => simp [isOpen] at h
  | begun hreader => simp [isOpen, hreader]
  | taken hreader _ => simp [isOpen, hreader]
  | finished hreader _ _ => simp [isOpen, hreader]
  | abandoned => simp [isOpen] at h
  | dropped => simp [isOpen] at h
  | released => simp [isOpen] at h
  | _ => exact h

/-- Only dropping a body writes a record. -/
theorem Moves.closings_cases (hm : s.Moves m s') :
    s'.closings = s.closings ∨
      ∃ first atEnd, s.reader = .body first atEnd ∧ s'.reader = .dropping ∧
        ∃ closing, s'.closings = s.closings ++ [closing] := by
  cases hm with
  | @dropped first atEnd hreader => exact .inr ⟨first, atEnd, hreader, rfl, _, rfl⟩
  | _ => exact .inl rfl

/-- What is not there any more does not come back. -/
theorem isOpen_of_run (moves : List Move) (h : (s.run moves).isOpen = true) : s.isOpen = true := by
  by_contra hclosed
  refine run_induction (motive := fun t => ¬t.isOpen = true) (fun t m t' ht hm => ?_) moves
    hclosed h
  exact mt (isOpen_of_moves hm) ht

/-- While the answer is there nothing is written, and nothing is written twice. -/
structure Filed (s : StreamCall) : Prop where
  closings_of_isOpen : s.isOpen = true → s.closings = []
  length_le : s.closings.length ≤ 1

theorem filed_run (room : Nat) (trace : Option String) (run : ProviderRun) (moves : List Move) :
    ((start room trace run).run moves).Filed := by
  refine run_induction (fun s m s' hs hm => ?_) moves ⟨fun _ => rfl, Nat.zero_le 1⟩
  rcases hm.closings_cases with hsame | ⟨first, atEnd, hreader, hdropping, closing, hadded⟩
  · refine ⟨fun hopen => ?_, ?_⟩
    · rw [hsame]
      exact hs.closings_of_isOpen (isOpen_of_moves hm hopen)
    · rw [hsame]
      exact hs.length_le
  · have hnone := hs.closings_of_isOpen (isOpen_iff.2 (.inr ⟨first, atEnd, hreader⟩))
    refine ⟨fun hopen => ?_, ?_⟩
    · simp [isOpen, hdropping] at hopen
    · simp [hadded, hnone]

/-- Once it is gone nothing is added. -/
theorem closings_run (h : ¬s.isOpen = true) (moves : List Move) :
    (s.run moves).closings = s.closings := by
  have hkept : ¬(s.run moves).isOpen = true ∧ (s.run moves).closings = s.closings := by
    refine run_induction (motive := fun t => ¬t.isOpen = true ∧ t.closings = s.closings) ?_ moves
      ⟨h, rfl⟩
    rintro t m t' ⟨hclosed, hsame⟩ hm
    refine ⟨mt (isOpen_of_moves hm) hclosed, ?_⟩
    rcases hm.closings_cases with hkeep | ⟨first, atEnd, hreader, -⟩
    · rw [hkeep, hsame]
    · simp [isOpen, hreader] at hclosed
  exact hkept.2

/-- The first failure stays on record. -/
theorem recorded_run {report : FailureReport} (h : s.recorded = some report) (moves : List Move) :
    (s.run moves).recorded = some report := by
  refine run_induction (motive := fun t => t.recorded = some report) (fun t m t' ht hm => ?_)
    moves h
  cases hm with
  | broke => simp [ht]
  | _ => exact ht

/-- What is on record of a run that was not refused anything is the failure it came to. -/
theorem OnCourse.report (h : s.OnCourse run) {report : FailureReport}
    (hrecorded : s.recorded = some report) :
    ∃ f, run.ending.failure? = some f ∧ report = .ofRun run.ending s.trace f := by
  have hreport : run.report? s.trace = some report := by
    unfold OnCourse at h
    split at h
    · rw [h.2] at hrecorded
      cases hrecorded
    · rw [← h.2, hrecorded]
    · rw [← h.2, hrecorded]
    · rw [← h.2, hrecorded]
  obtain ⟨f, hf, rfl⟩ := Option.map_eq_some_iff.1 hreport
  exact ⟨f, hf, rfl⟩

theorem closings_drop (h : s.closings = []) {first : Option Chunk} {atEnd : Bool}
    (hbody : s.reader = .body first atEnd) (after : List Move) :
    (s.drop.run after).closings = [⟨if atEnd then .finished else .left, s.recorded⟩] := by
  have hdrop : s.drop = { s with
      reader := .dropping
      closings := [⟨if atEnd then .finished else .left, s.recorded⟩] } := by
    simp [drop, hbody, h]
  rw [hdrop, closings_run (by simp [isOpen])]

/-- For every interleaving, a stream that got past its first chunk leaves one record, written when
its body is dropped. It tells of a failure if one is on record by then, and else of whether the
client has come to the end. If it has, the failure of its run is on record. -/
theorem run_recorded (run : ProviderRun) (trace : Option String) (room : Nat) {before : List Move}
    {first : Option Chunk} {atEnd : Bool}
    (hbody : ((start room trace run).run before).reader = .body first atEnd) (after : List Move)
    (operation request : String) :
    let s := (start room trace run).run before
    let last := s.drop.run after
    (∀ earlier, earlier <+: before → ((start room trace run).run earlier).closings = []) ∧
    ∃ record, last.closings.map (·.record operation request) = [record] ∧
      (record.message = "stream failed" ↔ s.recorded ≠ none) ∧
      (∀ report, s.recorded = some report → last.recorded = some report ∧
        ∃ f, run.ending.failure? = some f ∧ report = .ofRun run.ending trace f ∧
          record.Tells operation f.kind.status (some f) ∧
          record = AccessRecord.record operation "stream failed" request f.kind.status
            (some report)) ∧
      (s.recorded = none → record.Tells operation 200 none ∧
        record.message = (if atEnd then "stream completed" else "stream abandoned by client") ∧
        record = AccessRecord.record operation
          (if atEnd then "stream completed" else "stream abandoned by client") request 200 none) ∧
      (atEnd = true → s.recorded = run.ending.failure?.map (.ofRun run.ending trace)) := by
  intro s last
  have hs : s.Follows run := follows_run room trace run before
  have htrace : s.trace = trace := trace_run _ _
  have hopen : s.isOpen = true := isOpen_iff.2 (.inr ⟨first, atEnd, hbody⟩)
  have hcourse := hs.course (isReleased_of_isOpen hopen)
  have hclosings : last.closings = [⟨if atEnd then .finished else .left, s.recorded⟩] :=
    closings_drop ((filed_run room trace run before).closings_of_isOpen hopen) hbody after
  refine ⟨fun earlier hearlier => ?_, _, by rw [hclosings]; rfl, ?_, fun report hreport => ⟨?_, ?_⟩,
    fun hnone => ?_, fun hend => ?_⟩
  · obtain ⟨rest, rfl⟩ := hearlier
    refine (filed_run room trace run earlier).closings_of_isOpen (isOpen_of_run rest ?_)
    rwa [← run_append]
  · rw [Closing.message_record, Closing.message_eq_failed_iff]
  · exact recorded_run hreport (.drop :: after)
  · obtain ⟨f, hf, rfl⟩ := hcourse.report hreport
    rw [htrace] at hreport ⊢
    rw [hreport]
    exact ⟨f, hf, rfl, Closing.tells_failed _ operation request run.ending trace f, rfl⟩
  · rw [hnone]
    refine ⟨Closing.tells_sent _ operation request, ?_⟩
    cases atEnd <;> exact ⟨rfl, rfl⟩
  · obtain rfl := hend
    obtain ⟨-, -, htask⟩ := hs.atEnd first hbody
    simp only [OnCourse, htask] at hcourse
    rw [hcourse.2, htrace]
    rfl

theorem brokenOff_recorded :
    ∃ before, ((start 1 none brokenOff).run before).reader = .body none true ∧
      ∃ record, (((start 1 none brokenOff).run before).drop.run []).closings.map
          (·.record "chat_stream" "") = [record] ∧
        record.Tells "chat_stream" 503 (some (.transport "reset")) ∧
        record = AccessRecord.record "chat_stream" "stream failed" "" 503
          (some (.of (.transport "reset") none)) := by
  let before := (List.replicate 12 [Move.produce, .receive]).flatten
  have hbody : ((start 1 none brokenOff).run before).reader = .body none true := rfl
  obtain ⟨-, record, hrecord, -, hfailed, -, hend⟩ :=
    run_recorded brokenOff none 1 hbody [] "chat_stream" ""
  obtain ⟨-, f, hf, hreport, htold⟩ := hfailed _ (hend rfl)
  obtain rfl : .transport "reset" = f := Option.some.inj hf
  exact ⟨before, hbody, record, hrecord, htold⟩

theorem settle_eq_run (s : StreamCall) :
    s.settle = s.run (.replicate (movesLeft s.task) .produce) := by
  have hrepeat : ∀ n, Nat.repeat produce n s = s.run (.replicate n .produce) := fun n => by
    induction n with
    | zero => rfl
    | succ n ih =>
      rw [List.replicate_succ', run_append, ← ih]
      rfl
  exact hrepeat _

theorem exists_next_eq_run (s : StreamCall) : ∃ moves, s.next = s.run moves := by
  unfold next
  split_ifs
  · exact ⟨[.receive], rfl⟩
  · refine ⟨.replicate (movesLeft s.task) .produce ++ [.receive], ?_⟩
    rw [run_append, ← settle_eq_run]
    rfl

theorem exists_readOut_eq_run (limit : Option Nat) : ∀ (fuel : Nat) (s : StreamCall),
    ∃ moves, s.readOut limit fuel = s.run moves
  | 0, _ => ⟨[], rfl⟩
  | fuel + 1, s => by
    unfold readOut
    split
    · split_ifs
      · exact ⟨[.drop], rfl⟩
      · obtain ⟨before, hbefore⟩ := s.exists_next_eq_run
        obtain ⟨after, hafter⟩ := exists_readOut_eq_run limit fuel s.next
        exact ⟨before ++ after, by rw [hafter, hbefore, run_append]⟩
    · exact ⟨[], rfl⟩

end StreamCall

namespace App

/-- What the server answers to a stream comes from one of its interleavings: the failure that was
taken for a first chunk, or what the client was given, with the record that was written then. -/
theorem streamAnswer_run {app : App} {request : String} {limit : Option Nat}
    {s : Router.ChatStream} {answer : HttpAnswer}
    (h : app.streamAnswer request limit s = some answer) :
    ∃ moves, let last := (app.streamCall s).run moves
      (∃ f, last.reader = .failed f ∧ answer.status = f.kind.status ∧
        answer.body = HttpAnswer.failureBody f) ∨
      (answer.status = 200 ∧ answer.body = .events (StreamCall.events last.delivered) ∧
        ∃ closing, last.closings = [closing] ∧ answer.log =
          streamBreakdown s ++ [closing.record Operation.chatStream.name request]) := by
  obtain ⟨before, hbefore⟩ := (app.streamCall s).exists_next_eq_run
  unfold streamAnswer at h
  simp only at h
  split at h
  · rename_i f hreader
    obtain rfl := Option.some.inj h
    exact ⟨before, .inl ⟨f, hbefore ▸ hreader, rfl, rfl⟩⟩
  · split_ifs at h with hwritten
    obtain rfl := Option.some.inj h
    obtain ⟨after, hafter⟩ := (app.streamCall s).next.exists_readOut_eq_run limit
      (s.intake.accepted.length + 3)
    rw [congrArg (StreamCall.run · after) hbefore, ← StreamCall.run_append] at hafter
    refine ⟨before ++ after, .inr ⟨rfl, by rw [hafter], ?_⟩⟩
    have hfiled : ((app.streamCall s).run (before ++ after)).Filed := StreamCall.filed_run ..
    rw [hafter] at hwritten ⊢
    obtain ⟨closing, hone⟩ : ∃ closing,
        ((app.streamCall s).run (before ++ after)).closings = [closing] := by
      refine List.length_eq_one_iff.1 (Nat.le_antisymm hfiled.length_le (List.length_pos_iff.2 ?_))
      simpa using hwritten
    exact ⟨closing, hone, by rw [hone]; rfl⟩
  · cases h

end App

end Switchboard
