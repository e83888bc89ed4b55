import Mathlib.Data.List.Basic
import Switchboard.Server.StreamCall

/-!
# What a client of a stream is given

`StreamCall.Moves` says once what a move can do, and everything else is read off it. A run that is
not refused keeps to its course (`StreamCall.OnCourse`), and as long as the answer is there, what
was delivered, what is held, what is in the channel and what is still to come are together what the
run sends (`StreamCall.Follows`): so a client is given the first part of that, and at the end the
whole. There is no deadlock, and what is left to do gets less with each move that does anything
(`StreamCall.left_lt`), so a client that goes on reading comes to the end
(`StreamCall.run_delivers`).
-/

namespace Switchboard

theorem Ending.failure?_eq_some_iff {e : Ending Unit} {f : Failure} :
    e.failure? = some f ↔ f.kind ≠ .cancelled ∧
      (e = .returned (.error f) ∨ ∃ message, e = .crashed message ∧ f = .internal message) := by
  rcases e with (g | ⟨⟩) | message | _
  · by_cases hg : g.kind = .cancelled
    · simp only [failure?, outcome?, hg, if_true, reduceCtorEq, false_iff]
      rintro ⟨hf, h | ⟨_, h, _⟩⟩
      · obtain rfl : g = f := by simpa using h
        exact hf hg
      · cases h
    · simp only [failure?, outcome?, hg, if_false, Option.some.injEq]
      constructor
      · rintro rfl
        exact ⟨hg, .inl rfl⟩
      · rintro ⟨-, h | ⟨_, h, _⟩⟩
        · simpa using h
        · cases h
  · simp [failure?, outcome?]
  · simp only [failure?, outcome?, Failure.kind, reduceCtorEq, if_false, Option.some.injEq]
    constructor
    · rintro rfl
      exact ⟨by simp [Failure.kind], .inr ⟨message, rfl, rfl⟩⟩
    · rintro ⟨-, h | ⟨_, h, rfl⟩⟩
      · cases h
      · rw [Ending.crashed.inj h]
  · simp [failure?, outcome?]

namespace ProviderRun

/-- What a run sends if nothing is refused: its chunks, and the failure it comes to. -/
def items (run : ProviderRun) : List (Outcome Chunk) :=
  run.chunks.map .ok ++ run.ending.failure?.toList.map .error

/-- The events for what a run sends. -/
def events (run : ProviderRun) : List (String × Json) :=
  run.chunks.map (fun chunk => ("chunk", chunk.json))
    ++ run.ending.failure?.toList.map fun f => ("error", f.body)

theorem events_items (run : ProviderRun) : StreamCall.events run.items = run.events := by
  simp [StreamCall.events, items, events, Function.comp_def]

/-- What is put on record of a run. -/
def report? (run : ProviderRun) (trace : Option String) : Option FailureReport :=
  run.ending.failure?.map (.ofRun run.ending trace)

end ProviderRun

/-- What is still to be put into the channel. -/
def StreamTask.toCome : StreamTask → List (Outcome Chunk)
  | running run => run.items
  | failing f => [.error f]
  | closing | ended => []

namespace StreamCall

variable {run : ProviderRun} {s s' : StreamCall} {m : Move}

/-- What a move does when it does anything. -/
inductive Moves (s : StreamCall) : Move → StreamCall → Prop
  | accepted {chunk : Chunk} {next : Outcome Unit → ProviderRun} :
      s.task = .running (.emit chunk next) → s.isReleased = false → s.channel.length < s.room →
      Moves s .produce
        { s with task := .running (next (.ok ())), channel := s.channel ++ [.ok chunk] }
  | refused {chunk : Chunk} {next : Outcome Unit → ProviderRun} :
      s.task = .running (.emit chunk next) → s.isReleased = true →
      Moves s .produce { s with task := .running (next (.error .cancelled)) }
  | ended {ending : Ending Unit} :
      s.task = .running (.ended ending) → ending ≠ .waiting → ending.failure? = none →
      Moves s .produce { s with task := .closing }
  | broke {ending : Ending Unit} {f : Failure} :
      s.task = .running (.ended ending) → ending.failure? = some f →
      Moves s .produce { s with
        task := .failing f
        recorded := s.recorded <|> some (.ofRun ending s.trace f) }
  | told {f : Failure} :
      s.task = .failing f → s.isReleased = false → s.channel.length < s.room →
      Moves s .produce { s with task := .closing, channel := s.channel ++ [.error f] }
  | untold {f : Failure} :
      s.task = .failing f → s.isReleased = true → Moves s .produce { s with task := .closing }
  | closed : s.task = .closing → Moves s .produce { s with task := .ended }
  | answered {chunk : Chunk} {rest : List (Outcome Chunk)} :
      s.reader = .waiting → s.channel = .ok chunk :: rest →
      Moves s .receive { s with reader := .body (some chunk) false, channel := rest }
  | failed {f : Failure} {rest : List (Outcome Chunk)} :
      s.reader = .waiting → s.channel = .error f :: rest →
      Moves s .receive { s with reader := .failed f, channel := [] }
  | silenced : s.reader = .waiting → s.channel = [] → s.task = .ended →
      Moves s .receive { s with reader := .failed silent }
  | begun {chunk : Chunk} {atEnd : Bool} : s.reader = .body (some chunk) atEnd →
      Moves s .receive
        { s with reader := .body none atEnd, delivered := s.delivered ++ [.ok chunk] }
  | taken {atEnd : Bool} {item : Outcome Chunk} {rest : List (Outcome Chunk)} :
      s.reader = .body none atEnd → s.channel = item :: rest →
      Moves s .receive { s with channel := rest, delivered := s.delivered ++ [item] }
  | finished : s.reader = .body none false → s.channel = [] → s.task = .ended →
      Moves s .receive { s with reader := .body none true }
  | abandoned : s.reader = .waiting → Moves s .drop { s with reader := .gone, channel := [] }
  | dropped {first : Option Chunk} {atEnd : Bool} : s.reader = .body first atEnd →
      Moves s .drop { s with
        reader := .dropping
        closings := s.closings ++ [⟨if atEnd then .finished else .left, s.recorded⟩] }
  | released : s.reader = .dropping → Moves s .drop { s with reader := .gone, channel := [] }

theorem produce_cases (s : StreamCall) : s.produce = s ∨ s.Moves .produce s.produce := by
  unfold produce
  split
  · rename_i chunk next htask
    unfold send
    split_ifs with hreleased hroom
    · exact .inr (.refused htask hreleased)
    · exact .inr (.accepted htask (by simpa using hreleased) hroom)
    · exact .inl rfl
  · exact .inl rfl
  · rename_i ending hwaiting htask
    split
    · rename_i hnone
      exact .inr (.ended htask hwaiting hnone)
    · rename_i f hf
      exact .inr (.broke htask hf)
  · rename_i f htask
    unfold send
    split_ifs with hreleased hroom
    · exact .inr (.untold htask hreleased)
    · exact .inr (.told htask (by simpa using hreleased) hroom)
    · exact .inl rfl
  · rename_i htask
    exact .inr (.closed htask)
  · exact .inl rfl

theorem isDrained_iff : s.isDrained = true ↔ s.channel = [] ∧ s.task = .ended := by
  unfold isDrained
  split
  · simp [*]
  · rename_i h
    simpa using fun hchannel htask => h hchannel htask

theorem receive_cases (s : StreamCall) : s.receive = s ∨ s.Moves .receive s.receive := by
  unfold receive
  split
  · rename_i hreader hchannel
    exact .inr (.answered hreader hchannel)
  · rename_i hreader hchannel
    exact .inr (.failed hreader hchannel)
  · rename_i hreader hchannel
    split_ifs with hdrained
    · exact .inr (.silenced hreader hchannel (isDrained_iff.1 hdrained).2)
    · exact .inl rfl
  · rename_i hreader
    exact .inr (.begun hreader)
  · rename_i hreader hchannel
    exact .inr (.taken hreader hchannel)
  · rename_i atEnd hreader hchannel
    split_ifs with hdrained
    · cases atEnd with
      | true => exact .inl (by rw [← hreader])
      | false => exact .inr (.finished hreader hchannel (isDrained_iff.1 hdrained).2)
    · exact .inl rfl
  · exact .inl rfl

theorem drop_cases (s : StreamCall) : s.drop = s ∨ s.Moves .drop s.drop := by
  unfold drop
  split
  · rename_i hreader
    exact .inr (.abandoned hreader)
  · rename_i hreader
    exact .inr (.dropped hreader)
  · rename_i hreader
    exact .inr (.released hreader)
  · exact .inl rfl
  · exact .inl rfl

theorem step_cases (s : StreamCall) (m : Move) : s.step m = s ∨ s.Moves m (s.step m) := by
  cases m with
  | produce => exact s.produce_cases
  | receive => exact s.receive_cases
  | drop => exact s.drop_cases

theorem run_append (s : StreamCall) (before after : List Move) :
    s.run (before ++ after) = (s.run before).run after :=
  List.foldl_append

/-- What holds of a state and is kept by each move holds after any moves. -/
theorem run_induction {motive : StreamCall → Prop}
    (hstep : ∀ s m s', motive s → s.Moves m s' → motive s') :
    ∀ (moves : List Move) {s : StreamCall}, motive s → motive (s.run moves)
  | [], _, h => h
  | m :: moves, s, h => by
    refine run_induction hstep moves (s := s.step m) ?_
    rcases s.step_cases m with heq | hmoves
    · rwa [heq]
    · exact hstep s m _ h hmoves

theorem room_run (s : StreamCall) (moves : List Move) : (s.run moves).room = s.room :=
  run_induction (motive := fun t => t.room = s.room)
    (fun t m t' h hm => by cases hm <;> exact h) moves rfl

theorem trace_run (s : StreamCall) (moves : List Move) : (s.run moves).trace = s.trace :=
  run_induction (motive := fun t => t.trace = s.trace)
    (fun t m t' h hm => by cases hm <;> exact h) moves rfl

/-- Where a run is that was not refused anything, and what is on record of it. -/
def OnCourse (run : ProviderRun) (s : StreamCall) : Prop :=
  match s.task with
  | .running rest => rest.ending = run.ending ∧ s.recorded = none
  | .failing f => run.ending.failure? = some f ∧ s.recorded = run.report? s.trace
  | .closing | .ended => run.ending ≠ .waiting ∧ s.recorded = run.report? s.trace

theorem OnCourse.step (h : s.OnCourse run) (hreleased : s.isReleased = false)
    (hm : s.Moves m s') : s'.OnCourse run := by
  cases hm with
  | accepted htask _ _ =>
    simp only [OnCourse, htask] at h ⊢
    exact h
  | refused _ hgone => simp [hreleased] at hgone
  | ended htask hwaiting hnone =>
    simp only [OnCourse, htask] at h ⊢
    obtain ⟨hending, hrecorded⟩ := h
    rw [ProviderRun.ending] at hending
    rw [← hending, hrecorded, ProviderRun.report?, ← hending, hnone]
    exact ⟨hwaiting, rfl⟩
  | broke htask hf =>
    simp only [OnCourse, htask] at h ⊢
    obtain ⟨hending, hrecorded⟩ := h
    rw [ProviderRun.ending] at hending
    rw [← hending, hrecorded, ProviderRun.report?, ← hending, hf]
    exact ⟨rfl, rfl⟩
  | told htask _ _ =>
    simp only [OnCourse, htask] at h ⊢
    refine ⟨fun hwaiting => ?_, h.2⟩
    simp [hwaiting, Ending.failure?, Ending.outcome?] at h
  | untold _ hgone => simp [hreleased] at hgone
  | closed htask =>
    simp only [OnCourse, htask] at h ⊢
    exact h
  -- The reader's moves touch neither the run nor what is on record.
  | _ => exact h

/-- The answer is not decided, or has a body. -/
def isOpen (s : StreamCall) : Bool :=
  match s.reader with
  | .waiting | .body .. => true
  | _ => false

/-- What the body holds of what the handler has taken out of the channel. -/
def held (s : StreamCall) : List (Outcome Chunk) :=
  match s.reader with
  | .body (some chunk) _ => [.ok chunk]
  | _ => []

theorem isOpen_iff : s.isOpen = true ↔
    s.reader = .waiting ∨ ∃ first atEnd, s.reader = .body first atEnd := by
  unfold isOpen
  split <;> simp_all

theorem isReleased_of_isOpen (h : s.isOpen = true) : s.isReleased = false := by
  rcases isOpen_iff.1 h with hreader | ⟨_, _, hreader⟩ <;> simp [isReleased, hreader]

theorem not_isOpen_of_isReleased (h : s.isReleased = true) : ¬s.isOpen = true := fun hopen => by
  simp [isReleased_of_isOpen hopen] at h

/-- The client of a run has the first part of what the run sends, and the rest is under way. -/
structure Follows (run : ProviderRun) (s : StreamCall) : Prop where
  course : s.isReleased = false → s.OnCourse run
  conserved : s.isOpen = true →
    s.delivered ++ (s.held ++ (s.channel ++ s.task.toCome)) = run.items
  delivered : s.delivered <+: run.items
  waiting : s.reader = .waiting → s.delivered = []
  atEnd : ∀ first, s.reader = .body first true →
    first = none ∧ s.channel = [] ∧ s.task = .ended

theorem follows_start (room : Nat) (trace : Option String) (run : ProviderRun) :
    (start room trace run).Follows run where
  course _ := ⟨rfl, rfl⟩
  conserved _ := rfl
  delivered := List.nil_prefix
  waiting _ := rfl
  atEnd _ h := by simp [start] at h

theorem Follows.conserved_step (h : s.Follows run) (hm : s.Moves m s') (hopen : s'.isOpen = true) :
    s'.delivered ++ (s'.held ++ (s'.channel ++ s'.task.toCome)) = run.items := by
  cases hm with
  | accepted htask _ _ =>
    have hs := h.conserved hopen
    rw [htask] at hs
    rw [List.append_assoc s.channel]
    exact hs
  | refused _ hgone => exact absurd hopen (not_isOpen_of_isReleased hgone)
  | ended htask _ hnone =>
    have hs := h.conserved hopen
    simp only [htask, StreamTask.toCome, ProviderRun.items, ProviderRun.chunks,
      ProviderRun.ending, hnone] at hs
    exact hs
  | broke htask hf =>
    have hs := h.conserved hopen
    simp only [htask, StreamTask.toCome, ProviderRun.items, ProviderRun.chunks,
      ProviderRun.ending, hf] at hs
    exact hs
  | told htask _ _ =>
    have hs := h.conserved hopen
    rw [htask] at hs
    rw [List.append_assoc s.channel]
    exact hs
  | untold _ hgone => exact absurd hopen (not_isOpen_of_isReleased hgone)
  | closed htask =>
    have hs := h.conserved hopen
    rw [htask] at hs
    exact hs
  | answered hreader hchannel =>
    have hs := h.conserved (by simp [isOpen, hreader])
    simpa [held, hreader, hchannel] using hs
  | failed => simp [isOpen] at hopen
  | silenced => simp [isOpen] at hopen
  | begun hreader =>
    have hs := h.conserved (by simp [isOpen, hreader])
    simpa [held, hreader] using hs
  | taken hreader hchannel =>
    have hs := h.conserved (by simp [isOpen, hreader])
    simpa [held, hreader, hchannel] using hs
  | finished hreader _ _ =>
    have hs := h.conserved (by simp [isOpen, hreader])
    simpa [held, hreader] using hs
  | abandoned => simp [isOpen] at hopen
  | dropped => simp [isOpen] at hopen
  | released => simp [isOpen] at hopen

theorem Moves.delivered_cases (hm : s.Moves m s') :
    s'.delivered = s.delivered ∨ s'.isOpen = true := by
  cases hm with
  | begun => exact .inr rfl
  | taken hreader _ => exact .inr (by simp [isOpen, hreader])
  | _ => exact .inl rfl

theorem Follows.atEnd_step (h : s.Follows run) (hm : s.Moves m s') {first : Option Chunk}
    (hend : s'.reader = .body first true) :
    first = none ∧ s'.channel = [] ∧ s'.task = .ended := by
  cases hm with
  | accepted htask _ _ => simpa [htask] using (h.atEnd first hend).2.2
  | refused htask _ => simpa [htask] using (h.atEnd first hend).2.2
  | ended htask _ _ => simpa [htask] using (h.atEnd first hend).2.2
  | broke htask _ => simpa [htask] using (h.atEnd first hend).2.2
  | told htask _ _ => simpa [htask] using (h.atEnd first hend).2.2
  | untold htask _ => simpa [htask] using (h.atEnd first hend).2.2
  | closed htask => simpa [htask] using (h.atEnd first hend).2.2
  | answered => simp at hend
  | failed => simp at hend
  | silenced => simp at hend
  | begun hreader =>
    obtain ⟨rfl, rfl⟩ : none = first ∧ _ = true := by simpa using hend
    simpa using (h.atEnd _ hreader).1
  | taken hreader hchannel =>
    obtain ⟨-, hnone, -⟩ := h.atEnd first hend
    simp [hchannel] at hnone
  | finished _ hchannel htask =>
    obtain rfl : none = first := by simpa using hend
    exact ⟨rfl, hchannel, htask⟩
  | abandoned => simp at hend
  | dropped => simp at hend
  | released => simp at hend

theorem Follows.waiting_step (h : s.Follows run) (hm : s.Moves m s')
    (hwaiting : s'.reader = .waiting) : s'.delivered = [] := by
  cases hm with
  | answered => simp at hwaiting
  | failed => simp at hwaiting
  | silenced => simp at hwaiting
  | begun => simp at hwaiting
  | taken hreader _ => simp [hreader] at hwaiting
  | finished => simp at hwaiting
  | abandoned => simp at hwaiting
  | dropped => simp at hwaiting
  | released => simp at hwaiting
  | _ => exact h.waiting hwaiting

/-- Nothing is taken back. -/
theorem isReleased_of_moves (hm : s.Moves m s') (h : s'.isReleased = false) :
    s.isReleased = false := by
  cases hm <;> simp_all [isReleased]

theorem Follows.step (h : s.Follows run) (hm : s.Moves m s') : s'.Follows run where
  course hreleased :=
    have hs := isReleased_of_moves hm hreleased
    (h.course hs).step hs hm
  conserved hopen := h.conserved_step hm hopen
  delivered := by
    rcases hm.delivered_cases with hsame | hopen
    · rw [hsame]
      exact h.delivered
    · exact ⟨_, h.conserved_step hm hopen⟩
  waiting hwaiting := h.waiting_step hm hwaiting
  atEnd _ hend := h.atEnd_step hm hend

theorem follows_run (room : Nat) (trace : Option String) (run : ProviderRun) (moves : List Move) :
    ((start room trace run).run moves).Follows run :=
  run_induction (fun _ _ _ h hm => h.step hm) moves (follows_start room trace run)

/-- A client that has come to the end has the whole. -/
theorem Follows.delivered_of_atEnd (h : s.Follows run) {first : Option Chunk}
    (hend : s.reader = .body first true) : s.delivered = run.items := by
  obtain ⟨rfl, hchannel, htask⟩ := h.atEnd first hend
  have hs := h.conserved (by simp [isOpen, hend])
  simpa [held, hend, hchannel, htask, StreamTask.toCome] using hs

theorem delivered_prefix_run (s : StreamCall) (moves : List Move) :
    s.delivered <+: (s.run moves).delivered := by
  refine run_induction (motive := fun t => s.delivered <+: t.delivered) (fun t m t' h hm => ?_)
    moves List.prefix_rfl
  cases hm with
  | begun => exact h.trans (List.prefix_append _ _)
  | taken => exact h.trans (List.prefix_append _ _)
  | _ => exact h

/-- How many moves it takes at most until the client has come to the end. -/
def left (s : StreamCall) : Nat :=
  movesLeft s.task + s.task.toCome.length + s.channel.length + s.held.length
    + match s.reader with
      | .waiting => 2
      | .body _ false => 1
      | _ => 0

theorem left_lt (hm : s.Moves m s') (hopen : s'.isOpen = true) : s'.left < s.left := by
  cases hm with
  | accepted htask _ _ =>
    simp only [left, held, htask, StreamTask.toCome, movesLeft, ProviderRun.items,
      ProviderRun.chunks, ProviderRun.ending, List.length_append, List.length_map, List.length_cons,
      List.length_nil]
    omega
  | refused _ hgone => exact absurd hopen (not_isOpen_of_isReleased hgone)
  | ended htask _ _ =>
    simp only [left, held, htask, StreamTask.toCome, movesLeft, List.length_nil]
    omega
  | broke htask hf =>
    simp only [left, held, htask, StreamTask.toCome, movesLeft, ProviderRun.items,
      ProviderRun.chunks, ProviderRun.ending, hf, List.length_append, List.length_map,
      List.length_nil, List.length_cons, Option.toList_some]
    omega
  | told htask _ _ =>
    simp only [left, held, htask, StreamTask.toCome, movesLeft, List.length_append,
      List.length_cons, List.length_nil]
    omega
  | untold _ hgone => exact absurd hopen (not_isOpen_of_isReleased hgone)
  | closed htask =>
    simp only [left, held, htask, StreamTask.toCome, movesLeft]
    omega
  | answered hreader hchannel =>
    simp only [left, held, hreader, hchannel, List.length_cons, List.length_nil]
    omega
  | failed => simp [isOpen] at hopen
  | silenced => simp [isOpen] at hopen
  | @begun chunk atEnd hreader =>
    cases atEnd <;>
    · simp only [left, held, hreader, List.length_cons, List.length_nil]
      omega
  | taken hreader hchannel =>
    simp only [left, held, hchannel, List.length_cons]
    omega
  | finished hreader _ _ =>
    simp only [left, held, hreader]
    omega
  | abandoned => simp [isOpen] at hopen
  | dropped => simp [isOpen] at hopen
  | released => simp [isOpen] at hopen

/-- Both sides can go on: the answer is open, and the first item is going to be a chunk. -/
structure Live (run : ProviderRun) (s : StreamCall) : Prop where
  follows : s.Follows run
  isOpen : s.isOpen = true
  room : 0 < s.room
  chunks : run.chunks ≠ []
  ending : run.ending ≠ .waiting

/-- The first item is a chunk, so a handler that waits does not fail. -/
theorem Live.isOpen_step (h : s.Live run) (hm : s.Moves m s') (hdrop : m ≠ .drop) :
    s'.isOpen = true := by
  obtain ⟨chunk, rest, hchunks⟩ := List.exists_cons_of_ne_nil h.chunks
  have hitems : run.items =
      .ok chunk :: (rest.map .ok ++ run.ending.failure?.toList.map .error) := by
    rw [ProviderRun.items, hchunks]
    rfl
  have hs := h.follows.conserved h.isOpen
  rw [hitems] at hs
  cases hm with
  | answered => rfl
  | failed hreader hchannel =>
    simp [held, h.follows.waiting hreader, hreader, hchannel] at hs
  | silenced hreader hchannel htask =>
    simp [held, h.follows.waiting hreader, hreader, hchannel, htask, StreamTask.toCome] at hs
  | begun => rfl
  | finished => rfl
  | abandoned => exact absurd rfl hdrop
  | dropped => exact absurd rfl hdrop
  | released => exact absurd rfl hdrop
  | _ => exact h.isOpen

theorem Live.step (h : s.Live run) (hm : s.Moves m s') (hdrop : m ≠ .drop) : s'.Live run where
  follows := h.follows.step hm
  isOpen := h.isOpen_step hm hdrop
  room := by
    have hroom : s'.room = s.room := by cases hm <;> rfl
    rw [hroom]
    exact h.room
  chunks := h.chunks
  ending := h.ending

/-- An open run that does not move waits for room, or for ever, or is over. -/
theorem produce_blocked (hopen : s.isOpen = true) (h : s.produce = s) :
    s.room ≤ s.channel.length ∨ s.task = .running (.ended .waiting) ∨ s.task = .ended := by
  have hreleased := isReleased_of_isOpen hopen
  unfold produce at h
  split at h
  · refine .inl (Nat.le_of_not_lt fun hroom => ?_)
    simp only [send, hreleased, Bool.false_eq_true, if_false, hroom, if_true] at h
    simpa using congrArg (·.channel.length) h
  · exact .inr (.inl ‹_›)
  · rename_i htask
    split at h
    · have hsame := congrArg StreamCall.task h
      simp [htask] at hsame
    · have hsame := congrArg StreamCall.task h
      simp [htask] at hsame
  · refine .inl (Nat.le_of_not_lt fun hroom => ?_)
    simp only [send, hreleased, Bool.false_eq_true, if_false, hroom, if_true] at h
    simpa using congrArg (·.channel.length) h
  · rename_i htask
    have hsame := congrArg StreamCall.task h
    simp [htask] at hsame
  · exact .inr (.inr ‹_›)

/-- A reader that does not get on has an empty channel before it, and waits for the run, or has
come to the end. -/
theorem receive_blocked (hopen : s.isOpen = true) (h : s.receive = s) :
    s.channel = [] ∧ (s.task = .ended → s.reader = .body none true) := by
  rcases isOpen_iff.1 hopen with hreader | ⟨_ | chunk, atEnd, hreader⟩
  · rcases hchannel : s.channel with _ | ⟨chunk | f, rest⟩
    · refine ⟨rfl, fun htask => ?_⟩
      have hsame := congrArg StreamCall.reader h
      simp [receive, hreader, hchannel, isDrained, htask] at hsame
    all_goals
      have hsame := congrArg StreamCall.reader h
      simp [receive, hreader, hchannel] at hsame
  · rcases hchannel : s.channel with _ | ⟨item, rest⟩
    · refine ⟨rfl, fun htask => ?_⟩
      have hsame := congrArg StreamCall.reader h
      simpa [receive, hreader, hchannel, isDrained, htask] using hsame.symm
    · have hsame := congrArg StreamCall.channel h
      simp [receive, hreader, hchannel] at hsame
  · have hsame := congrArg StreamCall.reader h
    simp [receive, hreader] at hsame

/-- There is no deadlock. -/
theorem Live.atEnd_of_blocked (h : s.Live run) (hproduce : s.produce = s)
    (hreceive : s.receive = s) : s.reader = .body none true := by
  obtain ⟨hchannel, hend⟩ := receive_blocked h.isOpen hreceive
  rcases produce_blocked h.isOpen hproduce with hfull | htask | htask
  · rw [hchannel] at hfull
    exact absurd h.room (Nat.not_lt.2 hfull)
  · have hcourse := h.follows.course (isReleased_of_isOpen h.isOpen)
    simp only [OnCourse, htask] at hcourse
    exact absurd hcourse.1.symm h.ending
  · exact hend htask

/-- Moves of either side do something, or each of them does nothing. -/
theorem Live.moves : ∀ (moves : List Move) {s : StreamCall}, s.Live run → .drop ∉ moves →
    (s.run moves).Live run ∧
      ((s.run moves).left < s.left ∨ s.run moves = s ∧ ∀ m ∈ moves, s.step m = s)
  | [], _, h, _ => ⟨h, .inr ⟨rfl, by simp⟩⟩
  | m :: moves, s, h, hdrop => by
    obtain ⟨hm, hdrop⟩ : Move.drop ≠ m ∧ .drop ∉ moves := by simpa using hdrop
    have hrun : s.run (m :: moves) = (s.step m).run moves := rfl
    rw [hrun]
    rcases s.step_cases m with hsame | hmoves
    · rw [hsame]
      obtain ⟨hlive, hless | ⟨heq, hall⟩⟩ := Live.moves moves h hdrop
      · exact ⟨hlive, .inl hless⟩
      · exact ⟨hlive, .inr ⟨heq, by simpa [hsame] using hall⟩⟩
    · have hnext := h.step hmoves (Ne.symm hm)
      have hlt := left_lt hmoves hnext.isOpen
      obtain ⟨hlive, hless | ⟨heq, -⟩⟩ := Live.moves moves hnext hdrop
      · exact ⟨hlive, .inl (Nat.lt_trans hless hlt)⟩
      · exact ⟨hlive, .inl (by rwa [heq])⟩

theorem Live.left_eq_zero_iff (h : s.Live run) : s.left = 0 ↔ s.reader = .body none true := by
  constructor
  · intro hleft
    rcases isOpen_iff.1 h.isOpen with hreader | ⟨_ | chunk, _ | _, hreader⟩
    · simp [left, hreader] at hleft
    · simp [left, hreader] at hleft
    · exact hreader
    · simp [left, held, hreader] at hleft
    · simp [left, held, hreader] at hleft
  · intro hreader
    obtain ⟨-, hchannel, htask⟩ := h.follows.atEnd none hreader
    simp [left, held, hreader, hchannel, htask, movesLeft, StreamTask.toCome]

/-- Both sides move, and the client does not go away. -/
def IsFair (round : List Move) : Prop :=
  .produce ∈ round ∧ .receive ∈ round ∧ .drop ∉ round

theorem Live.rounds : ∀ {rounds : List (List Move)} {s : StreamCall}, s.Live run →
    (∀ round ∈ rounds, IsFair round) → s.left ≤ rounds.length →
      (s.run rounds.flatten).reader = .body none true
  | [], _, h, _, hleft => h.left_eq_zero_iff.1 (Nat.le_zero.1 hleft)
  | round :: rounds, s, h, hfair, hleft => by
    obtain ⟨⟨hproduce, hreceive, hdrop⟩, hrest⟩ := List.forall_mem_cons.1 hfair
    rw [List.flatten_cons, run_append]
    obtain ⟨hlive, hless | ⟨heq, hall⟩⟩ := h.moves round hdrop
    · refine hlive.rounds hrest ?_
      rw [List.length_cons] at hleft
      omega
    · have hend := h.atEnd_of_blocked (hall _ hproduce) (hall _ hreceive)
      rw [heq]
      refine h.rounds hrest ?_
      rw [h.left_eq_zero_iff.2 hend]
      exact Nat.zero_le _

/-- For every interleaving, a client is given the first part of the chunks and the failure of the
run, and none is lost: what it was not given is held for it, is in the channel or is still to come.
At the end it has the whole and is given no more, and it comes to the end if it goes on reading. A
run whose client is gone is told so at its next chunk. -/
theorem run_delivers (run : ProviderRun) (trace : Option String) {room : Nat} (hroom : 0 < room)
    (hchunks : run.chunks ≠ []) (moves : List Move) :
    let s := (start room trace run).run moves
    (∀ f, run.ending.failure? = some f ↔ f.kind ≠ .cancelled ∧
      (run.ending = .returned (.error f) ∨
        ∃ message, run.ending = .crashed message ∧ f = .internal message)) ∧
    events s.delivered <+: run.events ∧
    (s.isOpen = true → s.delivered ++ (s.held ++ (s.channel ++ s.task.toCome)) = run.items) ∧
    (∀ first, s.reader = .body first true →
      ∀ more, events (s.run more).delivered = run.events) ∧
    (s.reader = .gone → ∀ more chunk next,
      (s.run more).task = .running (.emit chunk next) →
        (s.run more).produce =
          { s.run more with task := .running (next (.error .cancelled)) }) ∧
    (run.ending ≠ .waiting → s.isOpen = true → ∀ rounds : List (List Move),
      (∀ round ∈ rounds, IsFair round) → s.left ≤ rounds.length →
        (s.run rounds.flatten).reader = .body none true) := by
  intro s
  have hs : s.Follows run := follows_run room trace run moves
  have hafter : ∀ more, (s.run more).Follows run := fun more => by
    rw [← run_append]
    exact follows_run room trace run (moves ++ more)
  have hevents : ∀ {items}, items = run.items → events items = run.events := by
    rintro _ rfl
    exact run.events_items
  refine ⟨fun f => Ending.failure?_eq_some_iff, ?_, hs.conserved, ?_, ?_, ?_⟩
  · rw [← run.events_items]
    exact hs.delivered.map _
  · intro first hend more
    have hprefix := s.delivered_prefix_run more
    rw [hs.delivered_of_atEnd hend] at hprefix
    exact hevents ((hafter more).delivered.eq_of_length_le hprefix.length_le)
  · intro hgone more chunk next htask
    have hreader : (s.run more).reader = .gone :=
      run_induction (motive := fun t => t.reader = .gone)
        (fun t m t' h hm => by cases hm <;> simp_all) more hgone
    simp [produce, htask, send, isReleased, hreader, refusal]
  · intro hending hopen rounds hfair hleft
    have hlive : s.Live run := ⟨hs, hopen, by rwa [room_run], hchunks, hending⟩
    exact hlive.rounds hfair hleft

/-- A piece of an answer. -/
def piece (sequence : Nat) : Chunk := ⟨"a", "m", sequence, ⟨some "x", []⟩, false, none, none⟩

/-- A run that breaks off after two chunks. -/
def brokenOff : ProviderRun :=
  .relay (.returned (.error (.transport "reset"))) [piece 0, piece 1]

theorem brokenOff_delivered :
    0 < 1 ∧ brokenOff.chunks ≠ [] ∧ ∃ moves, .drop ∉ moves ∧
      events ((start 1 none brokenOff).run moves).delivered = brokenOff.events := by
  have hchunks : brokenOff.chunks ≠ [] := by simp [brokenOff, ProviderRun.relay, ProviderRun.chunks]
  let rounds := List.replicate 12 [Move.produce, .receive]
  have hfair : ∀ round ∈ rounds, IsFair round := fun round hround => by
    rw [List.eq_of_mem_replicate hround]
    simp [IsFair]
  obtain ⟨-, -, -, -, -, hlive⟩ := run_delivers brokenOff none (Nat.zero_lt_one) hchunks []
  obtain ⟨-, -, -, hwhole, -⟩ :=
    run_delivers brokenOff none (Nat.zero_lt_one) hchunks rounds.flatten
  refine ⟨Nat.zero_lt_one, hchunks, rounds.flatten, by decide, hwhole none ?_ []⟩
  exact hlive nofun rfl rounds hfair (by decide)

end StreamCall

end Switchboard
