import Switchboard.Proofs.Json.Written
import Switchboard.Proofs.Server.Access
import Switchboard.Proofs.Server.Closing

/-!
# How the two ways to chat fail

A call for a stream is answered like any other as long as there is no chunk. The handler takes the
failure of the run out of the channel, and so it is the failure of the call, as it is without a
stream. Only a run that is cancelled leaves nothing in the channel, whoever cancelled it, and the
handler makes a failure of its own of that (`StreamCall.told`).
-/

namespace Switchboard

namespace StreamCall

variable {run : ProviderRun} {s s' : StreamCall} {m : Move}

/-- What a handler takes for the failure of a run without a chunk. -/
def told (f : Failure) : Failure := if f.kind = .cancelled then silent else f

/-- A handler that got no chunk has the failure that its run came to, or else its own. -/
structure Failed (run : ProviderRun) (g : Failure) : Prop where
  chunks : run.chunks = []
  failure : g = run.ending.failure?.getD silent

theorem Failed.of_items {f : Failure} {rest : List (Outcome Chunk)}
    (h : run.items = .error f :: rest) : Failed run f := by
  unfold ProviderRun.items at h
  rcases hchunks : run.chunks with _ | ⟨c, chunks⟩
  · rcases hfailure : run.ending.failure? with _ | e
    · simp [hchunks, hfailure] at h
    · obtain ⟨rfl, -⟩ : e = f ∧ _ := by simpa [hchunks, hfailure] using h
      exact ⟨hchunks, by rw [hfailure]; rfl⟩
  · simp [hchunks] at h

theorem failed_of_moves (hs : s.Follows run) (hm : s.Moves m s') {g : Failure}
    (hbefore : ∀ g, s.reader = .failed g → Failed run g) (h : s'.reader = .failed g) :
    Failed run g := by
  cases hm with
  | @failed f rest hreader hchannel =>
    obtain rfl : f = g := StreamReader.failed.inj h
    have hitems := hs.conserved (isOpen_iff.2 (.inl hreader))
    simp only [hs.waiting hreader, held, hreader, hchannel, List.nil_append,
      List.cons_append] at hitems
    exact .of_items hitems.symm
  | silenced hreader hchannel htask =>
    obtain rfl : silent = g := StreamReader.failed.inj h
    have hitems := hs.conserved (isOpen_iff.2 (.inl hreader))
    simp only [hs.waiting hreader, held, hreader, hchannel, htask, List.nil_append,
      StreamTask.toCome] at hitems
    obtain ⟨hchunks, hnone⟩ : run.chunks = [] ∧ run.ending.failure? = none := by
      unfold ProviderRun.items at hitems
      simpa using hitems.symm
    exact ⟨hchunks, by rw [hnone]; rfl⟩
  -- The other moves of the reader lead elsewhere, and those of the run leave it where it is.
  | answered => simp at h
  | begun => simp at h
  | finished => simp at h
  | abandoned => simp at h
  | dropped => simp at h
  | released => simp at h
  | _ => exact hbefore g h

/-- For every interleaving, a handler that got no chunk has the failure of its run, if that left
one. -/
theorem failed_run (room : Nat) (trace : Option String) (run : ProviderRun) (moves : List Move)
    {g : Failure} (h : ((start room trace run).run moves).reader = .failed g) : Failed run g := by
  have hrun := run_induction
    (motive := fun s => s.Follows run ∧ ∀ g, s.reader = .failed g → Failed run g)
    (fun s m s' ⟨hs, hbefore⟩ hm => ⟨hs.step hm, fun g => failed_of_moves hs hm hbefore⟩) moves
    ⟨follows_run room trace run [], nofun⟩
  exact hrun.2 g h

theorem reader_next_start (room : Nat) (hroom : 0 < room) (trace : Option String) (f : Failure) :
    (start room trace (.ended (.returned (.error f)))).next.reader = .failed (told f) := by
  -- The run is over before the handler looks.
  show (start room trace (.ended (.returned (.error f)))).produce.produce.produce.receive.reader = _
  by_cases hf : f.kind = .cancelled
  · have hnone : (Ending.returned (.error f) : Ending Unit).failure? = none := if_pos hf
    rw [told, if_pos hf]
    simp [start, produce, hnone, receive, isDrained]
  · have hsome : (Ending.returned (.error f) : Ending Unit).failure? = some f := if_neg hf
    rw [told, if_neg hf]
    simp [start, produce, hsome, send, isReleased, hroom, receive]

end StreamCall

namespace App

open StreamCall

/-- The stream that a call starts, if it gets that far. -/
def started? (app : App) (fresh : String) (now : Nat) (r : HttpRequest) :
    Option Router.ChatStream :=
  match chatBody r, app.context? now with
  | .ok chat, some c =>
    if maxBuffer < app.streamBuffer then none
    else some (app.router.chatStream app.defaults fresh .all c now chat)
  | _, _ => none

/-- A chat fails because nothing can be made of its body, or the gateway fails with it. -/
inductive ChatFails (app : App) (fresh : String) (now : Nat) (r : HttpRequest) : Failure → Prop
  | unread {f : Failure} : chatBody r = .error f → ChatFails app fresh now r f
  | failed {chat : ChatRequest} {c : CallContext} {f : Failure} : chatBody r = .ok chat →
      app.context? now = some c →
      (app.router.chat app.defaults fresh c now chat).ending = .returned (.error f) →
      ChatFails app fresh now r f

/-- A stream fails before it has a chunk. -/
inductive StreamFails (app : App) (fresh : String) (now : Nat) (r : HttpRequest) : Failure → Prop
  | unread {f : Failure} : chatBody r = .error f → StreamFails app fresh now r f
  | failed {s : Router.ChatStream} {f : Failure} : app.started? fresh now r = some s →
      s.handled.ending = .returned (.error f) → s.intake.accepted = [] →
      StreamFails app fresh now r f

theorem streamAnswer_of_failed (app : App) (request : String) (limit : Option Nat)
    {s : Router.ChatStream} {f : Failure} (hending : s.handled.ending = .returned (.error f))
    (hnone : s.intake.accepted = []) :
    ∃ answer, app.streamAnswer request limit s = some answer
      ∧ answer.status = (told f).kind.status ∧ answer.body = HttpAnswer.failureBody (told f) := by
  have hcall : app.streamCall s = start (max 1 app.streamBuffer) (some traceMark)
      (.ended (.returned (.error f))) := by
    rw [streamCall, hending, hnone]
    rfl
  have hreader := reader_next_start (max 1 app.streamBuffer) (by omega) (some traceMark) f
  unfold streamAnswer
  simp only [hcall, hreader]
  exact ⟨_, rfl, rfl, rfl⟩

theorem kind_of_parseRoles {f : Failure} :
    ∀ {messages : List (String × Content × Option String)},
      ChatBody.parseRoles messages = .error f → f.kind = .unsupportedRole
  | [], h => by cases h
  | (role, content, name) :: rest, h => by
    simp only [ChatBody.parseRoles, bind_eq_error_iff] at h
    rcases h with hrole | ⟨parsed, -, hrest | ⟨messages, -, h⟩⟩
    · unfold Role.parse at hrole
      split at hrole
      · cases hrole
      · obtain rfl := Except.error.inj hrole
        rfl
    · exact kind_of_parseRoles hrest
    · cases h

theorem kind_of_read {α : Type} {reader : Document → Reading α} {r : HttpRequest} {f : Failure}
    (h : RequestBody.read reader r = .error f) : f.kind = .invalidRequest := by
  unfold RequestBody.read at h
  split_ifs at h
  · obtain rfl := Except.error.inj h
    rfl
  · obtain rfl := Except.error.inj h
    rfl
  · split at h
    · cases h
    · obtain rfl := Except.error.inj h
      rfl

theorem kind_of_chatBody {r : HttpRequest} {f : Failure} (h : chatBody r = .error f) :
    f.kind ≠ .cancelled := by
  simp only [chatBody, ChatBody.request, bind_eq_error_iff] at h
  rcases h with hread | ⟨body, -, hroles | ⟨messages, -, h⟩⟩
  · simp [kind_of_read hread]
  · simp [kind_of_parseRoles hroles]
  · cases h

/-- A call that is let through posts to a path. -/
structure Posts (app : App) (path : String) (r : HttpRequest) : Prop where
  method : r.method = "POST"
  path : r.path = path
  admitted : r.isAdmitted app.secret = true

variable {app : App} {fresh : String} {now : Nat} {r : HttpRequest} {f : Failure}

theorem Posts.ne_options {path : String} (h : app.Posts path r) : r.method ≠ "OPTIONS" := by
  rw [h.method]
  decide

theorem Posts.body_sentOut {path : String} (h : app.Posts path r) (answer : HttpAnswer) :
    (sentOut r answer).body = answer.body := by
  refine if_neg ?_
  rw [h.method]
  decide

theorem ending_of_chatFails (h : app.ChatFails fresh now r f) :
    (app.handle fresh now r .chat).ending = .returned (.error f) := by
  cases h with
  | unread hbody => simp [handle, hbody, Handling.failed]
  | failed hbody hcontext hending =>
    simp [handle, hbody, hcontext, Handling.of, hending, Ending.map, Except.map]

theorem respond_of_chatFails (hposts : app.Posts "/v1/chat" r)
    (hbody : r.body.length ≤ RequestBody.limit) (h : app.ChatFails fresh now r f)
    (limit : Option Nat) :
    ∃ answer, app.respond fresh now limit r = some answer ∧ answer.status = f.kind.status
      ∧ answer.body = HttpAnswer.failureBody f := by
  have hpath : Operation.isStreamPath r.path = false := by
    rw [hposts.path]
    decide
  have hhandling : app.handling? fresh now r = some (app.handle fresh now r .chat) := by
    rw [handling?, hposts.path, hposts.method]
    rfl
  obtain ⟨missing, -, hrespond⟩ :=
    respond_of_handling? app fresh now limit hposts.ne_options hposts.admitted hpath hbody
  rw [hhandling, Option.elim, settled, ending_of_chatFails h] at hrespond
  exact ⟨_, hrespond, rfl, hposts.body_sentOut _⟩

theorem respond_of_streamFails (hposts : app.Posts "/v1/chat/stream" r)
    (h : app.StreamFails fresh now r f) (limit : Option Nat) :
    ∃ answer, app.respond fresh now limit r = some answer ∧ answer.status = (told f).kind.status
      ∧ answer.body = HttpAnswer.failureBody (told f) := by
  have hserved : Operation.chatStream.serves r.method = true := by
    rw [hposts.method]
    decide
  have hpath : Operation.isStreamPath r.path = true := by
    rw [hposts.path]
    decide
  have hreading : ∀ unread : Option HttpAnswer,
      (∃ answer, unread = some answer ∧ answer.status = (told f).kind.status
        ∧ answer.body = HttpAnswer.failureBody (told f)) →
      ∃ answer, (if RequestBody.isJson r then unread.map .reading else unread) = some answer
        ∧ answer.status = (told f).kind.status
        ∧ answer.body = HttpAnswer.failureBody (told f) := by
    rintro _ ⟨answer, rfl, hstatus, hbody⟩
    split_ifs
    · exact ⟨_, rfl, hstatus, hbody⟩
    · exact ⟨_, rfl, hstatus, hbody⟩
  obtain ⟨answer, hanswer, hstatus, hbody⟩ : ∃ answer,
      app.streaming fresh now limit r = some answer ∧ answer.status = (told f).kind.status
        ∧ answer.body = HttpAnswer.failureBody (told f) := by
    unfold streaming
    simp only [hserved, Bool.not_true, Bool.false_eq_true, if_false]
    refine hreading _ ?_
    cases h with
    | unread hbody =>
      -- Nothing that is wrong with a body counts as cancelled.
      have htold : told f = f := if_neg (kind_of_chatBody hbody)
      rw [hbody, htold]
      exact ⟨_, rfl, rfl, rfl⟩
    | @failed s _ hstarted hending hnone =>
      unfold started? at hstarted
      split at hstarted
      · rename_i chat c hchat hcontext
        split_ifs at hstarted with hbuffer
        obtain rfl := Option.some.inj hstarted
        rw [hchat, hcontext]
        simp only [if_neg hbuffer]
        exact app.streamAnswer_of_failed _ limit hending hnone
      · cases hstarted
  refine ⟨sentOut r answer, ?_, hstatus, (hposts.body_sentOut answer).trans hbody⟩
  rw [respond_of_ne_options app fresh now limit hposts.ne_options,
    requireSecret_of_admitted hposts.admitted, call, if_pos hpath, hanswer]
  rfl

theorem failed_streamCall {s : Router.ChatStream}
    (hending : s.handled.ending = .returned (.error f)) (hnone : s.intake.accepted = [])
    {moves : List Move} {g : Failure}
    (h : ((app.streamCall s).run moves).reader = .failed g) : g = told f := by
  rw [streamCall, hending, hnone] at h
  have hg : g = (Ending.returned (.error f) : Ending Unit).failure?.getD silent :=
    (failed_run _ _ _ moves h).failure
  rw [hg, told]
  by_cases hf : f.kind = .cancelled <;> simp [Ending.failure?, Ending.outcome?, hf]

/-- A failure that both ways to chat come to before there is a chunk is answered with the same
status and the same body on both, unless it says that the call was cancelled: then the stream is
answered as an internal failure. So it is for every interleaving of the run and the handler. A body
that is too long is left out. Without a stream it is refused before the handler, in other words than
the handler of a stream has for it. -/
theorem respond_failures {app app' : App} {fresh fresh' : String} {now now' : Nat}
    (limit limit' : Option Nat) {r r' : HttpRequest} {f : Failure}
    (hposts : app.Posts "/v1/chat" r) (hbody : r.body.length ≤ RequestBody.limit)
    (hchat : app.ChatFails fresh now r f) (hposts' : app'.Posts "/v1/chat/stream" r')
    (hstream : app'.StreamFails fresh' now' r' f) :
    ∃ answer answer', app.respond fresh now limit r = some answer
      ∧ app'.respond fresh' now' limit' r' = some answer'
      ∧ answer.status = f.kind.status ∧ answer.body = HttpAnswer.failureBody f
      ∧ (f.kind ≠ .cancelled → answer'.status = answer.status ∧ answer'.body = answer.body)
      ∧ (f.kind = .cancelled → answer.status = 499 ∧ answer'.status = 500
          ∧ answer'.body = HttpAnswer.failureBody (.internal "stream ended without output"))
      ∧ ∀ s, app'.started? fresh' now' r' = some s → ∀ moves g,
          ((app'.streamCall s).run moves).reader = .failed g → g = told f := by
  obtain ⟨answer, hanswer, hstatus, hsaid⟩ := respond_of_chatFails hposts hbody hchat limit
  obtain ⟨answer', hanswer', hstatus', hsaid'⟩ := respond_of_streamFails hposts' hstream limit'
  refine ⟨answer, answer', hanswer, hanswer', hstatus, hsaid, fun hf => ?_, fun hf => ?_, ?_⟩
  · rw [hstatus', hsaid', hstatus, hsaid, told, if_neg hf]
    exact ⟨rfl, rfl⟩
  · rw [hstatus', hsaid', hstatus, told, if_pos hf, hf]
    exact ⟨rfl, rfl, rfl⟩
  · intro s hs moves g hg
    cases hstream with
    | unread hunread => simp [started?, hunread] at hs
    | failed hstarted hending hnone =>
      obtain rfl := Option.some.inj (hs.symm.trans hstarted)
      exact failed_streamCall hending hnone hg

section Brief

variable (e : Failure)

theorem posts_greeting {path : String} (hpath : (greeting path).path = path)
    (ending : Ending ChatResponse) : (briefly ending).Posts path (greeting path) :=
  ⟨rfl, hpath, rfl⟩

theorem path_stream : (greeting "/v1/chat/stream").path = "/v1/chat/stream" := by decide +kernel

theorem chatFails_briefly : (briefly (.returned (.error e))).ChatFails "" 0 (greeting "/v1/chat")
    (e.withModel "m") :=
  .failed (chatBody_greeting _) rfl rfl

theorem streamFails_briefly :
    (briefly (.returned (.error e))).StreamFails "" 0 (greeting "/v1/chat/stream")
      (e.withModel "m") := by
  have hbuffer : ¬maxBuffer < 32 := by decide
  have hcontext : (briefly (.returned (.error e))).context? 0 =
      some ⟨none, some (0 + 300 * 1000)⟩ := rfl
  have hstarted : (briefly (.returned (.error e))).started? "" 0 (greeting "/v1/chat/stream") =
      some ⟨⟨.returned (.error (e.withModel "m")), [0], []⟩,
        .start ⟨none, some (0 + 300 * 1000)⟩ 0⟩ := by
    rw [started?, chatBody_greeting, hcontext]
    exact if_neg hbuffer
  exact .failed hstarted rfl rfl

theorem unreachable_told :
    let app := briefly unreachable
    app.Posts "/v1/chat" (greeting "/v1/chat")
      ∧ (greeting "/v1/chat").body.length ≤ RequestBody.limit
      ∧ app.Posts "/v1/chat/stream" (greeting "/v1/chat/stream")
      ∧ ∃ answer answer', app.respond "" 0 none (greeting "/v1/chat") = some answer
        ∧ app.respond "" 0 none (greeting "/v1/chat/stream") = some answer'
        ∧ answer'.status = answer.status ∧ answer'.body = answer.body := by
  have hposts := posts_greeting path_chat unreachable
  have hposts' := posts_greeting path_stream unreachable
  obtain ⟨answer, answer', hanswer, hanswer', -, -, hsame, -⟩ :=
    respond_failures none none hposts (length_greeting _) (chatFails_briefly _) hposts'
      (streamFails_briefly _)
  obtain ⟨hstatus, hbody⟩ := hsame (by decide)
  exact ⟨hposts, length_greeting _, hposts', answer, answer', hanswer, hanswer', hstatus, hbody⟩

/-- A provider that says the call was cancelled is believed on one way only. -/
theorem cancelled_untold :
    let app := briefly (.returned (.error .cancelled))
    let f := Failure.ofModel "m" .cancelled
    app.ChatFails "" 0 (greeting "/v1/chat") f
      ∧ app.StreamFails "" 0 (greeting "/v1/chat/stream") f
      ∧ ∃ answer answer', app.respond "" 0 none (greeting "/v1/chat") = some answer
        ∧ app.respond "" 0 none (greeting "/v1/chat/stream") = some answer'
        ∧ answer.status = 499 ∧ answer'.status = 500 := by
  have hchat := chatFails_briefly .cancelled
  have hstream := streamFails_briefly .cancelled
  obtain ⟨answer, hanswer, hstatus, -⟩ :=
    respond_of_chatFails (posts_greeting path_chat _) (length_greeting _) hchat none
  obtain ⟨answer', hanswer', hstatus', -⟩ :=
    respond_of_streamFails (posts_greeting path_stream _) hstream none
  exact ⟨hchat, hstream, answer, answer', hanswer, hanswer', hstatus, hstatus'⟩

end Brief

end App

end Switchboard
