import Switchboard.Proofs.Server.Secret

/-!
# The record of a call

A call that is not a stream leaves its record when its handler comes back, whether with an answer or
with a failure, or when nothing is served on its path or by its method. A breakdown of the handler
goes past the place where the record is written: it is answered, but the answer is all that tells of
it beside the breakdown itself (`App.respond_logs`).
-/

namespace Switchboard

/-- A record names an operation and a status, and the reason of a failure if there is one. -/
structure LogRecord.Tells (record : LogRecord) (operation : String) (status : Nat)
    (failure : Option Failure) : Prop where
  access : AccessRecord.isAccess record = true
  operation : Members.lookup "operation" record.fields = some (.str operation)
  status : Members.lookup "status" record.fields = some (.nat status)
  reason : Members.lookup "reason" record.fields = failure.map fun f => .str f.kind.reason

theorem AccessRecord.tells_record (operation message request : String) (status : Nat)
    (failure : Option Failure) (trace : Option String) :
    (record operation message request status
      (failure.map (.of · trace))).Tells operation status failure := by
  refine ⟨isAccess_record .., ?_, ?_, ?_⟩ <;> unfold record
  all_goals
    cases failure with
    | none => rfl
    | some f =>
      simp only [Option.map_some]
      split_ifs <;> rfl

namespace HttpAnswer

def records (a : HttpAnswer) : List LogRecord := a.log.filter AccessRecord.isAccess

end HttpAnswer

namespace App

variable {app : App} {fresh : String} {now : Nat} {limit : Option Nat} {r : HttpRequest}

/-- What a call is handled with, if anything is served on its path and by its method. -/
def handling? (app : App) (fresh : String) (now : Nat) (r : HttpRequest) : Option Handling :=
  (Operation.ofPath? r.path).bind fun o =>
    if o.serves r.method then some (app.handle fresh now r o) else none

/-- A call is answered with a status and leaves one record, which tells that status. -/
def Logs (app : App) (fresh : String) (now : Nat) (limit : Option Nat) (r : HttpRequest)
    (status : Nat) (failure : Option Failure) : Prop :=
  ∃ answer record, app.respond fresh now limit r = some answer ∧ answer.status = status
    ∧ answer.records = [record]
    ∧ record.Tells (Operation.nameOfPath r.path) answer.status failure

theorem logs_of_log {answer : HttpAnswer} {message request : String} (failure : Option Failure)
    (h : app.respond fresh now limit r = some answer)
    (hlog : answer.log = [AccessRecord.record (Operation.nameOfPath r.path) message request
      answer.status (failure.map (.of · none))]) :
    app.Logs fresh now limit r answer.status failure := by
  refine ⟨answer, _, h, rfl, ?_, AccessRecord.tells_record _ message request _ failure none⟩
  simp [HttpAnswer.records, hlog]

/-- A call that is not a stream, of a caller that is let through and with a body that is not too
long, is answered once it is handled. -/
theorem respond_of_handling? (app : App) (fresh : String) (now : Nat) (limit : Option Nat)
    (hmethod : r.method ≠ "OPTIONS") (hadmitted : r.isAdmitted app.secret = true)
    (hpath : Operation.isStreamPath r.path = false) (hbody : r.body.length ≤ RequestBody.limit) :
    let operation := Operation.nameOfPath r.path
    let request := AccessRecord.requestText r.body
    ∃ missing, (missing = 404 ∨ missing = 405) ∧ app.respond fresh now limit r =
      ((app.handling? fresh now r).elim (some (unserved operation request missing))
        (settled operation request)).map (sentOut r ∘ .reading) := by
  intro operation request
  have hanswered : app.respond fresh now limit r =
      (app.answered fresh now r).map (sentOut r ∘ .reading) := by
    rw [respond_of_ne_options app fresh now limit hmethod, requireSecret_of_admitted hadmitted,
      call, if_neg (by simp [hpath]), unary, Option.map_map]
  simp only [hanswered, answered, if_neg (Nat.not_lt.2 hbody), handling?]
  rcases Operation.ofPath? r.path with _ | o
  · exact ⟨404, .inl rfl, rfl⟩
  · refine ⟨405, .inr rfl, ?_⟩
    simp only [Option.bind_some]
    split_ifs <;> rfl

/-- For every call that is not a stream, of a caller that is let through and with a body that is not
too long: if its handler comes back, or there is none, there is one record, which names the
operation, the status that is sent and the reason of the failure if there is one. If the handler
breaks down, the call is answered as an internal failure and there is no record. -/
theorem respond_logs (app : App) (fresh : String) (now : Nat) (limit : Option Nat) {r : HttpRequest}
    (hmethod : r.method ≠ "OPTIONS") (hadmitted : r.isAdmitted app.secret = true)
    (hpath : Operation.isStreamPath r.path = false) (hbody : r.body.length ≤ RequestBody.limit) :
    (app.handling? fresh now r = none →
      ∃ status, (status = 404 ∨ status = 405) ∧ app.Logs fresh now limit r status none)
    ∧ ∀ h, app.handling? fresh now r = some h →
      (∀ value, h.ending = .returned (.ok value) → app.Logs fresh now limit r 200 none)
      ∧ (∀ f, h.ending = .returned (.error f) →
          app.Logs fresh now limit r f.kind.status (some f))
      ∧ (∀ message, h.ending = .crashed message → ∃ answer,
          app.respond fresh now limit r = some answer ∧ answer.status = 500
            ∧ answer.records = [])
      ∧ (h.ending = .waiting → app.respond fresh now limit r = none) := by
  obtain ⟨missing, hmissing, hrespond⟩ :=
    respond_of_handling? app fresh now limit hmethod hadmitted hpath hbody
  refine ⟨fun hnone => ⟨missing, hmissing, ?_⟩, fun h hsome => ⟨fun value hok => ?_,
    fun f hfailed => ?_, fun message hcrashed => ?_, fun hwaiting => ?_⟩⟩
  · rw [hnone] at hrespond
    exact logs_of_log none hrespond rfl
  all_goals rw [hsome, Option.elim, settled] at hrespond
  · rw [hok] at hrespond
    exact logs_of_log none hrespond rfl
  · rw [hfailed] at hrespond
    exact logs_of_log (some f) hrespond rfl
  · rw [hcrashed] at hrespond
    exact ⟨_, hrespond, rfl, rfl⟩
  · rw [hwaiting] at hrespond
    exact hrespond

section Brief

/-- A provider whose calls end in one way and stream nothing. -/
def brief (ending : Ending ChatResponse) : Provider :=
  { Provider.bare .openai [.chat "m" .openai] with
    chat := fun _ _ _ => ⟨ending, []⟩
    stream := fun _ c now _ => ⟨ending.map fun o => o.map fun _ => (), .start c now, []⟩ }

def briefly (ending : Ending ChatResponse) : App :=
  ⟨(Router.ofProviders [brief ending]).1, .unset, none, 300, 32⟩

/-- A caller who says hello on a path. -/
def greeting (path : String) : HttpRequest :=
  ⟨"POST", path, [("content-type", "application/json")],
    [Text.utf8 "\x7b\"model\":\"m\",\"messages\":",
      Text.utf8 "[\x7b\"role\":\"user\",\"content\":\"hello\"\x7d]\x7d"]⟩

theorem chatBody_greeting (path : String) :
    chatBody (greeting path) = .ok (.of "m" [.of .user (.text "hello")]) := by
  -- What a body says does not depend on the path.
  show chatBody (greeting "") = _
  decide +kernel

theorem path_chat : (greeting "/v1/chat").path = "/v1/chat" := by decide +kernel

theorem length_greeting (path : String) : (greeting path).body.length ≤ RequestBody.limit := by
  show (greeting "").body.length ≤ RequestBody.limit
  decide +kernel

theorem handling?_greeting (ending : Ending ChatResponse) :
    (briefly ending).handling? "" 0 (greeting "/v1/chat") =
      some (.of ChatResponse.json ⟨ending.map (Outcome.ofModel "m"), [0], []⟩) := by
  unfold handling?
  rw [path_chat]
  show some ((briefly ending).handle "" 0 (greeting "/v1/chat") .chat) = _
  rw [handle, chatBody_greeting]
  rfl

/-- The chats of a provider that cannot be reached. -/
def unreachable : Ending ChatResponse := .returned (.error (.transport "reset"))

theorem unreachable_logged :
    (greeting "/v1/chat").method ≠ "OPTIONS"
      ∧ (greeting "/v1/chat").isAdmitted (briefly unreachable).secret = true
      ∧ Operation.isStreamPath (greeting "/v1/chat").path = false
      ∧ (greeting "/v1/chat").body.length ≤ RequestBody.limit
      ∧ (briefly unreachable).Logs "" 0 none (greeting "/v1/chat") 503
          (some (.ofModel "m" (.transport "reset"))) := by
  have hmethod : (greeting "/v1/chat").method ≠ "OPTIONS" := by decide
  have hpath : Operation.isStreamPath (greeting "/v1/chat").path = false := by
    rw [path_chat]
    decide
  obtain ⟨-, hlogs⟩ := respond_logs (briefly unreachable) "" 0 none hmethod rfl hpath
    (length_greeting _)
  obtain ⟨-, hfailed, -⟩ := hlogs _ (handling?_greeting unreachable)
  exact ⟨hmethod, rfl, hpath, length_greeting _, hfailed _ rfl⟩

/-- A chat in which the provider breaks down is answered but leaves no record. -/
theorem exploding_unlogged :
    (greeting "/v1/chat").method ≠ "OPTIONS"
      ∧ (greeting "/v1/chat").isAdmitted (briefly (.crashed "provider exploded")).secret = true
      ∧ Operation.isStreamPath (greeting "/v1/chat").path = false
      ∧ (greeting "/v1/chat").body.length ≤ RequestBody.limit
      ∧ ∃ answer, (briefly (.crashed "provider exploded")).respond "" 0 none
          (greeting "/v1/chat") = some answer ∧ answer.status = 500 ∧ answer.records = [] := by
  have hmethod : (greeting "/v1/chat").method ≠ "OPTIONS" := by decide
  have hpath : Operation.isStreamPath (greeting "/v1/chat").path = false := by
    rw [path_chat]
    decide
  obtain ⟨missing, -, hrespond⟩ := respond_of_handling?
    (briefly (.crashed "provider exploded")) "" 0 none hmethod rfl hpath (length_greeting _)
  rw [handling?_greeting] at hrespond
  exact ⟨hmethod, rfl, hpath, length_greeting _, _, hrespond, rfl, rfl⟩

end Brief

end App

end Switchboard
