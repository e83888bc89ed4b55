import Switchboard.Gateway.Embed
import Switchboard.Server.AccessRecord
import Switchboard.Server.Body
import Switchboard.Server.Secret
import Switchboard.Server.StreamCall

/-!
# The server

How a request is answered: a caller without the secret is turned away; the rest are handled and
leave their record. An answer at once has a body of JSON. A stream is answered as one as soon as it
has a first chunk; until then its failures are answered like any other. A breakdown is answered as
an internal failure.
-/

namespace Switchboard

structure App where
  router : Router
  defaults : SamplingDefaults
  secret : Option String
  /-- How long a call may take, in seconds. -/
  requestTimeout : Nat
  /-- How many chunks wait between a provider and its client. -/
  streamBuffer : Nat

inductive AnswerBody where
  /-- Nothing, though it may be known of what type it would be. -/
  | empty (type : Option String)
  | json (value : Json)
  | events (events : List (String × Json))

namespace AnswerBody

/-- The media type of a body. -/
def type? : AnswerBody → Option String
  | empty type => type
  | json _ => some "application/json"
  | events _ => some "text/event-stream"

end AnswerBody

structure HttpAnswer where
  status : Nat
  /-- The methods that would have been served. -/
  allow : Option String
  body : AnswerBody
  log : List LogRecord
  called : List Nat
  sent : List WireRequest
  /-- Whether any of the request's body was asked for. -/
  bodyRead : Bool

namespace HttpAnswer

/-- An answer that needed no provider and nothing of the request's body. -/
def plain (status : Nat) (body : AnswerBody) (log : List LogRecord) : HttpAnswer :=
  ⟨status, none, body, log, [], [], false⟩

/-- An answer for which the request's body was asked for. -/
def reading (a : HttpAnswer) : HttpAnswer := { a with bodyRead := true }

/-- The body of a failure. -/
def failureBody (f : Failure) : AnswerBody := .json (.mkObj [("error", f.body)])

end HttpAnswer

/-- What a handler without a stream came to. -/
structure Handling where
  ending : Ending Json
  called : List Nat
  sent : List WireRequest

namespace Handling

def failed (f : Failure) : Handling := ⟨.returned (.error f), [], []⟩

def crashed (message : String) : Handling := ⟨.crashed message, [], []⟩

def done (value : Json) : Handling := ⟨.returned (.ok value), [], []⟩

def of {α : Type} (encode : α → Json) (h : Handled α) : Handling :=
  ⟨h.ending.map fun o => o.map encode, h.called, h.sent⟩

end Handling

namespace App

/-- What stands for a trace of a breakdown. -/
def traceMark : String := "<backtrace>"

/-- The record of a breakdown. -/
def breakdown (message : String) : LogRecord :=
  .of .error "panic" [("panic", message), ("backtrace", traceMark)]

def version : String := "0.1.0"

/-- The last second that the clock can tell. -/
def lastSecond : Nat := Nat.pow 2 63 - 1

/-- The context of a call that comes in at the instant `now`; none if the clock does not go on to
its deadline. -/
def context? (app : App) (now : Nat) : Option CallContext :=
  if lastSecond < now / 1000 + app.requestTimeout then none
  else some ⟨none, some (now + app.requestTimeout * 1000)⟩

/-- What a breakdown over a deadline beyond the clock says. -/
def beyondClock : String := "overflow when adding duration to instant"

/-- How many chunks may wait between a provider and its client at most. -/
def maxBuffer : Nat := Nat.pow 2 61 - 1

/-- What a breakdown over a buffer beyond that says. -/
def beyondBuffer : String :=
  s!"a semaphore may not have more than MAX_PERMITS permits ({maxBuffer})"

def chatBody (r : HttpRequest) : Outcome ChatRequest := do
  (← RequestBody.read ChatBody.read r).request

def handle (app : App) (fresh : String) (now : Nat) (r : HttpRequest) : Operation → Handling
  | .chat =>
    match chatBody r, app.context? now with
    | .error f, _ => .failed f
    | .ok _, none => .crashed beyondClock
    | .ok request, some c =>
      .of ChatResponse.json (app.router.chat app.defaults fresh c now request)
  | .embed =>
    match RequestBody.read EmbedRequest.read r, app.context? now with
    | .error f, _ => .failed f
    | .ok _, none => .crashed beyondClock
    | .ok request, some c => .of EmbedResponse.json (app.router.embed fresh c now request)
  | .listModels => .done (.mkObj [("models", .arr (app.router.models.map Model.json))])
  | .health | .chatStream => .done (.mkObj [("status", "ok"), ("version", version)])

/-- The answer to a call whose handler is done, with its record; none if it is never done. -/
def settled (operation request : String) (h : Handling) : Option HttpAnswer :=
  match h.ending with
  | .waiting => none
  | .crashed message =>
    some ⟨500, none, HttpAnswer.failureBody (.internal message),
      [breakdown message,
        .of .error "recovered from panic in handler" [("panic", message)]], h.called, h.sent,
      false⟩
  | .returned (.ok value) =>
    some ⟨200, none, .json value,
      [AccessRecord.record operation "call completed" request 200 none], h.called, h.sent, false⟩
  | .returned (.error f) =>
    some ⟨f.kind.status, none, HttpAnswer.failureBody f,
      [AccessRecord.record operation "call failed" request f.kind.status (some (.of f none))],
      h.called, h.sent, false⟩

/-- The answer to a path or a method that nothing is served on. -/
def unserved (operation request : String) (status : Nat) : HttpAnswer :=
  .plain status (.empty none) [AccessRecord.record operation "call completed" request status none]

/-- The answer to a call that is not a stream, once its body is there. -/
def answered (app : App) (fresh : String) (now : Nat) (r : HttpRequest) : Option HttpAnswer :=
  let operation := Operation.nameOfPath r.path
  if RequestBody.limit < r.body.length then
    let f := Failure.invalidRequest ("unreadable request body: " ++ RequestBody.tooLong)
    some (.plain f.kind.status (HttpAnswer.failureBody f)
      [.of .warn "call failed" [("operation", operation), ("error", f.message)]])
  else
    let request := AccessRecord.requestText r.body
    match Operation.ofPath? r.path with
    | none => some (unserved operation request 404)
    | some o =>
      if o.serves r.method then settled operation request (app.handle fresh now r o)
      else some (unserved operation request 405)

/-- A call that is not a stream. Its body is read before anything is done with it. -/
def unary (app : App) (fresh : String) (now : Nat) (r : HttpRequest) : Option HttpAnswer :=
  (app.answered fresh now r).map .reading

/-- The stream of a run: what the provider emits when it is never refused. -/
def streamCall (app : App) (s : Router.ChatStream) : StreamCall :=
  .start (max 1 app.streamBuffer) (some traceMark) (.relay s.handled.ending s.intake.accepted)

/-- The record of a run's breakdown. -/
def streamBreakdown (s : Router.ChatStream) : List LogRecord :=
  match s.handled.ending with
  | .crashed message => [breakdown message]
  | _ => []

/-- The answer to a stream, of which the client takes `limit` events, or all. -/
def streamAnswer (app : App) (request : String) (limit : Option Nat) (s : Router.ChatStream) :
    Option HttpAnswer :=
  let operation := Operation.chatStream.name
  let first := (app.streamCall s).next
  match first.reader with
  | .failed f =>
    let report := FailureReport.of f (first.recorded.bind (·.trace))
    some ⟨f.kind.status, none, HttpAnswer.failureBody f,
      streamBreakdown s ++
        [AccessRecord.record operation "call failed" request f.kind.status (some report)],
      s.handled.called, s.handled.sent, false⟩
  | .body .. =>
    let last := first.readOut limit (s.intake.accepted.length + 3)
    if last.closings.isEmpty then none
    else some ⟨200, none, .events (StreamCall.events last.delivered),
      streamBreakdown s ++ last.closings.map fun c => c.record operation request,
      s.handled.called, s.handled.sent, false⟩
  | _ => none

/-- A call that is a stream. Its body is not read before its handler wants it. -/
def streaming (app : App) (fresh : String) (now : Nat) (limit : Option Nat) (r : HttpRequest) :
    Option HttpAnswer :=
  let operation := Operation.chatStream.name
  if !Operation.chatStream.serves r.method then some (unserved operation "" 405)
  else
    let request := AccessRecord.requestText ((RequestBody.captured r).getD [])
    let answer := match chatBody r, app.context? now with
      | .error f, _ => settled operation request (.failed f)
      | .ok _, none => settled operation request (.crashed beyondClock)
      | .ok chat, some c =>
        if maxBuffer < app.streamBuffer then settled operation request (.crashed beyondBuffer)
        else app.streamAnswer request limit
          (app.router.chatStream app.defaults fresh .all c now chat)
    if RequestBody.isJson r then answer.map .reading else answer

/-- A call of a caller that has been let through. -/
def call (app : App) (fresh : String) (now : Nat) (limit : Option Nat) (r : HttpRequest) :
    Option HttpAnswer :=
  if Operation.isStreamPath r.path then app.streaming fresh now limit r
  else app.unary fresh now r

/-- The answer to a caller that has not shown the secret. -/
def turnedAway (r : HttpRequest) : HttpAnswer :=
  .plain Failure.unauthenticated.kind.status (HttpAnswer.failureBody .unauthenticated)
    [.of .warn "rejected unauthenticated call" [("method", r.method), ("path", r.path)]]

/-- Stands before `next` and turns callers away that do not show the secret. -/
def requireSecret (secret : Option String) (next : HttpRequest → Option HttpAnswer)
    (r : HttpRequest) : Option HttpAnswer :=
  if r.isAdmitted secret then next r else some (turnedAway r)

/-- The methods served on a path, when the request's is none of them. -/
def allow? (r : HttpRequest) : Option String :=
  (Operation.ofPath? r.path).bind fun o =>
    if o.serves r.method then none else some (",".intercalate o.methods)

/-- An answer as it goes out. A question about what can be got is answered without the body. -/
def sentOut (r : HttpRequest) (answer : HttpAnswer) : HttpAnswer :=
  { answer with
    allow := allow? r
    body := if r.method = "HEAD" then .empty answer.body.type? else answer.body }

/-- The answer to a request that comes in at the instant `now`, of which the client takes `limit`
events if it is a stream; none if there never is one. A question for options is answered without
further ado. -/
def respond (app : App) (fresh : String) (now : Nat) (limit : Option Nat) (r : HttpRequest) :
    Option HttpAnswer :=
  let answer :=
    if r.method = "OPTIONS" then some (.plain 200 (.empty none) [])
    else requireSecret app.secret (app.call fresh now limit) r
  answer.map (sentOut r)

end App

end Switchboard
