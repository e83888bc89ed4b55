import Switchboard.Call.Ending
import Switchboard.Dialect.Status
import Switchboard.Net.Url
import Switchboard.Stream.Pump
import Switchboard.Wire.Framing

/-!
# Exchanges with an endpoint

One exchange sends one request and goes by its answer, all under the guard of the call. A call that
is cancelled or past its deadline when the exchange begins sends nothing, and neither does one whose
request cannot be written. What the network does is given as a function, so that everything said
here holds of every network.
-/

namespace Switchboard

/-- A request as it goes over the wire. All of them are posts of JSON. -/
structure WireRequest where
  url : String
  headers : List (String × String)
  body : Json

namespace WireRequest

/-- Whether a header may hold a character: no control but the tab. -/
def isHeaderChar (c : Char) : Bool := c == '\t' || (0x20 ≤ c.toNat && c.toNat != 0x7F)

/-- The characters that a domain may have but no address on the wire. -/
def isUnwritable (c : Char) : Bool := ['"', '\x60', '{', '}'].contains c

/-- Why a request cannot be written, if it cannot. -/
def fault? (r : WireRequest) : Option String :=
  match Net.Url.ofString r.url with
  | .error fault => some fault.message
  | .ok url =>
    if !(r.headers.all fun (_, value) => value.toList.all isHeaderChar) then
      some "failed to parse header value"
    else if url.domain.any isUnwritable then some "Parsed Url is not a valid Uri"
    else none

end WireRequest

/-- What an endpoint answers: its status, and a body that may break off or never end. -/
structure Answer where
  status : Nat
  body : List UInt8
  /-- The end of the body, or the failure in its place. -/
  ending : Work Unit

/-- What becomes of a request, and how long that takes; it fails if the endpoint is not reached. -/
abbrev Network := WireRequest → Work Answer

/-- What came of some work done over a network. -/
structure Exchanged (α : Type) where
  /-- The outcome and when it was there; nothing, if the work waits for ever. -/
  outcome : Option (Outcome α × Nat)
  sent : List WireRequest

namespace Exchanged

variable {α β : Type}

/-- Work that was over before anything was sent. -/
def unsent (now : Nat) (outcome : Outcome α) : Exchanged α := ⟨some (outcome, now), []⟩

def bind (e : Exchanged α) (f : α → Nat → Option (Outcome β × Nat)) : Exchanged β :=
  ⟨match e.outcome with
    | none => none
    | some (.error f, now) => some (.error f, now)
    | some (.ok x, now) => f x now,
  e.sent⟩

end Exchanged

namespace Answer

/-- How long two things take, one after the other. -/
def after : Option Nat → Option Nat → Option Nat
  | some a, some b => some (a + b)
  | _, _ => none

/-- The answer when it is one of success; of any other the whole body is read for what it says. -/
def accepted (t : Work Answer) : Work Answer :=
  match t.outcome with
  | .error _ => t
  | .ok a =>
    if HttpStatus.isSuccess a.status then t
    else
      let body := match a.ending.outcome with
        | .ok () => String.ofList (Text.ofUtf8Lossy a.body)
        | .error _ => ""
      ⟨after t.takes a.ending.takes, .error (.ofStatus a.status body)⟩

/-- The value that the body of an answer writes down. -/
def value (a : Answer) : Work Json :=
  ⟨a.ending.takes, match a.ending.outcome, Json.ofBytes? a.body with
    | .ok (), some j => .ok j
    | _, _ => .error (.untranslatable "could not decode upstream response: not JSON")⟩

/-- The events in the body of an answer, and its end. -/
def events (a : Answer) : List (Work ServerEvent) × Work Unit :=
  let (events, isText) := ServerEvent.ofBytes a.body
  (events.map fun e => .done (.ok e),
    if isText then a.ending
    else .done (.error (.untranslatable "malformed event stream: not UTF-8")))

end Answer

/-- Whether work under the guard of a call is begun at all. -/
def CallContext.admits (c : CallContext) (now : Nat) : Bool :=
  !c.isCancelled now && c.deadline.all (now < ·)

/-- Sends a request, if it can be written, and waits for the start of an answer of success. -/
def Network.post (network : Network) (c : CallContext) (now : Nat) (r : WireRequest) :
    Exchanged Answer :=
  match r.fault? with
  | some fault => ⟨c.guard now (.done (.error (.transport ("builder error: " ++ fault)))), []⟩
  | none => ⟨c.guard now (Answer.accepted (network r)), if c.admits now then [r] else []⟩

/-- Sends a request and reads the value in the answer. -/
def Network.postJson (network : Network) (c : CallContext) (now : Nat) (r : WireRequest) :
    Exchanged Json :=
  (network.post c now r).bind fun answer now => c.guard now answer.value

/-- What came of a streamed answer: how it ended, what the sink was offered, and what was sent. -/
structure Streamed where
  ending : Ending Unit
  intake : Intake
  sent : List WireRequest

namespace Streamed

/-- A stream that failed before its first event. -/
def failed (c : CallContext) (now : Nat) (f : Failure) (sent : List WireRequest) : Streamed :=
  ⟨.returned (.error f), .start c now, sent⟩

end Streamed

/-- Sends a request and pumps the answer's events to a sink. -/
def Network.postStream {σ : Type} (network : Network) (c : CallContext) (now : Nat)
    (r : WireRequest) (d : Decoder σ) (id model : String) (sink : Sink) : Streamed :=
  let posted := network.post c now r
  match posted.outcome with
  | none => ⟨.waiting, .start c now, posted.sent⟩
  | some (.error f, now) => .failed c now f posted.sent
  | some (.ok answer, now) =>
    let (events, last) := answer.events
    let pumped := pumpStream d sink id model c now events last
    ⟨.ofOutcome? pumped.outcome, pumped.intake, posted.sent⟩

end Switchboard
