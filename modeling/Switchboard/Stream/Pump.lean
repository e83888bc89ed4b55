import Switchboard.Stream.Assembler
import Switchboard.Stream.Sink
import Switchboard.Text.Blank

/-!
# Pumping a stream

The pump pulls events from a provider under the guard of the call, decodes them, and offers the
chunks that are assembled from them to a sink, until the answer is complete or something fails. An
event with blank data only keeps the connection alive.
-/

namespace Switchboard

/-- A stream on its way: the decoder's state, the chunks being assembled, and the sink. -/
structure Flow (σ : Type) where
  state : σ
  assembler : Assembler
  intake : Intake

/-- How a pump ended. -/
structure Pumped where
  /-- Nothing, if the pump waits for ever. -/
  outcome : Option (Outcome Unit)
  intake : Intake
  /-- How many events were pulled. -/
  pulled : Nat

namespace Flow

variable {σ : Type}

def start (d : Decoder σ) (id model : String) (context : CallContext) (now : Nat) : Flow σ :=
  ⟨d.start, .start id model, .start context now⟩

/-- Applies one thing a stream says; tells whether the answer is complete. -/
def apply (sink : Sink) (f : Flow σ) (event : StreamEvent) : Flow σ × Outcome Bool :=
  let (assembler, chunk?) := f.assembler.step event
  let (intake, offered) := f.intake.offer? sink chunk?
  ({ f with assembler, intake }, offered.map fun _ => assembler.completed)

/-- Applies what one event says, up to where the answer is complete or a chunk is refused. -/
def applyAll (sink : Sink) (f : Flow σ) : List StreamEvent → Flow σ × Outcome Bool
  | [] => (f, .ok false)
  | event :: rest =>
    match f.apply sink event with
    | (f, .ok false) => applyAll sink f rest
    | (f, .ok true) => (f, .ok true)
    | (f, .error e) => (f, .error e)

/-- Takes one event that was pulled. -/
def take (d : Decoder σ) (sink : Sink) (f : Flow σ) (event : ServerEvent) :
    Flow σ × Outcome Bool :=
  if Text.blank event.data then (f, .ok false)
  else match d.decode f.state event with
    | .error e => (f, .error e)
    | .ok (said, state) => applyAll sink { f with state } said

/-- Ends the answer where the stream ends. -/
def finish (sink : Sink) (f : Flow σ) : Flow σ × Outcome Unit :=
  match f.assembler.close with
  | .error e => (f, .error e)
  | .ok (assembler, chunk?) =>
    let (intake, offered) := f.intake.offer? sink chunk?
    ({ f with assembler, intake }, offered)

/-- How the pump ends in this state. -/
def ended (f : Flow σ) (pulled : Nat) (outcome : Outcome Unit) : Pumped :=
  ⟨some outcome, f.intake, pulled⟩

/-- Pulls the events of a stream, given how long each takes to come and that it may fail instead. -/
def pump (d : Decoder σ) (sink : Sink) (last : Work Unit) (f : Flow σ) (pulled : Nat) :
    List (Work ServerEvent) → Pumped
  | [] =>
    match f.intake.context.guard f.intake.now last with
    | none => ⟨none, f.intake, pulled⟩
    | some (.error e, now) => { f with intake.now := now }.ended pulled (.error e)
    | some (.ok (), now) =>
      let (f, outcome) := { f with intake.now := now }.finish sink
      f.ended pulled outcome
  | event :: rest =>
    match f.intake.context.guard f.intake.now event with
    | none => ⟨none, f.intake, pulled⟩
    | some (.error e, now) => { f with intake.now := now }.ended pulled (.error e)
    | some (.ok event, now) =>
      match { f with intake.now := now }.take d sink event with
      | (f, .error e) => f.ended (pulled + 1) (.error e)
      | (f, .ok true) => f.ended (pulled + 1) (.ok ())
      | (f, .ok false) => pump d sink last f (pulled + 1) rest

end Flow

/-- The course of a stream from its first pull: its events, and then its end, which may fail. -/
def pumpStream {σ : Type} (d : Decoder σ) (sink : Sink) (id model : String)
    (context : CallContext) (now : Nat) (events : List (Work ServerEvent)) (last : Work Unit) :
    Pumped :=
  (Flow.start d id model context now).pump d sink last 0 events

end Switchboard
