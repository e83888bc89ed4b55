import Switchboard.Call.Ending
import Switchboard.Chat.Response
import Switchboard.Server.AccessRecord

/-!
# A stream between provider and client

The run of a provider offers its chunks to a sink that puts them into a channel of limited room, and
waits while there is none. When the run is over, the failure it came to is put on record and then
sent after the chunks; a run that ends because it was cancelled leaves no failure. On the other side
a handler takes the first item. If that is a chunk, the answer gets a body, which holds the chunk
until it is read and takes the rest out of the channel. When the body is dropped, at its end or
because the client goes away, the record of the call is written; then the channel is let go, and the
run is refused its next chunk.

Either side moves when it can, one use of what they share at a time: `produce` is a move of the run,
`receive` one of whoever waits for an item, and `drop` gives up the wait.
-/

namespace Switchboard

/-- A provider's run as its sink sees it: it is over, or offers a chunk and goes on by what came of
that. What else it goes by, such as the time, shows in what it does. -/
inductive ProviderRun where
  | ended (ending : Ending Unit)
  | emit (chunk : Chunk) (next : Outcome Unit → ProviderRun)

namespace ProviderRun

/-- The run that offers some chunks, up to one that is refused, and ends with that refusal. -/
def relay (ending : Ending Unit) : List Chunk → ProviderRun
  | [] => ended ending
  | c :: rest => emit c fun
    | .ok () => relay ending rest
    | .error refusal => ended (.returned (.error refusal))

/-- The chunks that are emitted if none is refused. -/
def chunks : ProviderRun → List Chunk
  | ended _ => []
  | emit c next => c :: (next (.ok ())).chunks

/-- How the run ends if no chunk is refused. -/
def ending : ProviderRun → Ending Unit
  | ended ending => ending
  | emit _ next => (next (.ok ())).ending

end ProviderRun

/-- What the failure of a run says in the record of its call. Only a breakdown leaves a trace. -/
def FailureReport.ofRun (ending : Ending Unit) (trace : Option String) (f : Failure) :
    FailureReport :=
  .of f (match ending with
    | .crashed _ => trace
    | _ => none)

/-- How a client stops taking items. -/
inductive Stop where
  /-- It has come to the end. -/
  | finished
  /-- It goes away. -/
  | left
deriving DecidableEq, Repr

/-- How a body was dropped, and the failure that was on record then. -/
structure Closing where
  stop : Stop
  failure : Option FailureReport
deriving DecidableEq, Repr

/-- The side of the provider. -/
inductive StreamTask where
  | running (run : ProviderRun)
  /-- A failure is on record and is still to be sent. -/
  | failing (failure : Failure)
  /-- Everything is sent. -/
  | closing
  | ended

/-- The side of the client. -/
inductive StreamReader where
  /-- The handler waits for the first item. -/
  | waiting
  /-- There was no chunk, and the call is answered with a failure. -/
  | failed (failure : Failure)
  /-- The answer has a body, with the first chunk if it has not been read, and it may have come to
  its end. -/
  | body (first : Option Chunk) (atEnd : Bool)
  /-- The body is dropped, but for its end of the channel. -/
  | dropping
  | gone

structure StreamCall where
  /-- How many items the channel has room for. -/
  room : Nat
  /-- The trace that a breakdown leaves. -/
  trace : Option String
  task : StreamTask
  channel : List (Outcome Chunk)
  recorded : Option FailureReport
  reader : StreamReader
  /-- What the client has read. -/
  delivered : List (Outcome Chunk)
  /-- What the access records of the call are written from. -/
  closings : List Closing

namespace StreamCall

inductive Move where
  | produce
  | receive
  | drop
deriving DecidableEq, Repr

/-- A run that is about to start. -/
def start (room : Nat) (trace : Option String) (run : ProviderRun) : StreamCall :=
  ⟨room, trace, .running run, [], none, .waiting, [], []⟩

/-- Nobody is left to take items out of the channel. -/
def isReleased (s : StreamCall) : Bool :=
  match s.reader with
  | .failed _ | .gone => true
  | _ => false

/-- The failure that a run is told when its chunk is refused. -/
def refusal : Failure := .cancelled

/-- Puts an item into the channel; none as long as that has to wait for room. -/
def send (s : StreamCall) (item : Outcome Chunk) : Option (StreamCall × Outcome Unit) :=
  if s.isReleased then some (s, .error refusal)
  else if s.channel.length < s.room then
    some ({ s with channel := s.channel ++ [item] }, .ok ())
  else none

def produce (s : StreamCall) : StreamCall :=
  match s.task with
  | .running (.emit chunk next) =>
    match s.send (.ok chunk) with
    | none => s
    | some (s, outcome) => { s with task := .running (next outcome) }
  | .running (.ended .waiting) => s
  | .running (.ended ending) =>
    match ending.failure? with
    | none => { s with task := .closing }
    | some f => { s with
        task := .failing f
        recorded := s.recorded <|> some (.ofRun ending s.trace f) }
  | .failing f =>
    match s.send (.error f) with
    | none => s
    | some (s, _) => { s with task := .closing }
  | .closing => { s with task := .ended }
  | .ended => s

/-- Nothing is left in the channel, and nothing will come. -/
def isDrained (s : StreamCall) : Bool :=
  match s.channel, s.task with
  | [], .ended => true
  | _, _ => false

/-- The failure of a stream that ends with nothing. -/
def silent : Failure := .internal "stream ended without output"

def receive (s : StreamCall) : StreamCall :=
  match s.reader, s.channel with
  | .waiting, .ok chunk :: rest => { s with reader := .body (some chunk) false, channel := rest }
  | .waiting, .error f :: _ => { s with reader := .failed f, channel := [] }
  | .waiting, [] => if s.isDrained then { s with reader := .failed silent } else s
  | .body (some chunk) atEnd, _ =>
    { s with reader := .body none atEnd, delivered := s.delivered ++ [.ok chunk] }
  | .body none _, item :: rest => { s with channel := rest, delivered := s.delivered ++ [item] }
  | .body none _, [] => if s.isDrained then { s with reader := .body none true } else s
  | _, _ => s

def drop (s : StreamCall) : StreamCall :=
  match s.reader with
  | .waiting => { s with reader := .gone, channel := [] }
  | .body _ atEnd => { s with
      reader := .dropping
      closings := s.closings ++ [⟨if atEnd then .finished else .left, s.recorded⟩] }
  | .dropping => { s with reader := .gone, channel := [] }
  | .failed _ | .gone => s

def step (s : StreamCall) : Move → StreamCall
  | .produce => s.produce
  | .receive => s.receive
  | .drop => s.drop

/-- The state after any moves. -/
def run (s : StreamCall) (moves : List Move) : StreamCall := moves.foldl step s

/-- How often a run moves at most, as long as nothing is refused. -/
def movesLeft : StreamTask → Nat
  | .running run => run.chunks.length + 3
  | .failing _ => 2
  | .closing => 1
  | .ended => 0

/-- The run moves until it can move no more. -/
def settle (s : StreamCall) : StreamCall := Nat.repeat produce (movesLeft s.task) s

/-- There is an item to be taken at once. -/
def isReady (s : StreamCall) : Bool :=
  match s.reader with
  | .body (some _) _ => true
  | _ => !s.channel.isEmpty

/-- An item is asked for, and the run moves when there is none. -/
def next (s : StreamCall) : StreamCall := (if s.isReady then s else s.settle).receive

/-- A client reads the body up to the end, or up to when it has `limit` items, and drops it. -/
def readOut (limit : Option Nat) : Nat → StreamCall → StreamCall
  | 0, s => s
  | fuel + 1, s =>
    match s.reader with
    | .body _ atEnd =>
      if atEnd || limit.any (· ≤ s.delivered.length) then s.drop
      else readOut limit fuel s.next
    | _ => s

/-- Items as a client is sent them: each chunk, and the failure at the end. -/
def events (items : List (Outcome Chunk)) : List (String × Json) :=
  items.map fun
    | .ok chunk => ("chunk", chunk.json)
    | .error f => ("error", f.body)

end StreamCall

namespace Closing

/-- What the record says of a stream that was sent with the status 200. -/
def message (c : Closing) : String :=
  match c.failure, c.stop with
  | some _, _ => "stream failed"
  | none, .finished => "stream completed"
  | none, .left => "stream abandoned by client"

/-- The status in the record: that of the failure, not the one already sent. -/
def status (c : Closing) : Nat := (c.failure.map (·.status)).getD 200

/-- The record of a stream, written when its body is dropped. -/
def record (c : Closing) (operation request : String) : LogRecord :=
  AccessRecord.record operation c.message request c.status c.failure

end Closing

end Switchboard
