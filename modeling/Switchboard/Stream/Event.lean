import Switchboard.Chat.Response
import Switchboard.Failure

/-!
# Events of a stream

A provider streams an answer as named events, each with some data. A decoder takes them one by one
to what they say about the answer. An event that it cannot take leaves it as it was.
-/

namespace Switchboard

/-- An event as it arrives. -/
structure ServerEvent where
  name : String
  data : String
deriving DecidableEq, Repr

namespace ServerEvent

/-- The name of an event that gives none. -/
def defaultName : String := "message"

def ofData (data : String) : ServerEvent := ⟨defaultName, data⟩

end ServerEvent

/-- What an event says about the answer. -/
inductive StreamEvent where
  | delta (delta : Delta)
  | finish (reason : FinishReason)
  | usage (usage : Usage)
  /-- The provider declares the answer complete. -/
  | done
deriving DecidableEq, Repr

/-- A decoder with states in `σ`. -/
structure Decoder (σ : Type) where
  start : σ
  decode : σ → ServerEvent → Outcome (List StreamEvent × σ)

namespace Decoder

variable {σ : Type}

/-- A decoder that keeps nothing from one event to the next. -/
def stateless (decode : ServerEvent → Outcome (List StreamEvent)) : Decoder Unit :=
  ⟨(), fun _ event => (decode event).map (·, ())⟩

/-- What becomes of each event in turn, also after one that could not be decoded. -/
def decodeEach (d : Decoder σ) (state : σ) : List ServerEvent → List (Outcome (List StreamEvent))
  | [] => []
  | event :: rest =>
    match d.decode state event with
    | .ok (said, next) => .ok said :: decodeEach d next rest
    | .error f => .error f :: decodeEach d state rest

end Decoder

end Switchboard
