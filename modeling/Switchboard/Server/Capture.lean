/-!
# Capturing the start of a body

The record of a stream shows the start of its request, but the body is left to the handler to read.
So it is read through another body, which hands on what the inner one gives and keeps a copy of the
first frame that holds anything.
-/

namespace Switchboard

/-- What a body gives when it is asked for more. -/
inductive BodyPoll where
  | data (bytes : List UInt8)
  | trailers (fields : List (String × List UInt8))
  | failed (reason : String)
  | pending
  | done
deriving DecidableEq, Repr

namespace BodyPoll

/-- The bytes of a frame that holds any. -/
def held? : BodyPoll → Option (List UInt8)
  | data bytes => if bytes.isEmpty then none else some bytes
  | _ => none

end BodyPoll

/-- A body with states in `σ`: what it gives when it is asked for more, and the state after that. -/
structure Body (σ : Type) where
  poll : σ → BodyPoll × σ

namespace Body

variable {σ : Type}

/-- The body that gives what is listed, and is done then. -/
def listed : Body (List BodyPoll) where
  poll
    | [] => (.done, [])
    | p :: rest => (p, rest)

/-- What so many polls give, and the state after them. -/
def pollMany (body : Body σ) : Nat → σ → List BodyPoll × σ
  | 0, s => ([], s)
  | n + 1, s =>
    let (p, s) := body.poll s
    let (ps, s) := pollMany body n s
    (p :: ps, s)

end Body

/-- The state of a body that is captured. -/
structure CapturingBody (σ : Type) where
  inner : σ
  /-- The copy. -/
  slot : Option (List UInt8)
deriving DecidableEq, Repr

namespace CapturingBody

variable {σ : Type}

def of (inner : σ) : CapturingBody σ := ⟨inner, none⟩

/-- The copy after something was handed on; it is made once. -/
def keep (slot : Option (List UInt8)) (p : BodyPoll) : Option (List UInt8) := slot <|> p.held?

end CapturingBody

/-- The body that hands on what another gives and keeps the copy. -/
def Body.capturing {σ : Type} (body : Body σ) : Body (CapturingBody σ) where
  poll b :=
    let (p, inner) := body.poll b.inner
    (p, ⟨inner, CapturingBody.keep b.slot p⟩)

end Switchboard
