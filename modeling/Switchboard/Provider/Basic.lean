import Switchboard.Chat.Request
import Switchboard.Embedding
import Switchboard.Wire.Exchange

/-!
# Providers

A provider has models and offers some of three operations. Each is given the time and the context of
its call, and says how it ended and what it sent.
-/

namespace Switchboard

/-- What came of one operation of a provider. -/
structure Served (α : Type) where
  ending : Ending α
  sent : List WireRequest

namespace Served

/-- An operation that was over at once and sent nothing. -/
def unsent {α : Type} (outcome : Outcome α) : Served α := ⟨.returned outcome, []⟩

/-- What came of an exchange, and of reading its answer. -/
def ofExchange {α β : Type} (e : Exchanged α) (read : α → Nat → Outcome β) : Served β :=
  ⟨.ofOutcome? (e.outcome.map fun (outcome, now) => do read (← outcome) now), e.sent⟩

end Served

structure Provider where
  family : Family
  models : List Model
  chat : CallContext → Nat → ChatRequest → Served ChatResponse
  stream : Sink → CallContext → Nat → ChatRequest → Streamed
  embed : CallContext → Nat → EmbedRequest → Served EmbedResponse

namespace Provider

/-- The failure of an operation that a provider does not offer. -/
def lacks (family : Family) (capability : Capability) : Failure :=
  .unsupported family.name capability

/-- A provider that offers no operation. -/
def bare (family : Family) (models : List Model) : Provider where
  family
  models
  chat _ _ _ := .unsent (.error (lacks family .chat))
  stream _ c now _ := .failed c now (lacks family .chatStream) []
  embed _ _ _ := .unsent (.error (lacks family .embed))

end Provider

end Switchboard
