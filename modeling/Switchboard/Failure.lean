import Switchboard.Model.Spec
import Switchboard.Redaction

/-!
# Failures

Every way a call can fail, with one text for each and a kind that callers can rely on. A failure may
name the model it came from; that changes its text but not its kind. What a caller is shown is
redacted, and an internal failure shows nothing of itself.
-/

namespace Switchboard

/-- Why a provider turned a request down. -/
inductive Refusal where
  | auth
  | rateLimited
  | invalidRequest
  | other
deriving DecidableEq, Repr

namespace Refusal

def all : List Refusal := [auth, rateLimited, invalidRequest, other]

def name : Refusal → String
  | auth => "auth"
  | rateLimited => "rate_limited"
  | invalidRequest => "invalid_request"
  | other => "other"

def ofName? (name : String) : Option Refusal := all.find? fun r => r.name == name

end Refusal

inductive Failure where
  | modelNotFound (id : String)
  | unsupported (provider : String) (capability : Capability)
  | unsupportedRole (provider role : String)
  /-- Something that the other side's language cannot say, or an answer that makes no sense. -/
  | untranslatable (text : String)
  | invalidRequest (text : String)
  /-- The provider could not be reached, or not in time. -/
  | transport (text : String)
  | refused (refusal : Refusal) (status : Option Nat) (text : String)
  | unauthenticated
  | cancelled
  | configuration (text : String)
  | internal (text : String)
  | ofModel (model : String) (failure : Failure)
deriving DecidableEq, Repr

/-- What kind of failure it is, whatever it says. -/
inductive FailureKind where
  | modelNotFound
  | unsupported
  | unsupportedRole
  | untranslatable
  | invalidRequest
  | transport
  | refused (refusal : Refusal)
  | unauthenticated
  | cancelled
  | internal
deriving DecidableEq, Repr

namespace FailureKind

/-- The word for the kind that callers see. -/
def reason : FailureKind → String
  | modelNotFound => "MODEL_NOT_FOUND"
  | unsupported => "UNSUPPORTED"
  | unsupportedRole => "UNSUPPORTED_ROLE"
  | untranslatable => "TRANSLATION_FAILURE"
  | invalidRequest => "INVALID_REQUEST"
  | transport => "UPSTREAM_TRANSPORT"
  | refused .auth => "UPSTREAM_AUTH_FAILED"
  | refused .rateLimited => "UPSTREAM_RATE_LIMITED"
  | refused .invalidRequest => "UPSTREAM_INVALID_REQUEST"
  | refused .other => "UPSTREAM_REJECTED"
  | unauthenticated => "UNAUTHENTICATED"
  | cancelled => "CANCELLED"
  | internal => "INTERNAL"

/-- Whether the same call may succeed later. -/
def isRetryable : FailureKind → Bool
  | transport => true
  | _ => false

/-- The HTTP status a caller gets. -/
def status : FailureKind → Nat
  | modelNotFound => 404
  | unsupported => 501
  | unsupportedRole | untranslatable | invalidRequest => 400
  | transport => 503
  | refused .rateLimited => 429
  | refused .invalidRequest => 400
  | refused .auth | refused .other => 502
  | unauthenticated => 401
  | cancelled => 499
  | internal => 500

end FailureKind

namespace Failure

def kind : Failure → FailureKind
  | modelNotFound _ => .modelNotFound
  | unsupported .. => .unsupported
  | unsupportedRole .. => .unsupportedRole
  | untranslatable _ => .untranslatable
  | invalidRequest _ => .invalidRequest
  | transport _ => .transport
  | refused refusal .. => .refused refusal
  | unauthenticated => .unauthenticated
  | cancelled => .cancelled
  | configuration _ | internal _ => .internal
  | ofModel _ failure => failure.kind

/-- The whole text of a failure. -/
def message : Failure → String
  | modelNotFound id => "Model not found: " ++ id
  | unsupported provider capability => provider ++ " does not support " ++ capability.name
  | unsupportedRole provider role =>
    provider ++ " cannot represent role '" ++ role ++ "'"
  | untranslatable text => "Translation failure: " ++ text
  | invalidRequest text => "Invalid request: " ++ text
  | transport text => "Upstream transport error: " ++ text
  | refused refusal _ text =>
    "Upstream rejected the request (" ++ refusal.name ++ "): " ++ text
  | unauthenticated => "Unauthenticated"
  | cancelled => "Request cancelled"
  | configuration text => "Configuration error: " ++ text
  | internal text => "Internal error: " ++ text
  | ofModel model failure => "model '" ++ model ++ "': " ++ failure.message

/-- The status the provider turned the request down with. -/
def providerStatus? : Failure → Option Nat
  | refused _ status _ => status
  | ofModel _ failure => failure.providerStatus?
  | _ => none

/-- The failure with the model it came from, which stays if there already is one. -/
def withModel (model : String) : Failure → Failure
  | ofModel m failure => ofModel m failure
  | failure => ofModel model failure

/-- A provider's refusal, in its own words less the credentials in them. -/
def refusal (reason : Refusal) (status : Option Nat) (text : String) : Failure :=
  refused reason status (redact text)

/-- What a caller is told. -/
def publicMessage (f : Failure) : String :=
  if f.kind = .internal then "internal error" else redact f.message

/-- What a caller gets as an error. -/
def body (f : Failure) : Json :=
  .mkObj [("code", f.kind.reason), ("message", f.publicMessage)]

theorem kind_withModel (model : String) (f : Failure) : (f.withModel model).kind = f.kind := by
  cases f <;> rfl

end Failure

/-- What comes of something that can fail. -/
abbrev Outcome (α : Type) := Except Failure α

namespace Outcome

/-- The outcome, a failure naming its model. -/
def ofModel {α : Type} (model : String) : Outcome α → Outcome α
  | .ok x => .ok x
  | .error f => .error (f.withModel model)

end Outcome

end Switchboard
