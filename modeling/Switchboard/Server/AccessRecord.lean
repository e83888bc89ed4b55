import Switchboard.Failure
import Switchboard.Log
import Switchboard.Text.Utf8

/-!
# Access records

Every call leaves one record: its operation, the status, the start of its request, and why it
failed. The record holds the whole text of a failure, with a trace if something broke down.
-/

namespace Switchboard

/-- Why a call failed, for its record. -/
structure FailureReport where
  status : Nat
  reason : String
  detail : String
  /-- Where it broke down. -/
  trace : Option String
deriving DecidableEq, Repr

namespace FailureReport

def of (f : Failure) (trace : Option String) : FailureReport :=
  ⟨f.kind.status, f.kind.reason, f.message, trace⟩

/-- The server is at fault, not the caller. -/
def isServerError (r : FailureReport) : Bool := 500 ≤ r.status && r.status < 600

end FailureReport

namespace AccessRecord

/-- How many characters of a request are shown. -/
def shownLength : Nat := 1024

/-- The start of a request as it is shown, marked if it is not all. -/
def requestText (bytes : List UInt8) : String :=
  let shown := (Text.ofUtf8Lossy bytes).take shownLength
  let isCut := (String.ofList shown).utf8ByteSize < bytes.length && shown.length = shownLength
  redact (String.ofList (if isCut then shown ++ ['.', '.', '.'] else shown))

/-- The record of a call. -/
def record (operation message request : String) (status : Nat)
    (report : Option FailureReport) : LogRecord :=
  let known := [("operation", Json.str operation), ("status", .nat status)]
  match report with
  | none => .of .info message (known ++ [("request", Json.str request)])
  | some r =>
    let why := [("reason", Json.str r.reason), ("error", Json.str r.detail),
      ("request", Json.str request)]
    if r.isServerError then
      .of .error message (known ++ why ++ [("backtrace", Json.str (r.trace.getD ""))])
    else .of .warn message (known ++ why)

@[simp] theorem message_record (operation message request : String) (status : Nat)
    (report : Option FailureReport) :
    (record operation message request status report).message = message := by
  unfold record
  split
  · rfl
  · split <;> rfl

/-- Whether a record is of a call; other records name no operation. -/
def isAccess (record : LogRecord) : Bool := record.fields.any fun (name, _) => name == "operation"

@[simp] theorem isAccess_record (operation message request : String) (status : Nat)
    (report : Option FailureReport) :
    isAccess (record operation message request status report) = true := by
  unfold record
  split
  · rfl
  · split <;> rfl

end AccessRecord

end Switchboard
