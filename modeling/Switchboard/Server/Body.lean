import Switchboard.Failure
import Switchboard.Json.Reader
import Switchboard.Server.Capture
import Switchboard.Server.MediaType
import Switchboard.Server.Request

/-!
# Bodies of requests

A body is read as JSON of some shape, if its media type says that it is JSON and it is not too long.
What is wrong with it is told as an invalid request.
-/

namespace Switchboard

namespace RequestBody

/-- How many bytes a body may have. -/
def limit : Nat := 2 * 1024 * 1024

def tooLong : String := "length limit exceeded"

def isJson (r : HttpRequest) : Bool :=
  match (r.header? "content-type").bind MediaType.ofString? with
  | some m => m.isJson
  | none => false

def faultText : Fault → String
  | .malformed => "Failed to parse the request body as JSON"
  | .misfit => "Failed to deserialize the JSON body into the target type"

/-- What a body says. -/
def read {α : Type} (reader : Document → Reading α) (r : HttpRequest) : Outcome α :=
  if !isJson r then
    .error (.invalidRequest "Expected request with `Content-Type: application/json`")
  else if limit < r.body.length then
    .error (.invalidRequest ("Failed to buffer the request body: " ++ tooLong))
  else match reader (Document.ofBytes r.body) with
    | .ok x => .ok x
    | .error fault => .error (.invalidRequest (faultText fault))

/-- The first frame that a reader of the body is seen to pull; a body of another type is not
pulled. -/
def captured (r : HttpRequest) : Option (List UInt8) :=
  if isJson r then
    (Body.listed.capturing.pollMany r.frames.length (.of (r.frames.map .data))).2.slot
  else none

end RequestBody

end Switchboard
