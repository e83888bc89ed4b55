import Switchboard.Failure
import Switchboard.Json.Printer
import Switchboard.Json.Reader

/-!
# Failures an endpoint reports

What a status other than success means, and the message its body carries. Statuses that a later try
may clear up are failures of transport; all others are refusals.
-/

namespace Switchboard

namespace HttpStatus

/-- The registered phrase of a status. -/
def phrase? : Nat → Option String
  | 100 => "Continue" | 101 => "Switching Protocols" | 102 => "Processing"
  | 200 => "OK" | 201 => "Created" | 202 => "Accepted" | 203 => "Non Authoritative Information"
  | 204 => "No Content" | 205 => "Reset Content" | 206 => "Partial Content"
  | 207 => "Multi-Status" | 208 => "Already Reported" | 226 => "IM Used"
  | 300 => "Multiple Choices" | 301 => "Moved Permanently" | 302 => "Found" | 303 => "See Other"
  | 304 => "Not Modified" | 305 => "Use Proxy" | 307 => "Temporary Redirect"
  | 308 => "Permanent Redirect"
  | 400 => "Bad Request" | 401 => "Unauthorized" | 402 => "Payment Required"
  | 403 => "Forbidden" | 404 => "Not Found" | 405 => "Method Not Allowed"
  | 406 => "Not Acceptable" | 407 => "Proxy Authentication Required" | 408 => "Request Timeout"
  | 409 => "Conflict" | 410 => "Gone" | 411 => "Length Required" | 412 => "Precondition Failed"
  | 413 => "Payload Too Large" | 414 => "URI Too Long" | 415 => "Unsupported Media Type"
  | 416 => "Range Not Satisfiable" | 417 => "Expectation Failed" | 418 => "I'm a teapot"
  | 421 => "Misdirected Request" | 422 => "Unprocessable Entity" | 423 => "Locked"
  | 424 => "Failed Dependency" | 425 => "Too Early" | 426 => "Upgrade Required"
  | 428 => "Precondition Required" | 429 => "Too Many Requests"
  | 431 => "Request Header Fields Too Large" | 451 => "Unavailable For Legal Reasons"
  | 500 => "Internal Server Error" | 501 => "Not Implemented" | 502 => "Bad Gateway"
  | 503 => "Service Unavailable" | 504 => "Gateway Timeout"
  | 505 => "HTTP Version Not Supported" | 506 => "Variant Also Negotiates"
  | 507 => "Insufficient Storage" | 508 => "Loop Detected" | 510 => "Not Extended"
  | 511 => "Network Authentication Required"
  | _ => none

/-- A status as it is written for a reader. -/
def text (status : Nat) : String :=
  s!"{status} " ++ (phrase? status).getD "<unknown status code>"

def isSuccess (status : Nat) : Bool := 200 ≤ status && status < 300

end HttpStatus

namespace Failure

/-- The message in the body of a failure: that of its `error`, or of the body itself. -/
def messageIn? (body : String) : Option String := do
  let value ← Json.ofString? body
  let error := (value.member? "error").getD value
  error.string? "message" <|> error.str?

/-- How much of a body that says nothing readable is quoted. -/
def quotedLength : Nat := 512

def statusMessage (status : Nat) (body : String) : String :=
  match messageIn? body with
  | some message => message
  | none =>
    if Text.blank body then (HttpStatus.phrase? status).getD "unknown error"
    else String.ofList (body.toList.take quotedLength)

/-- The failure that an answer other than success reports. -/
def ofStatus (status : Nat) (body : String) : Failure :=
  let message := statusMessage status body
  if status ∈ [401, 403] then refusal .auth (some status) message
  else if status = 429 then refusal .rateLimited (some status) message
  else if status ∈ [400, 404, 409, 413, 422] then
    refusal .invalidRequest (some status) message
  else if status ∈ [408, 502, 503, 504, 529] then
    transport (redact (HttpStatus.text status ++ ": " ++ message))
  else refusal .other (some status) message

end Failure

end Switchboard
