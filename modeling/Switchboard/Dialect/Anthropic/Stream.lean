import Switchboard.Dialect.Anthropic.Answer
import Switchboard.Json.Reader
import Switchboard.Stream.Event

/-!
# Streams of the messages dialect

An event says its kind by its name, or in its data if it has no name of its own. Blocks of the
answer are opened and then filled; usage comes in parts; events of a kind not known here say
nothing.
-/

namespace Switchboard.Anthropic

/-- The failure an event reports. -/
def streamFailure (error : Json) : Failure :=
  let message := (error.string? "message").getD "stream error"
  match (error.string? "type").getD "" with
  | "overloaded_error" | "api_error" => .transport ("anthropic: " ++ message)
  | "rate_limit_error" => .refusal .rateLimited none message
  | "authentication_error" | "permission_error" => .refusal .auth none message
  | "invalid_request_error" => .refusal .invalidRequest none message
  | _ => .refusal .other none message

/-- What opening a block says. -/
def openedBlock (index : Nat) (b : Json) : List StreamEvent :=
  match (b.string? "type").getD "" with
  | "tool_use" => [.delta ⟨none, [⟨index, b.string? "id", b.string? "name", ""⟩]⟩]
  | "text" => if textIn b "text" = "" then [] else [.delta (.ofText (textIn b "text"))]
  | _ => []

/-- What filling a block says. -/
def filledBlock (index : Nat) (delta : Json) : List StreamEvent :=
  match (delta.string? "type").getD "" with
  | "text_delta" => [.delta (.ofText (textIn delta "text"))]
  | "input_json_delta" => [.delta ⟨none, [⟨index, none, none, textIn delta "partial_json"⟩]⟩]
  | _ => []

def usageEvents (j : Json) : List StreamEvent := ((usage? j).map .usage).toList

/-- What an event of a given kind says. -/
def kindEvents (kind : String) (data : Json) : Outcome (List StreamEvent) :=
  let index := (Usage.countIn data "index").getD 0
  match kind with
  | "message_start" => .ok (usageEvents (data.get "message"))
  | "content_block_start" => .ok (openedBlock index (data.get "content_block"))
  | "content_block_delta" => .ok (filledBlock index (data.get "delta"))
  | "message_delta" => .ok
      ((((data.get "delta").string? "stop_reason").map fun r => .finish (finishReason r)).toList ++
        usageEvents data)
  | "message_stop" => .ok [.done]
  | "error" => .error (streamFailure (data.get "error"))
  | _ => .ok []

def streamEvents (event : ServerEvent) : Outcome (List StreamEvent) :=
  match Json.ofString? event.data with
  | none => .error (.untranslatable "invalid stream event: not JSON")
  | some data =>
    let named := event.name ≠ "" && event.name ≠ ServerEvent.defaultName
    kindEvents (if named then event.name else textIn data "type") data

def decoder : Decoder Unit := .stateless streamEvents

end Switchboard.Anthropic
