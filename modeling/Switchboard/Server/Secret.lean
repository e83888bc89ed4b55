import Switchboard.Server.Request
import Switchboard.Server.Route
import Switchboard.Text.Utf8

/-!
# The shared secret

If the server has a secret, callers show it, as a bearer token or else as an API key. Whether the
server is well can be asked without it.
-/

namespace Switchboard

/-- Whether bytes are the expected ones. All of them are compared, wherever they begin to differ. -/
def sameBytes (shown expected : List UInt8) : Bool :=
  if shown.length != expected.length then false
  else (shown.zip expected).foldl (fun differing (a, b) => differing ||| (a ^^^ b)) 0 == 0

namespace HttpRequest

/-- The token of the authorization header. -/
def bearer? (r : HttpRequest) : Option String := do
  let value ← r.header? "authorization"
  Text.after? "Bearer " value <|> Text.after? "bearer " value

/-- The secret a caller shows. A bearer token comes before an API key, even a wrong one. -/
def shownSecret? (r : HttpRequest) : Option String := r.bearer? <|> r.header? "x-api-key"

/-- Whether a caller shows the secret. -/
def accepts (secret : String) (r : HttpRequest) : Bool :=
  r.shownSecret?.any fun shown => sameBytes (Text.utf8 shown) (Text.utf8 secret)

/-- Whether a request is let through. -/
def isAdmitted (secret : Option String) (r : HttpRequest) : Bool :=
  match secret with
  | none => true
  | some secret => r.path == Operation.health.path || r.accepts secret

end HttpRequest

end Switchboard
