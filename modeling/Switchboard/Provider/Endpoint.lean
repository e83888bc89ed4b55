import Switchboard.Model.Spec
import Switchboard.Failure
import Switchboard.Net.Url

/-!
# Endpoints

Where a provider is reached, and the key it is reached with.
-/

namespace Switchboard

structure Endpoint where
  host : String
  apiKey : String
  /-- How long a connection may take, in seconds. -/
  connectTimeout : Nat
deriving DecidableEq, Repr

namespace Endpoint

def defaultConnectTimeout : Nat := 10

def of (host apiKey : String) : Endpoint := ⟨host, apiKey, defaultConnectTimeout⟩

/-- The host and a path, with one slash between them. -/
def url (e : Endpoint) (path : String) : String :=
  String.ofList (e.host.toList.reverse.dropWhile (· == '/')).reverse ++ path

/-- Refuses an endpoint without a key or with a host that is no web address. -/
def validate (e : Endpoint) (family : Family) : Outcome Unit :=
  if Text.blank e.apiKey then
    .error (.configuration (family.name ++ " is enabled but has no api key"))
  else match Net.Url.ofString e.host with
    | .error fault => .error (.configuration
        (family.name ++ " base url '" ++ e.host ++ "' is invalid: " ++ fault.message))
    | .ok url =>
      if url.scheme = "http" ∨ url.scheme = "https" then .ok ()
      else .error (.configuration
        (family.name ++ " base url must be http or https, got '" ++ url.scheme ++ "'"))

end Endpoint

end Switchboard
