import Switchboard.Log
import Switchboard.Provider.Adapter

/-!
# The registry of providers

One provider for each family, in the order they were registered. Either every configuration makes a
provider or there is no registry.
-/

namespace Switchboard

/-- Providers of distinct families. -/
structure Registry where
  providers : List Provider

namespace Registry

def empty : Registry := ⟨[]⟩

def get? (r : Registry) (family : Family) : Option Provider :=
  r.providers.find? fun p => p.family == family

def families (r : Registry) : List Family := r.providers.map (·.family)

/-- Why a provider is not registered beside another of its family. -/
def registeredTwice (family : Family) : Failure :=
  .configuration ("provider " ++ family.name ++ " is registered twice")

/-- Registers a provider, unless there is one of its family: the registry from then on, and whether
the provider was taken. -/
def register (r : Registry) (p : Provider) : Registry × Outcome Unit :=
  if (r.get? p.family).isSome then (r, .error (registeredTwice p.family))
  else (⟨r.providers ++ [p]⟩, .ok ())

/-- The record of a provider that has been set up. -/
def registered (p : Provider) : LogRecord :=
  .of .info "registered provider" [("provider", p.family.name), ("models", .nat p.models.length)]

/-- Registers a provider for each configuration, up to the first that fails. -/
def extend (network : Network) (r : Registry) :
    List ProviderConfig → Outcome Registry × List LogRecord
  | [] => (.ok r, [])
  | c :: rest =>
    match c.provider network with
    | .error f => (.error f, [])
    | .ok p =>
      match r.register p with
      | (_, .error f) => (.error f, [registered p])
      | (r, .ok ()) =>
        let (outcome, log) := extend network r rest
        (outcome, registered p :: log)

/-- The registry of configurations, and what was logged on the way. -/
def ofConfigs (network : Network) (configs : List ProviderConfig) :
    Outcome Registry × List LogRecord :=
  extend network .empty configs

end Registry

end Switchboard
