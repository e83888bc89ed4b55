import Switchboard.Log
import Switchboard.Provider.Basic

/-!
# The router

Which provider serves which model. Providers come in the order of their registration, and of two
that advertise one model the first serves it.
-/

namespace Switchboard

/-- A model with the place of the provider that serves it. -/
structure Route where
  model : Model
  provider : Nat
deriving DecidableEq, Repr

/-- The models that can be reached: a table of their routes by their ids, and a list of them. -/
structure Directory where
  routes : List (String × Route)
  /-- In the order in which they were advertised. -/
  models : List Model

namespace Directory

def empty : Directory := ⟨[], []⟩

/-- The route to a model. -/
def find? (d : Directory) (id : String) : Option Route := d.routes.lookup id

/-- The directory with one more model. -/
def add (d : Directory) (route : Route) : Directory :=
  ⟨(route.model.id, route) :: d.routes, d.models ++ [route.model]⟩

@[simp] theorem find?_empty (id : String) : empty.find? id = none := rfl

@[simp] theorem models_empty : empty.models = [] := rfl

theorem find?_add (d : Directory) (route : Route) (id : String) :
    (d.add route).find? id = if id = route.model.id then some route else d.find? id := by
  by_cases h : id = route.model.id
  · simp [find?, add, h]
  · simp [find?, add, List.lookup_cons, h, beq_false_of_ne h]

@[simp] theorem models_add (d : Directory) (route : Route) :
    (d.add route).models = d.models ++ [route.model] := rfl

end Directory

/-- A directory beside the providers that its routes lead to. -/
structure Router extends Directory where
  providers : List Provider

namespace Router

/-- The record of a model that is served already. -/
def advertisedTwice (model : Model) (provider servedBy : String) : LogRecord :=
  .of .warn "model id advertised twice, keeping the first registration"
    [("model", model.id), ("provider", provider), ("served_by", servedBy)]

/-- Takes in the models that the provider at `place` advertises. -/
def advertise (families : List String) (place : Nat) (d : Directory) :
    List Model → Directory × List LogRecord
  | [] => (d, [])
  | m :: rest =>
    let family (place : Nat) : String := (families[place]?).getD ""
    match d.find? m.id with
    | some served =>
      let (d, log) := advertise families place d rest
      (d, advertisedTwice m (family place) (family served.provider) :: log)
    | none => advertise families place (d.add ⟨m, place⟩) rest

/-- Takes in the providers from the one at `place` on. -/
def advertiseAll (families : List String) (place : Nat) (d : Directory) :
    List Provider → Directory × List LogRecord
  | [] => (d, [])
  | p :: rest =>
    let (d, log) := advertise families place d p.models
    let (d, more) := advertiseAll families (place + 1) d rest
    (d, log ++ more)

/-- The router for providers, and what was logged on the way. -/
def ofProviders (providers : List Provider) : Router × List LogRecord :=
  let (directory, log) := advertiseAll (providers.map (·.family.name)) 0 .empty providers
  (⟨directory, providers⟩, log)

/-- The provider of a model, and the route to it. -/
def resolve (r : Router) (id : String) : Outcome (Provider × Route) :=
  match r.find? id with
  | none => .error (.modelNotFound id)
  | some route =>
    match r.providers[route.provider]? with
    | none => .error (.modelNotFound id)
    | some p => .ok (p, route)

end Router

end Switchboard
