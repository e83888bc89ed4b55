import Switchboard.Chat.Usage
import Switchboard.Failure
import Switchboard.Text.Blank

/-!
# Embeddings

Texts go in and vectors come out, one for each text, in the same order.
-/

namespace Switchboard

open Document

/-- A vector as it is written in an answer: an array of numbers. -/
def Embedding.vector? (j : Json) : Option (List Float32) := do
  (← j.arr?).mapM fun
    | .num n => some n.toSingle
    | _ => none

structure EmbedRequest where
  id : Option String
  model : String
  contents : List String
deriving DecidableEq, Repr

namespace EmbedRequest

def requestId (r : EmbedRequest) : String := r.id.getD ""

def validate (r : EmbedRequest) : Outcome Unit :=
  if Text.blank r.model then .error (.invalidRequest "model id must not be empty")
  else if r.contents.isEmpty then
    .error (.invalidRequest "embedding requests need at least one content")
  else .ok ()

def json (r : EmbedRequest) : Json :=
  .record [("id", r.id.map .str), ("model", some r.model),
    ("contents", some (.strings r.contents))]

/-- The fields read so far. -/
structure Fields where
  id : Option (Option String)
  model : Option String
  contents : Option (List String)

def fieldNames : List String := ["id", "model", "contents"]

def step (r : Fields) (key : String) (d : Document) : Reading Fields :=
  match key with
  | "id" => do return { r with id := some (← d.optional string) }
  | "model" => do return { r with model := some (← d.string) }
  | _ => do return { r with contents := some (← d.list string) }

def finish (r : Fields) : Reading EmbedRequest :=
  match r.model, r.contents with
  | some model, some contents => .ok ⟨r.id.getD none, model, contents⟩
  | _, _ => .error .misfit

def read : Document → Reading EmbedRequest
  | .obj ms => do finish (← foldMembers fieldNames step skip [] ⟨none, none, none⟩ ms)
  | .arr items => do
    let r ← finish
      (← foldMembers fieldNames step skip [] ⟨none, none, none⟩ (fieldNames.zip items))
    if fieldNames.length < items.length then .error .malformed else .ok r
  | d => d.reject

end EmbedRequest

structure EmbedResponse where
  id : String
  model : String
  embeddings : List (List Float32)
  usage : Option Usage
deriving DecidableEq

namespace EmbedResponse

/-- Refuses an answer that has not one vector for each of `expected` texts. -/
def ensureAligned (r : EmbedResponse) (expected : Nat) : Outcome EmbedResponse :=
  if r.embeddings.length = expected then .ok r
  else .error (.untranslatable
    s!"provider returned {r.embeddings.length} embeddings for {expected} inputs")

private def vectorJson (v : List Float32) : Json :=
  .arr (v.map .single)

def json (r : EmbedResponse) : Json :=
  .record [("id", some r.id), ("model", some r.model),
    ("embeddings", some (.arr (r.embeddings.map vectorJson))),
    ("usage", r.usage.map Usage.json)]

def read (d : Document) : Reading EmbedResponse := do
  let fs ← d.fields ["id", "model", "embeddings", "usage"] 3
  return ⟨← field "id" string fs, ← field "model" string fs,
    ← field "embeddings" (list (list single)) fs, ← fieldOption "usage" Usage.read fs⟩

end EmbedResponse

end Switchboard
