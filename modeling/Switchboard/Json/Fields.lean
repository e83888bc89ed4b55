import Switchboard.Json.Document

/-!
# Reading records

Readers of single values, and of the fields of a record. A record is written as an object, where a
field may come in any place but only once, or, where that is allowed, as an array of its fields in
their order.
-/

namespace Switchboard

abbrev Reading (α : Type) := Except Fault α

namespace Document

/-- The document stands under a text, if it stands under a key at all. -/
def keyed : Document → Bool
  | keyless _ => false
  | _ => true

/-- The fault of a document that does not fit: not being JSON comes before not fitting. -/
def reject {α : Type} : Document → Reading α
  | broken | valueless | keyless _ => .error .malformed
  | _ => .error .misfit

def string : Document → Reading String
  | str s => .ok s
  | d => d.reject

def boolean : Document → Reading Bool
  | bool b => .ok b
  | d => d.reject

/-- An integer from `least` to `greatest`. -/
def integer (least greatest : Int) : Document → Reading Int
  | num (.whole n) => if least ≤ n ∧ n ≤ greatest then .ok n else .error .misfit
  | d => d.reject

def nat32 (d : Document) : Reading Nat := do return (← d.integer 0 (Int.pow 2 32 - 1)).toNat

def nat64 (d : Document) : Reading Nat := do return (← d.integer 0 (Int.pow 2 64 - 1)).toNat

def single : Document → Reading Float32
  | num n => .ok n.toSingle
  | d => d.reject

def optional {α : Type} (read : Document → Reading α) : Document → Reading (Option α)
  | null => .ok none
  | d => do return some (← read d)

def readAll {α : Type} (read : Document → Reading α) : List Document → Reading (List α)
  | [] => .ok []
  | d :: rest => do
    let x ← read d
    return x :: (← readAll read rest)

def list {α : Type} (read : Document → Reading α) : Document → Reading (List α)
  | arr items => readAll read items
  | d => d.reject

/-- The name written as a string, or as the one key of an object with nothing under it. -/
def named {α : Type} (ofName : String → Option α) : Document → Reading α
  | str s => (ofName s).elim (.error .misfit) .ok
  | obj [(key, null)] => (ofName key).elim (.error .misfit) .ok
  | d => d.reject

/-- The members of an object. -/
def members : Document → Reading (List (String × Document))
  | obj members => .ok members
  | d => d.reject

/-- The fields of a record that may also be an array of at least `least` of them. -/
def fields (names : List String) (least : Nat) : Document → Reading (List (String × Document))
  | obj members => if members.all fun (_, d) => d.keyed then .ok members else .error .malformed
  | arr items =>
    if items.length < least || names.length < items.length then .error .misfit
    else .ok (names.zip items)
  | d => d.reject

/-- The field `name`, if there is one; there may not be two. -/
def field? {α : Type} (name : String) (read : Document → Reading α)
    (fields : List (String × Document)) : Reading (Option α) :=
  match fields.filter fun (k, _) => k == name with
  | [] => .ok none
  | [(_, d)] => do return some (← read d)
  | _ => .error .misfit

/-- A field that has to be there. -/
def field {α : Type} (name : String) (read : Document → Reading α)
    (fields : List (String × Document)) : Reading α := do
  match ← field? name read fields with
  | some x => return x
  | none => .error .misfit

/-- A field that stands for `default` when it is not there. -/
def fieldOr {α : Type} (default : α) (name : String) (read : Document → Reading α)
    (fields : List (String × Document)) : Reading α := do
  return (← field? name read fields).getD default

/-- A field that may be missing or null. -/
def fieldOption {α : Type} (name : String) (read : Document → Reading α)
    (fields : List (String × Document)) : Reading (Option α) :=
  fieldOr none name (optional read) fields

/-- What a reading of a document that is known to be sound may still fail for. -/
def misfitOnly {α : Type} : Reading α → Reading α
  | .ok x => .ok x
  | .error _ => .error .misfit

/-- Reads the members of an object in the order they stand in, each field at most once, by what
`read` makes of the fields read so far and a new one. Fields that `read` does not know are passed
over by `other`. -/
def foldMembers {σ : Type} (known : List String) (read : σ → String → Document → Reading σ)
    (other : Document → Reading Unit) (seen : List String) (state : σ) :
    List (String × Document) → Reading σ
  | [] => .ok state
  | (k, d) :: rest =>
    if known.contains k then
      if seen.contains k then .error .misfit
      else do foldMembers known read other (k :: seen) (← read state k d) rest
    else do
      other d
      foldMembers known read other seen state rest

end Document

end Switchboard
