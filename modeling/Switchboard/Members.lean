/-!
# Members by key

Lists of named things sorted by name, with one thing for each name: the members of an object, the
properties of a schema. Names are compared by their bytes, which is how strings of characters
compare. Inserting keeps the order and replaces what the name stood for.
-/

namespace Switchboard

namespace Members

variable {α : Type}

/-- `members` with `key` bound to `value`. -/
def insert (key : String) (value : α) : List (String × α) → List (String × α)
  | [] => [(key, value)]
  | (k, v) :: rest =>
    if key < k then (key, value) :: (k, v) :: rest
    else if key = k then (key, value) :: rest
    else (k, v) :: insert key value rest

def lookup (key : String) : List (String × α) → Option α
  | [] => none
  | (k, v) :: rest => if k = key then some v else lookup key rest

/-- The members in order; of two with one key, the later. -/
def ofList (members : List (String × α)) : List (String × α) :=
  members.foldl (fun sorted (k, v) => insert k v sorted) []

/-- The keys are distinct and in order. -/
def Ordered (members : List (String × α)) : Prop :=
  members.Pairwise fun a b => a.1 < b.1

end Members

end Switchboard
