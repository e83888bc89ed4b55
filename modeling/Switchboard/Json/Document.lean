import Switchboard.Json.Basic

/-!
# JSON documents

A document is JSON text as it stands: members in the order they were written, repeated keys
included, up to the place where the text stops being JSON. Whoever reads a document goes through it
in that order and reports the first fault met: text that is not JSON, or a value that does not fit
what is wanted there.
-/

namespace Switchboard

inductive Document where
  | null
  | bool (b : Bool)
  | num (n : Number)
  | str (s : String)
  | arr (items : List Document)
  | obj (members : List (String × Document))
  /-- JSON text that no value stands for, such as a number beyond every double. It may be skipped
  but not read. -/
  | valueless
  /-- What stands under a key that no text stands for. An object with such a member may be skipped
  but not read. -/
  | keyless (d : Document)
  /-- The place where the text stops being JSON. Nothing follows it. -/
  | broken

/-- Why a document was not read. -/
inductive Fault where
  | malformed
  | misfit
deriving DecidableEq, Repr

namespace Document

instance : Inhabited Document := ⟨null⟩

mutual

/-- Nothing in the document is broken. -/
def sound : Document → Bool
  | null | bool _ | num _ | str _ | valueless => true
  | broken => false
  | keyless d => sound d
  | arr items => soundItems items
  | obj members => soundMembers members

def soundItems : List Document → Bool
  | [] => true
  | d :: rest => sound d && soundItems rest

def soundMembers : List (String × Document) → Bool
  | [] => true
  | (_, d) :: rest => sound d && soundMembers rest

end

mutual

/-- The value a document writes down. -/
def value : Document → Except Fault Json
  | null => .ok .null
  | bool b => .ok (.bool b)
  | num n => .ok (.num n)
  | str s => .ok (.str s)
  | arr items => do return .arr (← valueItems items)
  | obj members => do return .mkObj (← valueMembers members)
  | valueless | keyless _ | broken => .error .malformed

def valueItems : List Document → Except Fault (List Json)
  | [] => .ok []
  | d :: rest => do return (← value d) :: (← valueItems rest)

def valueMembers : List (String × Document) → Except Fault (List (String × Json))
  | [] => .ok []
  | (k, d) :: rest => do return (k, ← value d) :: (← valueMembers rest)

end

/-- Passes over a member of an object without reading what stands there. Its key is read all the
same. -/
def skip : Document → Except Fault Unit
  | keyless _ => .error .malformed
  | d => if d.sound then .ok () else .error .malformed

/-- The document itself, once all of it is known to have a value. -/
def held (d : Document) : Except Fault Document := do
  let _ ← d.value
  return d

end Document

namespace Json

mutual

/-- The document that writes a value down. -/
def document : Json → Document
  | null => .null
  | bool b => .bool b
  | num n => .num n
  | str s => .str s
  | arr items => .arr (documentItems items)
  | obj members => .obj (documentMembers members)

def documentItems : List Json → List Document
  | [] => []
  | j :: rest => document j :: documentItems rest

def documentMembers : List (String × Json) → List (String × Document)
  | [] => []
  | (k, j) :: rest => (k, document j) :: documentMembers rest

end

end Json

end Switchboard
