import Switchboard.Members

/-!
# JSON values

A value keeps the members of an object by key, sorted, one for each key; `Canonical` says so, and
`mkObj`, `insert` and everything that reads a value from text keep it. A number is an integer, a
double, or a number of single precision, which is written with the digits that precision needs.
-/

namespace Switchboard

inductive Number where
  | whole (n : Int)
  | real (x : Float)
  | single (x : Float32)
deriving DecidableEq

inductive Json where
  | null
  | bool (b : Bool)
  | num (n : Number)
  | str (s : String)
  | arr (items : List Json)
  | obj (members : List (String × Json))

namespace Number

/-- The number in the least precision that holds what a caller may send. -/
def toSingle : Number → Float32
  | whole n =>
    let size := n.natAbs.toUInt64.toFloat32
    if n < 0 then -size else size
  | real x => x.toFloat32
  | single x => x

end Number

namespace Json

instance : Inhabited Json := ⟨null⟩

instance : Coe String Json := ⟨str⟩

instance : Coe Bool Json := ⟨bool⟩

def nat (n : Nat) : Json := num (.whole n)

/-- A double, where one that is not finite is written as null. -/
def double (x : Float) : Json := if x.isFinite then num (.real x) else null

/-- A single, where one that is not finite is written as null. -/
def single (x : Float32) : Json := if x.isFinite then num (.single x) else null

/-- A single widened to a double. -/
def widened (x : Float32) : Json := double x.toFloat

def strings (items : List String) : Json := arr (items.map str)

/-- An object from its members; of two with one key, the later. -/
def mkObj (members : List (String × Json)) : Json :=
  obj (Members.ofList members)

/-- The member `key` of an object. -/
def member? (key : String) : Json → Option Json
  | obj members => Members.lookup key members
  | _ => none

/-- The member `key`, where one that is missing reads as null. -/
def get (j : Json) (key : String) : Json := (j.member? key).getD null

/-- The item at `i` of an array. -/
def item? (i : Nat) : Json → Option Json
  | arr items => items[i]?
  | _ => none

def str? : Json → Option String
  | str s => some s
  | _ => none

def bool? : Json → Option Bool
  | bool b => some b
  | _ => none

def arr? : Json → Option (List Json)
  | arr items => some items
  | _ => none

def obj? : Json → Option (List (String × Json))
  | obj members => some members
  | _ => none

/-- A non-negative integer. -/
def nat? : Json → Option Nat
  | num (.whole n) => if 0 ≤ n then some n.toNat else none
  | _ => none

def isObj : Json → Bool
  | obj _ => true
  | _ => false

/-- The member `key`, when it is a string. -/
def string? (j : Json) (key : String) : Option String := (j.get key).str?

/-- The object with `key` bound to `value`; anything else is left as it is. -/
def insert (j : Json) (key : String) (value : Json) : Json :=
  match j with
  | obj members => obj (Members.insert key value members)
  | j => j

/-- An object whose absent members are left out. -/
def record (members : List (String × Option Json)) : Json :=
  mkObj (members.filterMap fun (k, v) => v.map (k, ·))

mutual

/-- Every object in the value has its members in order, one for each key. -/
def Canonical : Json → Prop
  | null | bool _ | num _ | str _ => True
  | arr items => CanonicalItems items
  | obj members => Members.Ordered members ∧ CanonicalMembers members

def CanonicalItems : List Json → Prop
  | [] => True
  | j :: rest => Canonical j ∧ CanonicalItems rest

def CanonicalMembers : List (String × Json) → Prop
  | [] => True
  | (_, j) :: rest => Canonical j ∧ CanonicalMembers rest

end

mutual

/-- How deep arrays and objects stand in each other. -/
def depth : Json → Nat
  | null | bool _ | num _ | str _ => 0
  | arr items => depthItems items + 1
  | obj members => depthMembers members + 1

def depthItems : List Json → Nat
  | [] => 0
  | j :: rest => max (depth j) (depthItems rest)

def depthMembers : List (String × Json) → Nat
  | [] => 0
  | (_, j) :: rest => max (depth j) (depthMembers rest)

end

mutual

/-- Whether two values are the same. -/
def same : Json → Json → Bool
  | null, null => true
  | bool a, bool b => a == b
  | num a, num b => decide (a = b)
  | str a, str b => a == b
  | arr a, arr b => sameItems a b
  | obj a, obj b => sameMembers a b
  | _, _ => false

def sameItems : List Json → List Json → Bool
  | [], [] => true
  | a :: as, b :: bs => same a b && sameItems as bs
  | _, _ => false

def sameMembers : List (String × Json) → List (String × Json) → Bool
  | [], [] => true
  | (k, a) :: as, (l, b) :: bs => k == l && same a b && sameMembers as bs
  | _, _ => false

end

mutual

theorem eq_of_same : ∀ {a b : Json}, same a b = true → a = b
  | null, b, h => by cases b <;> simp_all [same]
  | bool _, b, h => by cases b <;> simp_all [same]
  | num _, b, h => by cases b <;> simp_all [same]
  | str _, b, h => by cases b <;> simp_all [same]
  | arr _, b, h => by
    cases b <;> simp only [same, reduceCtorEq] at h
    rw [eq_of_sameItems h]
  | obj _, b, h => by
    cases b <;> simp only [same, reduceCtorEq] at h
    rw [eq_of_sameMembers h]

theorem eq_of_sameItems : ∀ {as bs : List Json}, sameItems as bs = true → as = bs
  | [], bs, h => by cases bs <;> simp_all [sameItems]
  | a :: as, bs, h => by
    cases bs with
    | nil => simp [sameItems] at h
    | cons b bs =>
      simp only [sameItems, Bool.and_eq_true] at h
      rw [eq_of_same h.1, eq_of_sameItems h.2]

theorem eq_of_sameMembers :
    ∀ {as bs : List (String × Json)}, sameMembers as bs = true → as = bs
  | [], bs, h => by cases bs <;> simp_all [sameMembers]
  | (k, a) :: as, bs, h => by
    cases bs with
    | nil => simp [sameMembers] at h
    | cons b bs =>
      simp only [sameMembers, Bool.and_eq_true, beq_iff_eq] at h
      rw [h.1.1, eq_of_same h.1.2, eq_of_sameMembers h.2]

end

mutual

theorem same_self : ∀ a : Json, same a a = true
  | null => rfl
  | bool _ => by simp [same]
  | num _ => by simp [same]
  | str _ => by simp [same]
  | arr items => by simp [same, sameItems_self items]
  | obj members => by simp [same, sameMembers_self members]

theorem sameItems_self : ∀ as : List Json, sameItems as as = true
  | [] => rfl
  | a :: as => by simp [sameItems, same_self a, sameItems_self as]

theorem sameMembers_self : ∀ as : List (String × Json), sameMembers as as = true
  | [] => rfl
  | (_, a) :: as => by simp [sameMembers, same_self a, sameMembers_self as]

end

instance : DecidableEq Json := fun a b =>
  if h : same a b = true then isTrue (eq_of_same h)
  else isFalse fun e => h (e ▸ same_self a)

end Json

end Switchboard
