/-!
# Media types

Whether the type of a body says that it is JSON: the subtype is `json` or ends in `+json`, whatever
the parameters are, as long as they are well formed.
-/

namespace Switchboard

structure MediaType where
  type : List Char
  subtype : List Char
  /-- What stands after the last plus sign of the subtype. -/
  suffix : Option (List Char)
deriving DecidableEq, Repr

namespace MediaType

def isTokenChar (c : Char) : Bool :=
  c.isAlphanum || "!#$%&'*+-.^_`|~".toList.contains c

/-- A character that may stand between quotes. -/
def isQuotable (c : Char) : Bool := 31 < c.toNat && c.toNat != 127

/-- The subtype and its suffix. -/
def splitSuffix (cs : List Char) : List Char × Option (List Char) :=
  let suffix := (cs.reverse.takeWhile (· != '+')).reverse
  let before := cs.take (cs.length - suffix.length)
  if before.length ≤ 1 then (cs, none) else (before.dropLast, some suffix)

/-- What follows the value of a parameter, from the semicolon on, if the value is well formed. -/
def dropValue? : List Char → Option (List Char)
  | '"' :: cs =>
    let quoted := cs.takeWhile fun c => c != '"'
    if quoted.isEmpty || !quoted.all isQuotable then none
    else match cs.drop quoted.length with
      | [] => none
      | _ :: rest => some (rest.dropWhile (· == ' '))
  | cs => some (cs.dropWhile isTokenChar)

/-- Whether what follows a type is well-formed parameters. -/
def areParameters : Nat → List Char → Bool
  | 0, _ => false
  | fuel + 1, cs =>
    match cs with
    | [] => true
    | ';' :: cs =>
      let cs := cs.dropWhile (· == ' ')
      let name := cs.takeWhile isTokenChar
      match cs.drop name.length with
      | [] => name.isEmpty
      | '=' :: value =>
        match if name.isEmpty then none else dropValue? value with
        | some rest => areParameters fuel rest
        | none => false
      | _ => false
    | _ => false

def ofString? (s : String) : Option MediaType :=
  let cs := s.toList.map Char.toLower
  let type := cs.takeWhile isTokenChar
  match cs.drop type.length with
  | '/' :: cs =>
    let subtype := cs.takeWhile isTokenChar
    let rest := cs.drop subtype.length
    if type.isEmpty || (subtype.isEmpty && !rest.isEmpty) then none
    else if areParameters (rest.length + 1) rest then
      let (subtype, suffix) := splitSuffix subtype
      some ⟨type, subtype, suffix⟩
    else none
  | _ => none

def isJson (m : MediaType) : Bool :=
  m.type == "application".toList &&
    (m.subtype == "json".toList || m.suffix == some "json".toList)

end MediaType

end Switchboard
