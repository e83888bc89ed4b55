import Switchboard.Json.Document
import Switchboard.Json.Numeral
import Switchboard.Text.Utf8

/-!
# Reading JSON text

The reader takes text to the document at its start. Values stand at most `maxDepth` arrays and
objects deep; what stands deeper has no value and is only passed over. Text that is not JSON breaks
the document. A value is read from a text only when the document is all of it.
-/

namespace Switchboard

namespace Document

/-- How deep arrays and objects may stand in each other. -/
def maxDepth : Nat := 127

def isSpace (c : Char) : Bool := c == ' ' || c == '\n' || c == '\t' || c == '\r'

def skipSpace (cs : List Char) : List Char := cs.dropWhile isSpace

def hex? (c : Char) : Option Nat :=
  if c.isDigit then some (c.toNat - '0'.toNat)
  else if 'a' ≤ c && c ≤ 'f' then some (c.toNat - 'a'.toNat + 10)
  else if 'A' ≤ c && c ≤ 'F' then some (c.toNat - 'A'.toNat + 10)
  else none

def hex4? (a b c d : Char) : Option Nat := do
  return (((← hex? a) * 16 + (← hex? b)) * 16 + (← hex? c)) * 16 + (← hex? d)

/-- The character an escape of one letter stands for. -/
def escaped? (c : Char) : Option Char :=
  if c == '"' || c == '\\' || c == '/' then some c
  else if c == 'b' then some '\x08'
  else if c == 'f' then some '\x0c'
  else if c == 'n' then some '\n'
  else if c == 'r' then some '\r'
  else if c == 't' then some '\t'
  else none

def isHighSurrogate (n : Nat) : Bool := 0xD800 ≤ n && n < 0xDC00

def isLowSurrogate (n : Nat) : Bool := 0xDC00 ≤ n && n < 0xE000

/-- The text of a string after its opening quote, and the rest. The text is absent when an escape
stands for half a character. -/
def scanString (read : List Char) (whole : Bool) :
    List Char → Option (Option String × List Char)
  | [] => none
  | '"' :: cs => some (if whole then some (String.ofList read.reverse) else none, cs)
  | '\\' :: 'u' :: a :: b :: c :: d :: cs =>
    match hex4? a b c d with
    | none => none
    | some n =>
      if isLowSurrogate n then scanString read false cs
      else if isHighSurrogate n then
        match cs with
        | '\\' :: 'u' :: a :: b :: c :: d :: rest =>
          match hex4? a b c d with
          | none => none
          | some low =>
            if isLowSurrogate low then
              let char := Char.ofNat (0x10000 + (n - 0xD800) * 0x400 + (low - 0xDC00))
              scanString (char :: read) whole rest
            else scanString read false ('\\' :: 'u' :: a :: b :: c :: d :: rest)
        | cs => scanString read false cs
      else scanString (Char.ofNat n :: read) whole cs
  | '\\' :: c :: cs =>
    match escaped? c with
    | none => none
    | some char => scanString (char :: read) whole cs
  | c :: cs => if c.toNat < 0x20 || c == '\\' then none else scanString (c :: read) whole cs
termination_by cs => cs.length

/-- What is neither an array nor an object at the start of a text, and what follows it. -/
def readScalar : List Char → Document × Option (List Char)
  | '"' :: cs =>
    match scanString [] true cs with
    | none => (broken, none)
    | some (none, rest) => (valueless, some rest)
    | some (some s, rest) => (str s, some rest)
  | 'n' :: 'u' :: 'l' :: 'l' :: rest => (null, some rest)
  | 't' :: 'r' :: 'u' :: 'e' :: rest => (bool true, some rest)
  | 'f' :: 'a' :: 'l' :: 's' :: 'e' :: rest => (bool false, some rest)
  | cs =>
    match Json.scanNumeral cs with
    | none => (broken, none)
    | some (n, rest) => (n.value.elim valueless num, some rest)

/-- A kind of container: an array or an object. -/
inductive Bracket where
  | square
  | curly

namespace Bracket

def closing : Bracket → Char
  | square => ']'
  | curly => '}'

end Bracket

/-- What may stand next inside the innermost open container. -/
inductive Awaited where
  /-- The first item or member, or the end. -/
  | first
  | key
  | value
  /-- A comma, or the end. -/
  | more

namespace Awaited

/-- What starts an item or a member. -/
def entry : Bracket → Awaited
  | .square => value
  | .curly => key

end Awaited

/-- What follows the containers that are open, the innermost first. However deep they stand in each
other, they are passed over in one walk along the text. -/
def passOver : Nat → List Bracket → Awaited → List Char → Option (List Char)
  | _, [], _, cs => some cs
  | 0, _ :: _, _, _ => none
  | fuel + 1, inner :: outer, awaited, cs =>
    match awaited, skipSpace cs with
    | _, [] => none
    | .first, c :: rest =>
      if c == inner.closing then passOver fuel outer .more rest
      else passOver fuel (inner :: outer) (.entry inner) (c :: rest)
    | .key, c :: rest =>
      if c != '"' then none
      else match scanString [] true rest with
        | none => none
        | some (_, rest) =>
          match skipSpace rest with
          | ':' :: rest => passOver fuel (inner :: outer) .value rest
          | _ => none
    | .value, c :: rest =>
      if c == '[' then passOver fuel (.square :: inner :: outer) .first rest
      else if c == '{' then passOver fuel (.curly :: inner :: outer) .first rest
      else match (readScalar (c :: rest)).2 with
        | none => none
        | some rest => passOver fuel (inner :: outer) .more rest
    | .more, c :: rest =>
      if c == inner.closing then passOver fuel outer .more rest
      else if c == ',' then passOver fuel (inner :: outer) (.entry inner) rest
      else none

/-- A container that stands too deep for a value, after its opening bracket, and what follows it. -/
def readDeep (bracket : Bracket) (cs : List Char) : Document × Option (List Char) :=
  match passOver (2 * cs.length + 2) [bracket] .first cs with
  | none => (broken, none)
  | some rest => (valueless, some rest)

/-- A member as it stands under a key that may be no text. -/
def member (key : Option String) (d : Document) : String × Document :=
  match key with
  | some key => (key, d)
  | none => ("", keyless d)

mutual

/-- The document at the start of a text, and what follows it unless it is broken. -/
def read : Nat → Nat → List Char → Document × Option (List Char)
  | 0, _, _ => (broken, none)
  | fuel + 1, room, cs =>
    match cs with
    | '[' :: cs =>
      match room with
      | 0 => readDeep .square cs
      | room + 1 =>
        match skipSpace cs with
        | ']' :: rest => (arr [], some rest)
        | cs => readItems fuel room [] cs
    | '{' :: cs =>
      match room with
      | 0 => readDeep .curly cs
      | room + 1 =>
        match skipSpace cs with
        | '}' :: rest => (obj [], some rest)
        | cs => readMembers fuel room [] cs
    | cs => readScalar cs

/-- The items from `cs` on, after those in `read`, last first. -/
def readItems : Nat → Nat → List Document → List Char → Document × Option (List Char)
  | 0, _, items, _ => (arr (broken :: items).reverse, none)
  | fuel + 1, room, items, cs =>
    match read fuel room cs with
    | (d, none) => (arr (d :: items).reverse, none)
    | (d, some rest) =>
      match skipSpace rest with
      | ',' :: rest => readItems fuel room (d :: items) (skipSpace rest)
      | ']' :: rest => (arr (d :: items).reverse, some rest)
      | _ => (arr (broken :: d :: items).reverse, none)

/-- The members from `cs` on, after those in `read`, last first. -/
def readMembers :
    Nat → Nat → List (String × Document) → List Char → Document × Option (List Char)
  | 0, _, members, _ => (obj (("", broken) :: members).reverse, none)
  | fuel + 1, room, members, cs =>
    match cs with
    | '"' :: cs =>
      match scanString [] true cs with
      | some (key, rest) =>
        match skipSpace rest with
        | ':' :: rest =>
          match read fuel room (skipSpace rest) with
          | (d, none) => (obj (member key d :: members).reverse, none)
          | (d, some rest) =>
            match skipSpace rest with
            | ',' :: rest => readMembers fuel room (member key d :: members) (skipSpace rest)
            | '}' :: rest => (obj (member key d :: members).reverse, some rest)
            | _ => (obj (("", broken) :: member key d :: members).reverse, none)
        | _ => (obj (member key broken :: members).reverse, none)
      | _ => (obj (("", broken) :: members).reverse, none)
    | _ => (obj (("", broken) :: members).reverse, none)

end

/-- The document a text starts with, and what follows it unless it is broken. -/
def atStart (cs : List Char) : Document × Option (List Char) :=
  read (2 * cs.length + 2) maxDepth (skipSpace cs)

/-- The document that is all of a text. -/
def ofChars? (cs : List Char) : Option Document :=
  match atStart cs with
  | (d, some rest) => if (skipSpace rest).isEmpty then some d else none
  | (_, none) => none

def ofString? (s : String) : Option Document := ofChars? s.toList

/-- Characters for a reader of documents. An ill-formed run of bytes is written as an escape that
stands for half a character: inside a string it takes away the string's value, and elsewhere it is
not JSON. -/
def bytesChars (bytes : List UInt8) : List Char :=
  (Text.decodeUtf8 bytes).flatMap fun
    | some c => [c]
    | none => ['\\', 'u', 'd', '8', '0', '0']

/-- The document that bytes start with, whatever follows it. -/
def ofBytes (bytes : List UInt8) : Document := (atStart (bytesChars bytes)).1

end Document

namespace Json

/-- The value that is all of a text. -/
def parse? (cs : List Char) : Option Json :=
  match Document.ofChars? cs with
  | none => none
  | some d => d.value.toOption

def ofString? (s : String) : Option Json := parse? s.toList

/-- The value that is all of a run of bytes. -/
def ofBytes? (bytes : List UInt8) : Option Json := parse? (Document.bytesChars bytes)

end Json

end Switchboard
