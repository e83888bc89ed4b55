import Switchboard.Decimal.Layout
import Switchboard.Json.Basic

/-!
# JSON as text

The compact text of a value: no blanks, members in the order the value holds them, and a string
escaped only where it has to be.
-/

namespace Switchboard.Json

private def hexDigit (n : Nat) : Char := Nat.digitChar n

/-- A character inside a string. -/
def escapeChar (c : Char) : List Char :=
  if c == '"' then ['\\', '"']
  else if c == '\\' then ['\\', '\\']
  else if c == '\n' then ['\\', 'n']
  else if c == '\r' then ['\\', 'r']
  else if c == '\t' then ['\\', 't']
  else if c.toNat == 8 then ['\\', 'b']
  else if c.toNat == 12 then ['\\', 'f']
  else if c.toNat < 0x20 then
    ['\\', 'u', '0', '0', hexDigit (c.toNat / 16), hexDigit (c.toNat % 16)]
  else [c]

def stringChars (s : String) : List Char := '"' :: (s.toList.flatMap escapeChar ++ ['"'])

def wholeChars (n : Int) : List Char :=
  let digits := Nat.toDigits 10 n.natAbs
  if n < 0 then '-' :: digits else digits

def numberChars : Number → List Char
  | .whole n => wholeChars n
  | .real x => Decimal.Layout.jsonDouble.writeDouble x
  | .single x =>
    if x.isFinite then Decimal.Layout.jsonSingle.writeSingle x else ['n', 'u', 'l', 'l']

mutual

def chars : Json → List Char
  | null => ['n', 'u', 'l', 'l']
  | bool true => ['t', 'r', 'u', 'e']
  | bool false => ['f', 'a', 'l', 's', 'e']
  | num n => numberChars n
  | str s => stringChars s
  | arr items => '[' :: itemsChars items
  | obj members => '{' :: membersChars members

/-- The items of an array and its end. -/
def itemsChars : List Json → List Char
  | [] => [']']
  | j :: rest => chars j ++ moreItemsChars rest

def moreItemsChars : List Json → List Char
  | [] => [']']
  | j :: rest => ',' :: (chars j ++ moreItemsChars rest)

/-- The members of an object and its end. -/
def membersChars : List (String × Json) → List Char
  | [] => ['}']
  | (k, j) :: rest => stringChars k ++ ':' :: (chars j ++ moreMembersChars rest)

def moreMembersChars : List (String × Json) → List Char
  | [] => ['}']
  | (k, j) :: rest => ',' :: (stringChars k ++ ':' :: (chars j ++ moreMembersChars rest))

end

/-- The compact text of a value. -/
def render (j : Json) : String := String.ofList j.chars

end Switchboard.Json
