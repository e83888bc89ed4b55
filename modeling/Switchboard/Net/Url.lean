import Switchboard.Net.Address
import Switchboard.Net.Domain
import Switchboard.Text.Utf8

/-!
# URLs

Whether a text is a URL, of what scheme, and of what domain: as much of the URL standard as tells
that, with the first thing that is wrong otherwise. Blanks and controls around a URL do not count,
nor do tabs and line ends inside it.
-/

namespace Switchboard.Net

/-- What is wrong with a URL. -/
inductive UrlFault where
  | relative
  | emptyHost
  | port
  | fourOctets
  | eightGroups
  | international
  | hostCharacter
deriving DecidableEq, Repr

namespace UrlFault

def message : UrlFault → String
  | relative => "relative URL without a base"
  | emptyHost => "empty host"
  | port => "invalid port number"
  | fourOctets => "invalid IPv4 address"
  | eightGroups => "invalid IPv6 address"
  | international => "invalid international domain name"
  | hostCharacter => "invalid domain character"

end UrlFault

/-- How the schemes of the standard are read. -/
inductive SchemeKind where
  | special
  | file
  | plain
deriving DecidableEq, Repr

structure Url where
  scheme : String
  /-- The domain as it is understood, where the scheme is one of the standard and has one. -/
  domain : List Char
deriving DecidableEq, Repr

namespace Url

def kindOf (scheme : String) : SchemeKind :=
  if scheme ∈ ["http", "https", "ws", "wss", "ftp"] then .special
  else if scheme = "file" then .file
  else .plain

/-- The characters that count. -/
def significant (s : String) : List Char :=
  let isEdge (c : Char) : Bool := c.toNat ≤ 0x20
  let trimmed := ((s.toList.dropWhile isEdge).reverse.dropWhile isEdge).reverse
  trimmed.filter fun c => c != '\t' && c != '\n' && c != '\r'

def isSchemeChar (c : Char) : Bool := c.isAlphanum || c == '+' || c == '-' || c == '.'

/-- The scheme, in lower case, and what follows its colon. -/
def scheme? (cs : List Char) : Option (String × List Char) :=
  let name := cs.takeWhile isSchemeChar
  match cs.head?, cs.drop name.length with
  | some first, ':' :: rest =>
    if first.isAlpha then some (String.ofList (name.map Char.toLower), rest) else none
  | _, _ => none

def isSlash (c : Char) : Bool := c == '/' || c == '\\'

/-- What ends the authority. -/
def endsAuthority (isSpecial : Bool) (c : Char) : Bool :=
  c == '/' || c == '?' || c == '#' || (isSpecial && c == '\\')

/-- An authority without the user it names: what stands after the last at sign. -/
def dropUser (authority : List Char) : List Char :=
  (authority.reverse.takeWhile (· != '@')).reverse

/-- The host an authority starts with: up to a colon that is not in brackets. -/
def hostChars (inBrackets : Bool) : List Char → List Char
  | [] => []
  | c :: cs =>
    if c == ':' && !inBrackets then []
    else c :: hostChars (if c == '[' then true else if c == ']' then false else inBrackets) cs

/-- The bytes of a host with its percent escapes taken out. -/
def percentDecode : List Char → List UInt8
  | '%' :: a :: b :: cs =>
    match hexDigit? a, hexDigit? b with
    | some x, some y => (x * 16 + y).toUInt8 :: percentDecode cs
    | _, _ => Text.utf8 "%" ++ percentDecode (a :: b :: cs)
  | c :: cs => Text.utf8 (String.ofList [c]) ++ percentDecode cs
  | [] => []

/-- The characters that no host has. -/
def isForbiddenInHost (c : Char) : Bool :=
  c.toNat == 0 || ['\t', '\n', '\r', ' ', '#', '/', ':', '<', '>', '?', '@', '[', '\\', ']', '^',
    '|'].contains c

/-- A part of a number address: a number in base 8, 10 or 16; nothing inside if it is too great. -/
def numberPart? (cs : List Char) : Option (Option Nat) :=
  let (base, digits) := match cs with
    | '0' :: x :: rest => if x == 'x' || x == 'X' then (16, rest) else (8, x :: rest)
    | cs => (10, cs)
  if cs.isEmpty then none
  else do
    let n ← digits.foldlM (fun n c => do
      let d ← hexDigit? c
      if d < base then some (n * base + d) else none) 0
    return if n < Nat.pow 2 32 then some n else none

/-- The parts between dots, without an empty last one. -/
def dottedParts (cs : List Char) : List (List Char) :=
  let parts := Text.splitOn '.' cs
  if parts.getLast? = some [] then parts.dropLast else parts

/-- Whether a domain has to be read as a number address. -/
def endsInNumber (cs : List Char) : Bool :=
  match (dottedParts cs).getLast? with
  | none => false
  | some last => (!last.isEmpty && last.all Char.isDigit) || (numberPart? last).isSome

/-- Whether a domain that ends in a number is a number address. -/
def isNumberAddress (cs : List Char) : Bool :=
  let parts := dottedParts cs
  match parts.mapM fun p => (numberPart? p).bind id with
  | none => false
  | some numbers =>
    parts.length ≤ 4 && numbers.dropLast.all (· ≤ 255) &&
      numbers.getLast?.any fun n => n < Nat.pow 256 (5 - parts.length)

/-- What is wrong with a host in brackets. -/
def bracketFault? (host : List Char) : Option UrlFault :=
  if host.getLast? = some ']' && (groups? host.tail.dropLast).isSome then none
  else some .eightGroups

/-- The domain that is the host of a scheme of the standard, empty if the host is an address in
brackets. -/
def specialHost (host : List Char) : Except UrlFault (List Char) :=
  if host.head? = some '[' then
    match bracketFault? host with
    | some fault => .error fault
    | none => .ok []
  else match Text.ofUtf8? (percentDecode host) with
    | none => .error .international
    | some text =>
      match Domain.understood? text.toList with
      | none => .error .international
      | some [] => .error .emptyHost
      | some domain =>
        if endsInNumber domain && !isNumberAddress domain then .error .fourOctets else .ok domain

/-- What is wrong with the host of any other scheme. -/
def plainHostFault? (host : List Char) : Option UrlFault :=
  if host.head? = some '[' then bracketFault? host
  else if host.any isForbiddenInHost then some .hostCharacter
  else none

/-- The domain that a host is, where a host of another scheme is none. -/
def hostDomain (isSpecial : Bool) (host : List Char) : Except UrlFault (List Char) :=
  if isSpecial then specialHost host
  else match plainHostFault? host with
    | some fault => .error fault
    | none => .ok []

/-- What is wrong with the port that follows a host. -/
def portFault? : List Char → Option UrlFault
  | ':' :: digits =>
    if digits.isEmpty then none
    else match decimal? digits with
      | some n => if n < Nat.pow 2 16 then none else some .port
      | none => some .port
  | _ => none

/-- The domain in the part of a URL that names a host. -/
def authority (isSpecial : Bool) (rest : List Char) : Except UrlFault (List Char) :=
  let whole := rest.takeWhile fun c => !endsAuthority isSpecial c
  let place := dropUser whole
  let user := whole.take (whole.length - place.length - 1)
  let host := hostChars false place
  let port := (place.drop host.length).takeWhile fun c => !isSlash c
  let namesUser := user != [] && user != [':']
  let onlyAt := whole == ['@'] && whole.length < rest.length
  if host.isEmpty && (isSpecial || !port.isEmpty || namesUser || onlyAt) then .error .emptyHost
  else match hostDomain isSpecial host, portFault? port with
    | .error fault, _ | .ok _, some fault => .error fault
    | .ok domain, none => .ok domain

/-- Whether the host of a file is a drive. -/
def isDrive : List Char → Bool
  | [letter, mark] => letter.isAlpha && (mark == ':' || mark == '|')
  | _ => false

/-- The domain in what follows the scheme of a file, which need not name a host. -/
def fileHost : List Char → Except UrlFault (List Char)
  | a :: b :: rest =>
    let host := rest.takeWhile fun c => !endsAuthority true c
    if !(isSlash a && isSlash b) || host.isEmpty || isDrive host then .ok [] else specialHost host
  | _ => .ok []

/-- The domain in what follows a scheme. -/
def domainAfter (scheme : String) (rest : List Char) : Except UrlFault (List Char) :=
  match kindOf scheme with
  | .special => authority true (rest.dropWhile isSlash)
  | .plain => if ['/', '/'].isPrefixOf rest then authority false (rest.drop 2) else .ok []
  | .file => fileHost rest

/-- A text as a URL. -/
def ofString (s : String) : Except UrlFault Url :=
  match scheme? (significant s) with
  | none => .error .relative
  | some (scheme, rest) =>
    match domainAfter scheme rest with
    | .error fault => .error fault
    | .ok domain => .ok ⟨scheme, domain⟩

end Url

end Switchboard.Net
