import Switchboard.Net.Address

/-!
# Socket addresses

The address and port a server listens on. An address of groups stands in brackets, and may name the
zone it is of by a number.
-/

namespace Switchboard.Net

inductive SocketAddress where
  | octets (address : List Nat) (port : Nat)
  | groups (address : List Nat) (zone port : Nat)
deriving DecidableEq, Repr

namespace SocketAddress

/-- A decimal number of at most `greatest`. -/
def bounded? (greatest : Nat) (cs : List Char) : Option Nat := do
  let n ← decimal? cs
  if n ≤ greatest then some n else none

def port? : List Char → Option Nat := bounded? (Nat.pow 2 16 - 1)

def octetsPort? (cs : List Char) : Option SocketAddress := do
  let (address, port) ← Text.cutAt [':'] cs
  return octets (← octets? address) (← port? port)

def groupsPort? (cs : List Char) : Option SocketAddress := do
  let (inside, after) ← Text.cutAt [']'] cs
  let port ← if after.head? = some ':' then port? after.tail else none
  match Text.cutAt ['%'] inside with
  | none => return groups (← groups? inside) 0 port
  | some (address, zone) =>
    return groups (← groups? address) (← bounded? (Nat.pow 2 32 - 1) zone) port

def ofString? (s : String) : Option SocketAddress :=
  match s.toList with
  | '[' :: cs => groupsPort? cs
  | cs => octetsPort? cs

def write : SocketAddress → String
  | octets address port => writeOctets address ++ s!":{port}"
  | groups address zone port =>
    "[" ++ writeGroups address ++ (if zone = 0 then "" else s!"%{zone}") ++ s!"]:{port}"

end SocketAddress

end Switchboard.Net
