import DatagramEcho.Network.Address
import DatagramEcho.Text.Reader

/-!
# Reading socket addresses

Each rule of the grammar is one reader, and `SocketAddress.ofText?` accepts a text that one address
fills to the end:

* an IPv4 address has four decimal bytes of at most three digits, with no superfluous zero;
* an IPv6 address has eight groups of up to four hexadecimal digits, the last two of which may be
  written as an IPv4 address; one `::` stands for at least one zero group;
* a port and a scope are decimal numbers, and zeros before them are allowed.
-/

namespace DatagramEcho

open TextReader

/-- One byte of an IPv4 address. -/
def Ipv4.byte : TextReader UInt8 := fun input => do
  let (value, rest) ← number 10 256 false (some 3) input
  return (value.toUInt8, rest)

/-- An IPv4 address in dotted form. -/
def Ipv4.reader : TextReader Ipv4 := fun input => do
  let (a, rest) ← byte input
  let (_, rest) ← exactly '.' rest
  let (b, rest) ← byte rest
  let (_, rest) ← exactly '.' rest
  let (c, rest) ← byte rest
  let (_, rest) ← exactly '.' rest
  let (d, rest) ← byte rest
  return (⟨a, b, c, d⟩, rest)

/-- The groups that an IPv4 address fills in an IPv6 address. -/
def Ipv4.groups (ip : Ipv4) : List UInt16 :=
  [ip.a.toUInt16 <<< 8 ||| ip.b.toUInt16, ip.c.toUInt16 <<< 8 ||| ip.d.toUInt16]

/-- Groups of an IPv6 address at the front of a text. -/
structure Ipv6.Groups where
  /-- The groups read. -/
  groups : List UInt16
  /-- Whether the last two of them were written as an IPv4 address. -/
  dotted : Bool
  /-- The text after them. -/
  rest : List Char

/-- As many groups as there are, at most `room`. `first` says that no colon is due before the next
group. -/
def Ipv6.takeGroups (room : Nat) (first : Bool) (input : List Char) : Ipv6.Groups :=
  match room with
  | 0 => ⟨[], false, input⟩
  | more + 1 =>
    let afterColon := if first then some ((), input) else exactly ':' input
    let embedded :=
      if more = 0 then none else afterColon.bind fun (_, rest) => Ipv4.reader rest
    match embedded with
    | some (ip, rest) => ⟨ip.groups, true, rest⟩
    | none =>
      match afterColon.bind fun (_, rest) => number 16 65536 true (some 4) rest with
      | some (group, rest) =>
        let others := Ipv6.takeGroups more false rest
        ⟨group.toUInt16 :: others.groups, others.dotted, others.rest⟩
      | none => ⟨[], false, input⟩

/-- The address whose groups are `groups`, if there are eight of them. -/
def Ipv6.ofGroups? (groups : List UInt16) : Option Ipv6 :=
  if h : groups.toArray.size = 8 then some ⟨⟨groups.toArray, h⟩⟩ else none

/-- An IPv6 address. -/
def Ipv6.reader : TextReader Ipv6 := fun input => do
  let head := takeGroups 8 true input
  if head.groups.length = 8 then
    let ip ← ofGroups? head.groups
    return (ip, head.rest)
  if head.dotted then none
  let (_, rest) ← exactly ':' head.rest
  let (_, rest) ← exactly ':' rest
  let tail := takeGroups (7 - head.groups.length) true rest
  let zeros := List.replicate (8 - head.groups.length - tail.groups.length) 0
  let ip ← ofGroups? (head.groups ++ zeros ++ tail.groups)
  return (ip, tail.rest)

namespace SocketAddress

/-- A colon and a port. -/
def portReader : TextReader UInt16 := fun input => do
  let (_, rest) ← exactly ':' input
  let (port, rest) ← number 10 65536 true none rest
  return (port.toUInt16, rest)

/-- A percent sign and the number of a scope; nothing stands for scope zero. -/
def scopeReader (input : List Char) : UInt32 × List Char :=
  let written := do
    let (_, rest) ← exactly '%' input
    number 10 4294967296 true none rest
  match written with
  | some (scope, rest) => (scope.toUInt32, rest)
  | none => (0, input)

/-- An IPv4 address with a port. -/
def v4Reader : TextReader SocketAddress := fun input => do
  let (ip, rest) ← Ipv4.reader input
  let (port, rest) ← portReader rest
  return (.v4 ip port, rest)

/-- An IPv6 address in brackets with a port. -/
def v6Reader : TextReader SocketAddress := fun input => do
  let (_, rest) ← exactly '[' input
  let (ip, rest) ← Ipv6.reader rest
  let (scope, rest) := scopeReader rest
  let (_, rest) ← exactly ']' rest
  let (port, rest) ← portReader rest
  return (.v6 ip scope port, rest)

/-- The address that a text spells, if it is exactly one address. -/
def ofText? (text : String) : Option SocketAddress :=
  match (v4Reader text.toList).or (v6Reader text.toList) with
  | some (address, []) => some address
  | _ => none

end SocketAddress

end DatagramEcho
