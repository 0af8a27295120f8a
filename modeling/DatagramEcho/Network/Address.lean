/-!
# Socket addresses

An address is an IPv4 or IPv6 address with a port; an IPv6 address may carry the number of a
scope. `SocketAddress.text` writes the canonical form: the longest run of two or more zero groups
of an IPv6 address is shortened to `::`, the first one of equal length, groups are in lower case,
and a scope of zero is left out.
-/

namespace DatagramEcho

/-- An IPv4 address, as its four bytes. -/
structure Ipv4 where
  /-- The first byte. -/
  a : UInt8
  /-- The second byte. -/
  b : UInt8
  /-- The third byte. -/
  c : UInt8
  /-- The fourth byte. -/
  d : UInt8
  deriving Repr, DecidableEq

/-- An IPv6 address, as its eight groups of sixteen bits. -/
structure Ipv6 where
  /-- The groups, the most significant one first. -/
  groups : Vector UInt16 8
  deriving Repr, DecidableEq

namespace Ipv4

/-- The dotted form of an address. -/
def text (ip : Ipv4) : String :=
  ".".intercalate ([ip.a, ip.b, ip.c, ip.d].map fun byte => toString byte.toNat)

/-- The address that stands for every address of a host. -/
def unspecified : Ipv4 := ⟨0, 0, 0, 0⟩

/-- The address by which a host reaches itself. -/
def loopback : Ipv4 := ⟨127, 0, 0, 1⟩

end Ipv4

namespace Ipv6

/-- The IPv4 address inside an address of the form `::ffff:a.b.c.d`. -/
def mappedIpv4? (ip : Ipv6) : Option Ipv4 :=
  match ip.groups.toList with
  | [0, 0, 0, 0, 0, 0xffff, high, low] =>
    some ⟨(high >>> 8).toUInt8, high.toUInt8, (low >>> 8).toUInt8, low.toUInt8⟩
  | _ => none

/-- The address of the form `::ffff:a.b.c.d` with a given IPv4 address inside. -/
def ofIpv4 (ip : Ipv4) : Ipv6 :=
  ⟨#v[0, 0, 0, 0, 0, 0xffff, ip.a.toUInt16 <<< 8 ||| ip.b.toUInt16,
    ip.c.toUInt16 <<< 8 ||| ip.d.toUInt16]⟩

/-- The address that stands for every address of a host. -/
def unspecified : Ipv6 := ⟨Vector.replicate 8 0⟩

/-- The address by which a host reaches itself. -/
def loopback : Ipv6 := ⟨#v[0, 0, 0, 0, 0, 0, 0, 1]⟩

/-- Whether an address names a group of receivers. -/
def isMulticast (ip : Ipv6) : Bool :=
  ip.groups[0] &&& 0xff00 == 0xff00

/-- Whether an address only has a meaning on one link, which its scope gives: an address of that
link, or a group of receivers on it or on one interface. -/
def needsScope (ip : Ipv6) : Bool :=
  ip.groups[0] &&& 0xffc0 == 0xfe80 || ip.groups[0] &&& 0xff0f == 0xff01 ||
    ip.groups[0] &&& 0xff0f == 0xff02

/-- Number of zero groups at the head of `groups`. -/
def zeroRun (groups : List UInt16) : Nat :=
  (groups.takeWhile (· == 0)).length

/-- Start and length of the longest run of zero groups, the first one of equal length; `offset` is
the index of the first group. -/
def longestZeroRun (offset : Nat) : List UInt16 → Nat × Nat
  | [] => (offset, 0)
  | group :: rest =>
    let here := zeroRun (group :: rest)
    let later := longestZeroRun (offset + 1) rest
    if here ≥ later.2 then (offset, here) else later

/-- Groups in hexadecimal, joined by colons. -/
def joined (groups : List UInt16) : String :=
  ":".intercalate (groups.map fun group => String.ofList (Nat.toDigits 16 group.toNat))

/-- The canonical form of an address. -/
def text (ip : Ipv6) : String :=
  match ip.mappedIpv4? with
  | some inner => "::ffff:" ++ inner.text
  | none =>
    let groups := ip.groups.toList
    let (start, length) := longestZeroRun 0 groups
    if length > 1 then joined (groups.take start) ++ "::" ++ joined (groups.drop (start + length))
    else joined groups

end Ipv6

/-- The address of a socket. -/
inductive SocketAddress where
  /-- An IPv4 address and a port. -/
  | v4 (ip : Ipv4) (port : UInt16)
  /-- An IPv6 address, the number of its scope, and a port. -/
  | v6 (ip : Ipv6) (scope : UInt32) (port : UInt16)
  deriving Repr, DecidableEq

namespace SocketAddress

/-- The port of an address. Zero asks for any free port. -/
def port : SocketAddress → UInt16
  | v4 _ port => port
  | v6 _ _ port => port

/-- The text of the address without its port and scope. -/
def host : SocketAddress → String
  | v4 ip _ => ip.text
  | v6 ip _ _ => ip.text

/-- The IPv4 address of an address in either form. -/
def ipv4? : SocketAddress → Option Ipv4
  | v4 ip _ => some ip
  | v6 ip _ _ => ip.mappedIpv4?

/-- Whether an address stands for every address of a host. -/
def isUnspecified : SocketAddress → Bool
  | v4 ip _ => ip == Ipv4.unspecified
  | v6 ip _ _ => ip == Ipv6.unspecified || ip.mappedIpv4? == some Ipv4.unspecified

/-- The address that a socket with this address has once `destination` is its destination. One that
stands for every address of the host becomes the one by which the host reaches itself. -/
def facing (source destination : SocketAddress) : SocketAddress :=
  match source with
  | v4 _ port => if source.isUnspecified then v4 .loopback port else source
  | v6 _ scope port =>
    if !source.isUnspecified then source
    else if destination.ipv4?.isSome then v6 (.ofIpv4 .loopback) scope port
    else v6 .loopback scope port

/-- The same address with another port. -/
def withPort (port : UInt16) : SocketAddress → SocketAddress
  | v4 ip _ => v4 ip port
  | v6 ip scope _ => v6 ip scope port

/-- The canonical form of an address. -/
def text : SocketAddress → String
  | v4 ip port => ip.text ++ ":" ++ toString port.toNat
  | v6 ip scope port =>
    let zone := if scope = 0 then "" else "%" ++ toString scope.toNat
    "[" ++ ip.text ++ zone ++ "]:" ++ toString port.toNat

end SocketAddress

end DatagramEcho
