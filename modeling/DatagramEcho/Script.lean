import DatagramEcho.Contract

/-!
# Scripts

A client run is driven by a script, the request payloads in the order in which they are sent.
-/

namespace DatagramEcho

/-- The request payloads of one client run, in order. -/
abbrev Script := List Payload

namespace Script

/-- The script that is used when no payloads are given: `hello`, `hello2` and a payload of
`capacity` letters `x`, which fills the receive buffer exactly. -/
def standard (capacity : Nat) : Script :=
  ["hello".toUTF8.toList, "hello2".toUTF8.toList, List.replicate capacity 'x'.toUInt8]

/-- The payloads given, or the standard script when there are none. -/
def orStandard (payloads : Script) (capacity : Nat) : Script :=
  if payloads.isEmpty then standard capacity else payloads

end Script

end DatagramEcho
