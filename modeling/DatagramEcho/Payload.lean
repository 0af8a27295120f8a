/-!
# Payloads

A datagram carries one payload, a finite list of bytes with no framing of its own. This module
holds the operations that the echo rules need: the bytewise complement and the first offset at
which two payloads differ.

* `complement_complement`: the complement is its own inverse.
* `firstDifference?_eq_none_iff`: only equal payloads have no difference.
-/

namespace DatagramEcho

/-- The bytes carried by one datagram. -/
abbrev Payload := List UInt8

namespace Payload

/-- Every byte replaced by its bitwise complement. -/
def complement (payload : Payload) : Payload :=
  payload.map (~~~ ·)

@[simp]
theorem complement_nil : complement [] = [] := rfl

@[simp]
theorem complement_cons (byte : UInt8) (rest : Payload) :
    complement (byte :: rest) = ~~~byte :: complement rest := rfl

@[simp]
theorem length_complement (payload : Payload) :
    (complement payload).length = payload.length := by
  simp [complement]

/-- Complementing twice gives the payload back. -/
@[simp]
theorem complement_complement (payload : Payload) :
    complement (complement payload) = payload := by
  induction payload with
  | nil => rfl
  | cons byte rest ih => simp [ih]

/-- Offset of the first byte at which two payloads differ. Where one continues past the end of
the other, that end counts as a difference. -/
def firstDifference? : Payload → Payload → Option Nat
  | [], [] => none
  | [], _ :: _ => some 0
  | _ :: _, [] => some 0
  | a :: as, b :: bs => if a = b then (firstDifference? as bs).map (· + 1) else some 0

/-- Only equal payloads have no difference. -/
theorem firstDifference?_eq_none_iff (a b : Payload) : firstDifference? a b = none ↔ a = b := by
  induction a generalizing b with
  | nil => cases b <;> simp [firstDifference?]
  | cons x xs ih =>
    cases b with
    | nil => simp [firstDifference?]
    | cons y ys => by_cases h : x = y <;> simp [firstDifference?, h, ih]

end Payload

end DatagramEcho
