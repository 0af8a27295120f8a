import DatagramEcho.Contract
import Mathlib.Data.List.Basic
import Mathlib.Tactic.SplitIfs

/-!
# Laws of the echo contract

A server cuts a request to its own buffer before it answers, and a client cuts the reply to its
own buffer before it checks it. This module says what a cut does to a reply and to the check.

* `Contract.Expects`: a reply to a payload is due.
* `reply?_take`: the reply to a cut request is the reply to the whole request, cut alike, as long
  as the buffer has room for one byte.
* `checkReply_eq_ok_iff`: the replies that keep the contract.
* `checkReply_take`: the verdict on an expected reply that was cut to `size` bytes.
-/

namespace DatagramEcho

namespace Payload

/-- A complement works byte by byte, so that it commutes with a cut. -/
theorem complement_take (payload : Payload) (size : ℕ) :
    complement (payload.take size) = (complement payload).take size :=
  List.map_take

/-- Where a payload is cut short of its end, the first difference is the cut. -/
theorem firstDifference?_take {payload : Payload} {size : ℕ} (hsize : size < payload.length) :
    firstDifference? payload (payload.take size) = some size := by
  induction payload generalizing size with
  | nil => simp at hsize
  | cons byte rest ih =>
    cases size with
    | zero => rfl
    | succ size =>
      have hrest : size < rest.length := by simpa using hsize
      simp [firstDifference?, ih hrest]

end Payload

/-- A transform works byte by byte, so that it commutes with a cut. -/
theorem Transform.apply_take (transform : Transform) (payload : Payload) (size : ℕ) :
    transform.apply (payload.take size) = (transform.apply payload).take size := by
  cases transform with
  | identity => rfl
  | invert => exact payload.complement_take size

namespace Contract

variable (contract : Contract)

/-- Whether a reply to a payload is due. -/
def Expects (payload : Payload) : Prop :=
  payload ≠ [] ∨ contract.emptyPolicy = .echo

instance (payload : Payload) : Decidable (contract.Expects payload) :=
  inferInstanceAs (Decidable (_ ∨ _))

/-- Only an empty payload goes without a reply, and only where empty datagrams are dropped. -/
theorem reply?_eq_none_iff (payload : Payload) :
    contract.reply? payload = none ↔ payload = [] ∧ contract.emptyPolicy = .drop := by
  cases payload <;> cases h : contract.emptyPolicy <;> simp [reply?, h]

/-- No reply is due where the contract gives none. -/
theorem not_expects_iff (payload : Payload) :
    ¬ contract.Expects payload ↔ contract.reply? payload = none := by
  rw [reply?_eq_none_iff, Expects]
  cases contract.emptyPolicy <;> simp

/-- A reply is due where the contract gives one. -/
theorem expects_iff (payload : Payload) :
    contract.Expects payload ↔ ∃ expected, contract.reply? payload = some expected := by
  rw [← Option.ne_none_iff_exists', Ne, ← not_expects_iff, not_not]

/-- Every reply is the transformed payload; that of an empty payload is empty. -/
theorem eq_apply_of_reply?_eq_some {payload reply : Payload}
    (hreply : contract.reply? payload = some reply) :
    reply = contract.transform.apply payload := by
  cases payload with
  | nil => cases h : contract.emptyPolicy <;> simp_all [reply?]
  | cons byte rest => simpa [reply?] using hreply.symm

/-- A reply is as long as the payload it answers. -/
theorem length_of_reply?_eq_some {payload reply : Payload}
    (hreply : contract.reply? payload = some reply) :
    reply.length = payload.length := by
  rw [contract.eq_apply_of_reply?_eq_some hreply, Transform.length_apply]

/-- A buffer with room for a byte cuts no payload to the empty one. -/
theorem reply?_take {size : ℕ} (hsize : 1 ≤ size) (payload : Payload) :
    contract.reply? (payload.take size) = (contract.reply? payload).map (·.take size) := by
  cases payload with
  | nil => cases h : contract.emptyPolicy <;> simp [reply?, h]
  | cons byte rest =>
    obtain ⟨room, rfl⟩ := Nat.exists_eq_add_of_le' hsize
    rw [List.take_succ_cons]
    simp only [reply?, Option.map_some]
    rw [← Transform.apply_take, List.take_succ_cons]

/-- What is waited for is a reply where the contract makes one due. -/
theorem expectation_of_reply?_eq_some {payload reply : Payload}
    (hreply : contract.reply? payload = some reply) :
    contract.expectation payload = .reply reply := by
  rw [expectation, hreply]

/-- What is waited for is silence where the contract makes no reply due. -/
theorem expectation_of_reply?_eq_none {payload : Payload}
    (hreply : contract.reply? payload = none) :
    contract.expectation payload = .silence := by
  rw [expectation, hreply]

end Contract

/-- Within the capacity the received bytes have to equal the expected ones. Beyond it they have to
fit the capacity and begin the expected ones. -/
theorem checkReply_eq_ok_iff (capacity : ℕ) (expected received : Payload) :
    checkReply capacity expected received = .ok () ↔
      (expected.length ≤ capacity ∧ received = expected) ∨
        (capacity < expected.length ∧ received.length ≤ capacity ∧ received <+: expected) := by
  have heq : ∀ a b : Payload, (Payload.firstDifference? a b = none) = (b = a) := fun a b =>
    propext ((Payload.firstDifference?_eq_none_iff a b).trans eq_comm)
  unfold checkReply
  split_ifs with hfits hlong
  · have hnot : ¬ capacity < expected.length := by omega
    cases h : Payload.firstDifference? expected received <;> simp [← heq, h, hfits, hnot]
  · have hnot : ¬ received.length ≤ capacity := by omega
    simp [hfits, hnot]
  · have hbeyond : capacity < expected.length := by omega
    have hroom : received.length ≤ capacity := by omega
    cases h : Payload.firstDifference? (expected.take received.length) received <;>
      simp [List.prefix_iff_eq_take, ← heq, h, hfits, hbeyond, hroom]

/-- An expected reply that was cut to `size` bytes passes if nothing was lost, or if it is oversize
for the capacity anyway. Otherwise the first difference is the cut. -/
theorem checkReply_take {capacity size : ℕ} (hsize : size ≤ capacity) (expected : Payload) :
    checkReply capacity expected (expected.take size) =
      if expected.length ≤ size ∨ capacity < expected.length then .ok ()
      else .error ⟨expected.length, size, some size⟩ := by
  split_ifs with hpass
  · rw [checkReply_eq_ok_iff]
    rcases hpass with hwhole | hoversize
    · exact Or.inl ⟨Nat.le_trans hwhole hsize, List.take_of_length_le hwhole⟩
    · refine Or.inr ⟨hoversize, ?_, List.take_prefix _ _⟩
      exact Nat.le_trans (List.length_take_le _ _) hsize
  · have hcut : size < expected.length := by omega
    have hfits : expected.length ≤ capacity := by omega
    have hlength : (expected.take size).length = size := by rw [List.length_take]; omega
    unfold checkReply
    rw [if_pos hfits, Payload.firstDifference?_take hcut, hlength]

end DatagramEcho
