import DatagramEcho.Client.Run
import DatagramEcho.Proofs.Contract

/-!
# What a failed check reports

A reply that breaks the contract is reported with the offset at which it first departs from the
expected bytes, if the lengths allow a comparison at all. This module says which offset that is. It
also says that the check can do with the bytes that are there: read offset by offset, it never asks
for one beyond the end of a payload.

* `Payload.DifferAt`: two payloads agree up to an offset, and no further.
* `Payload.firstDifference?_eq_some_iff`: the first difference is the offset of that kind.
* `Payload.readDifference?_eq` and `readReply?_eq`: the search and the check, with every read
  bounded, always have a result, and it is the same one.
* `checkReply_decides`: the whole decision, with its report.
-/

namespace DatagramEcho

namespace Payload

/-- Two payloads agree below `offset` and differ there: in a byte that both of them have, or because
just one of them ends there. -/
structure DifferAt (a b : Payload) (offset : ℕ) : Prop where
  /-- Neither payload ends before. -/
  le : offset ≤ min a.length b.length
  /-- All bytes before are the same. -/
  before : ∀ i < offset, a[i]? = b[i]?
  /-- The bytes differ, or one payload is longer. -/
  here : (offset < min a.length b.length ∧ a[offset]? ≠ b[offset]?) ∨
    (offset = min a.length b.length ∧ a.length ≠ b.length)

section Difference

variable {a b : Payload} {x y : UInt8} {offset : ℕ}

theorem not_differAt_self : ¬ DifferAt a a offset := by
  rintro ⟨-, -, ⟨-, hbyte⟩ | ⟨-, hlength⟩⟩
  · exact hbyte rfl
  · exact hlength rfl

/-- Where one payload has no bytes, the other one only has to have some. -/
theorem differAt_nil_left_iff : DifferAt [] (y :: b) offset ↔ offset = 0 := by
  constructor
  · intro h
    simpa using h.le
  · rintro rfl
    exact ⟨by simp, by simp, Or.inr (by simp)⟩

theorem DifferAt.symm (h : DifferAt a b offset) : DifferAt b a offset where
  le := by rw [Nat.min_comm]; exact h.le
  before i hi := (h.before i hi).symm
  here := by
    rw [Nat.min_comm]
    exact h.here.imp (And.imp_right Ne.symm) (And.imp_right Ne.symm)

/-- Payloads with different first bytes differ there. -/
theorem differAt_cons_of_ne_iff (hne : x ≠ y) : DifferAt (x :: a) (y :: b) offset ↔ offset = 0 := by
  constructor
  · intro h
    by_contra hoffset
    have hfirst := h.before 0 (Nat.pos_of_ne_zero hoffset)
    exact hne (by simpa using hfirst)
  · rintro rfl
    exact ⟨by simp, by simp, Or.inl (by simpa using hne)⟩

/-- Payloads with the same first byte differ where their rests do, one offset later. -/
theorem differAt_cons_iff :
    DifferAt (x :: a) (x :: b) offset ↔ ∃ later, DifferAt a b later ∧ offset = later + 1 := by
  constructor
  · intro h
    cases offset with
    | zero =>
      -- at offset zero both have a byte, and it is the same
      rcases h.here with ⟨-, hbyte⟩ | ⟨hend, -⟩
      · simp at hbyte
      · simp at hend
    | succ later =>
      refine ⟨later, ⟨?_, fun i hi => ?_, ?_⟩, rfl⟩
      · simpa using h.le
      · simpa using h.before (i + 1) (by omega)
      · simpa using h.here
  · rintro ⟨later, h, rfl⟩
    refine ⟨by simpa using h.le, fun i hi => ?_, by simpa using h.here⟩
    cases i with
    | zero => rfl
    | succ i => simpa using h.before i (by omega)

/-- The first difference is the offset up to which two payloads agree, and no further. -/
theorem firstDifference?_eq_some_iff (a b : Payload) (offset : ℕ) :
    firstDifference? a b = some offset ↔ DifferAt a b offset := by
  -- the search and the difference go down both payloads alike, so the offset is general
  induction a generalizing b offset with
  | nil =>
    cases b with
    | nil => simp [firstDifference?, not_differAt_self]
    | cons y b => simp [firstDifference?, differAt_nil_left_iff, eq_comm]
  | cons x a ih =>
    cases b with
    -- the payload that ends is the second one here, and the first one in the lemma
    | nil =>
      have hsymm : DifferAt (x :: a) [] offset ↔ DifferAt [] (x :: a) offset :=
        ⟨DifferAt.symm, DifferAt.symm⟩
      rw [hsymm, differAt_nil_left_iff]
      simp [firstDifference?, eq_comm]
    | cons y b =>
      by_cases heq : x = y
      · subst heq
        simp only [firstDifference?, ↓reduceIte, Option.map_eq_some_iff, ih, differAt_cons_iff]
        simp only [eq_comm]
      · simp [firstDifference?, heq, differAt_cons_of_ne_iff heq, eq_comm]

/-- Where a payload is compared with the beginning of another one that is as long, the first
difference is one of the whole payloads. -/
theorem differAt_of_take (hroom : b.length ≤ a.length)
    (h : DifferAt (a.take b.length) b offset) : DifferAt a b offset := by
  have hlength : (a.take b.length).length = b.length := List.length_take_of_le hroom
  have hle := h.le
  rw [hlength, Nat.min_self] at hle
  -- both lengths are the same, so the difference lies in a byte
  have hhere : offset < b.length ∧ (a.take b.length)[offset]? ≠ b[offset]? := by
    simpa [hlength] using h.here
  refine ⟨by omega, fun i hi => ?_, Or.inl ⟨by omega, ?_⟩⟩
  · rw [← h.before i hi, List.getElem?_take_of_lt (by omega)]
  · rw [← List.getElem?_take_of_lt hhere.1]
    exact hhere.2

end Difference

/-! ## Bounded reads -/

/-- The first `size` bytes of a payload, if it has as many. -/
def slice? (payload : Payload) (size : ℕ) : Option Payload :=
  if size ≤ payload.length then some (payload.take size) else none

/-- The first offset at which two payloads have different bytes, among `count` offsets from `offset`
on. There is no result if one of the payloads has no byte at an offset that is read. -/
def scan? (a b : Payload) : (count offset : ℕ) → Option (Option ℕ)
  | 0, _ => some none
  | count + 1, offset => do
    let x ← a[offset]?
    let y ← b[offset]?
    if x = y then scan? a b count (offset + 1) else some (some offset)

/-- The offset at which one payload ends and the other one does not. -/
def endDifference? (a b : Payload) : Option ℕ :=
  if a.length = b.length then none else some (min a.length b.length)

/-- The first difference of two payloads, by reading all offsets that both of them have. -/
def readDifference? (a b : Payload) : Option (Option ℕ) := do
  let found ← scan? a b (min a.length b.length) 0
  return found.or (endDifference? a b)

/-- A scan that stops where the shorter payload ends has a result. Together with the difference of
the lengths it is the first difference of what was still to be read. -/
theorem exists_scan?_eq {a b : Payload} {count offset : ℕ}
    (hcount : count + offset = min a.length b.length) :
    ∃ found, scan? a b count offset = some found ∧ found.or (endDifference? a b) =
      (firstDifference? (a.drop offset) (b.drop offset)).map (· + offset) := by
  induction count generalizing offset with
  | zero =>
    -- the shorter payload has been read to its end
    refine ⟨none, rfl, ?_⟩
    rw [Nat.zero_add] at hcount
    subst hcount
    rcases Nat.lt_trichotomy a.length b.length with hlt | heq | hgt
    · rw [Nat.min_eq_left (Nat.le_of_lt hlt), List.drop_length, List.drop_eq_getElem_cons hlt]
      simp [firstDifference?, endDifference?, Nat.ne_of_lt hlt, Nat.le_of_lt hlt]
    · rw [heq, Nat.min_self, List.drop_length, ← heq, List.drop_length]
      simp [firstDifference?, endDifference?, heq]
    · rw [Nat.min_eq_right (Nat.le_of_lt hgt), List.drop_length, List.drop_eq_getElem_cons hgt]
      simp [firstDifference?, endDifference?, Nat.ne_of_gt hgt, Nat.le_of_lt hgt]
  | succ count ih =>
    -- there is a byte to read in both payloads
    have ha : offset < a.length := by omega
    have hb : offset < b.length := by omega
    rw [List.drop_eq_getElem_cons ha, List.drop_eq_getElem_cons hb]
    simp only [scan?, List.getElem?_eq_getElem ha, List.getElem?_eq_getElem hb, Option.bind_eq_bind,
      Option.bind_some, firstDifference?]
    by_cases hbyte : a[offset] = b[offset]
    · have hlater : count + (offset + 1) = min a.length b.length := by omega
      obtain ⟨found, hscan, hfound⟩ := ih hlater
      refine ⟨found, by rw [if_pos hbyte, hscan], ?_⟩
      rw [if_pos hbyte, hfound, Option.map_map]
      -- an offset in the rests counts from one byte later
      congr 1
      funext later
      exact (Nat.add_right_comm later 1 offset).symm
    · exact ⟨some offset, if_neg hbyte, by simp [hbyte]⟩

/-- The search for the first difference reads no byte that is not there. -/
theorem readDifference?_eq (a b : Payload) :
    readDifference? a b = some (firstDifference? a b) := by
  obtain ⟨found, hscan, hfound⟩ := exists_scan?_eq (Nat.add_zero (min a.length b.length))
  rw [readDifference?, hscan]
  simpa using hfound

end Payload

/-- The check of a reply by bounded reads. There is no result if a read goes beyond the end of a
payload. -/
def readReply? (capacity : ℕ) (expected received : Payload) : Option (Except Mismatch Unit) :=
  let verdict (found : Option ℕ) : Except Mismatch Unit :=
    .error ⟨expected.length, received.length, found⟩
  if expected.length ≤ capacity then
    if expected = received then some (.ok ())
    else (Payload.readDifference? expected received).map verdict
  else if received.length > capacity then some (verdict none)
  else do
    let start ← expected.slice? received.length
    match ← Payload.readDifference? start received with
    | none => some (.ok ())
    | some offset => some (verdict (some offset))

/-- The check of a reply reads no byte that is not there. -/
theorem readReply?_eq (capacity : ℕ) (expected received : Payload) :
    readReply? capacity expected received = some (checkReply capacity expected received) := by
  unfold readReply? checkReply
  split_ifs with hfits hsame hlong
  · rw [(Payload.firstDifference?_eq_none_iff expected received).mpr hsame]
  · have hdiffer : Payload.firstDifference? expected received ≠ none :=
      mt (Payload.firstDifference?_eq_none_iff expected received).mp hsame
    obtain ⟨offset, hoffset⟩ := Option.ne_none_iff_exists'.mp hdiffer
    rw [Payload.readDifference?_eq, hoffset]
    rfl
  · rfl
  · -- the slice is there because a reply within the capacity is shorter than an oversize one
    have hslice : expected.slice? received.length = some (expected.take received.length) :=
      if_pos (by omega)
    rw [hslice]
    simp only [Option.bind_eq_bind, Option.bind_some, Payload.readDifference?_eq]
    cases Payload.firstDifference? (expected.take received.length) received <;> rfl

/-- A check that fails reports both lengths, and the first difference unless both payloads are too
long for the buffer. -/
theorem exists_of_checkReply_eq_error {capacity : ℕ} {expected received : Payload}
    {mismatch : Mismatch} (herror : checkReply capacity expected received = .error mismatch) :
    ∃ first, mismatch = ⟨expected.length, received.length, first⟩ ∧
      (first = none ↔ capacity < expected.length ∧ capacity < received.length) ∧
      ∀ offset, first = some offset → Payload.DifferAt expected received offset := by
  unfold checkReply at herror
  -- one case for each place at which the check can fail
  split_ifs at herror with hfits hlong
  · have hnot : ¬ capacity < expected.length := by omega
    cases hfirst : Payload.firstDifference? expected received with
    | none => rw [hfirst] at herror; cases herror
    | some offset =>
      rw [hfirst] at herror
      cases herror
      refine ⟨some offset, rfl, by simp [hnot], fun found hfound => ?_⟩
      rw [Option.some.inj hfound] at hfirst
      exact (Payload.firstDifference?_eq_some_iff _ _ _).mp hfirst
  · cases herror
    exact ⟨none, rfl, by simpa using ⟨by omega, hlong⟩, by simp⟩
  -- here the beginning of the expected reply was compared, which is as long as what came
  · have hnot : ¬ capacity < received.length := by omega
    cases hfirst : Payload.firstDifference? (expected.take received.length) received with
    | none => rw [hfirst] at herror; cases herror
    | some offset =>
      rw [hfirst] at herror
      cases herror
      refine ⟨some offset, rfl, by simp [hnot], fun found hfound => ?_⟩
      rw [Option.some.inj hfound] at hfirst
      have hdiffer := (Payload.firstDifference?_eq_some_iff _ _ _).mp hfirst
      exact Payload.differAt_of_take (by omega) hdiffer

/-- The check accepts a reply exactly if it equals an expected reply within the capacity, or fits
the capacity and begins an oversize one. Otherwise the failure names the index of the exchange, both
lengths, and the first difference, which is left out just where neither payload fits the capacity.
All of this takes no read beyond the end of a payload. -/
theorem checkReply_decides (index capacity : ℕ) (expected received : Payload) :
    let accepted := (expected.length ≤ capacity ∧ received = expected) ∨
      (capacity < expected.length ∧ received.length ≤ capacity ∧ received <+: expected)
    let judged (config : Client.Config) :=
      Client.judgeReply config index expected (.datagram received)
    (checkReply capacity expected received = .ok () ↔ accepted) ∧
    (accepted → ∀ config : Client.Config, config.bufferSize = capacity →
      judged config = .ok (some received.length)) ∧
    (¬ accepted → ∃ first,
      checkReply capacity expected received =
        .error ⟨expected.length, received.length, first⟩ ∧
      (∀ config : Client.Config, config.bufferSize = capacity → judged config =
        .error (.failure (.validation index ⟨expected.length, received.length, first⟩))) ∧
      (first = none ↔ capacity < expected.length ∧ capacity < received.length) ∧
      ∀ offset, first = some offset → Payload.DifferAt expected received offset) ∧
    readReply? capacity expected received = some (checkReply capacity expected received) := by
  intro accepted judged
  have hiff : checkReply capacity expected received = .ok () ↔ accepted :=
    checkReply_eq_ok_iff capacity expected received
  refine ⟨hiff, fun haccepted => ?_, fun hrefused => ?_, readReply?_eq _ _ _⟩
  · rintro config rfl
    simp only [judged, Client.judgeReply, hiff.mpr haccepted]
  · cases hcheck : checkReply capacity expected received with
    | ok => exact absurd (hiff.mp hcheck) hrefused
    | error mismatch =>
      obtain ⟨first, rfl, hnone, hsome⟩ := exists_of_checkReply_eq_error hcheck
      refine ⟨first, rfl, ?_, hnone, hsome⟩
      rintro config rfl
      simp only [judged, Client.judgeReply, hcheck]

end DatagramEcho
