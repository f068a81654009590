import Mathlib.Data.List.Basic
import Mathlib.Tactic.Ring

/-! Byte strings behind each other, each with its length in front. -/

namespace Framing

/-- The bytes of a number, least significant first. -/
def wordBytes : ℕ → ℕ → List UInt8
  | 0, _ => []
  | width + 1, value => UInt8.ofNat (value % 256) :: wordBytes width (value / 256)

/-- A number takes as many bytes as it is given. -/
@[simp] theorem length_wordBytes (width value : ℕ) : (wordBytes width value).length = width := by
  induction width generalizing value with
  | zero => rfl
  | succ width ih => rw [wordBytes, List.length_cons, ih]

/-- Numbers that fit are told apart by their bytes. -/
theorem wordBytes_inj {width left right : ℕ} (leftFits : left < 256 ^ width)
    (rightFits : right < 256 ^ width) (same : wordBytes width left = wordBytes width right) :
    left = right := by
  induction width generalizing left right with
  | zero =>
    rw [pow_zero, Nat.lt_one_iff] at leftFits rightFits
    rw [leftFits, rightFits]
  | succ width ih =>
    obtain ⟨low, high⟩ := List.cons.inj same
    -- The first byte is the remainder, and the other bytes are those of the quotient.
    have remainders : left % 256 = right % 256 := by
      have words := congrArg UInt8.toNat low
      rwa [UInt8.toNat_ofNat_of_lt' (Nat.mod_lt _ (by decide)),
        UInt8.toNat_ofNat_of_lt' (Nat.mod_lt _ (by decide))] at words
    have quotients : left / 256 = right / 256 := by
      refine ih ?_ ?_ high
      · exact Nat.div_lt_of_lt_mul (by rwa [pow_succ, mul_comm] at leftFits)
      · exact Nat.div_lt_of_lt_mul (by rwa [pow_succ, mul_comm] at rightFits)
    omega

/-- Bytes behind their length, which takes eight bytes. -/
def frame (bytes : List UInt8) : List UInt8 := wordBytes 8 bytes.length ++ bytes

/-- A frame is not empty. -/
theorem frame_ne_nil (bytes : List UInt8) : frame bytes ≠ [] := by
  intro empty
  have lengths := congrArg List.length empty
  simp [frame] at lengths

/-- A frame at the front is told apart from what follows it. -/
theorem frame_append_inj {left right leftRest rightRest : List UInt8}
    (leftFits : left.length < 2 ^ 64) (rightFits : right.length < 2 ^ 64)
    (same : frame left ++ leftRest = frame right ++ rightRest) :
    left = right ∧ leftRest = rightRest := by
  unfold frame at same
  rw [List.append_assoc, List.append_assoc] at same
  obtain ⟨words, bodies⟩ := List.append_inj same (by simp)
  exact List.append_inj bodies (wordBytes_inj leftFits rightFits words)

/-- Framed byte strings behind each other are told apart, whatever bytes they have. -/
theorem frames_inj {left right : List (List UInt8)} (leftFit : ∀ bytes ∈ left, bytes.length < 2 ^ 64)
    (rightFit : ∀ bytes ∈ right, bytes.length < 2 ^ 64)
    (same : left.flatMap frame = right.flatMap frame) : left = right := by
  -- No frame is empty, so both lists end together.
  induction left generalizing right with
  | nil =>
    cases right with
    | nil => rfl
    | cons other others =>
      rw [List.flatMap_nil, List.flatMap_cons] at same
      exact absurd (List.append_eq_nil_iff.mp same.symm).1 (frame_ne_nil other)
  | cons first rest ih =>
    cases right with
    | nil =>
      rw [List.flatMap_nil, List.flatMap_cons] at same
      exact absurd (List.append_eq_nil_iff.mp same).1 (frame_ne_nil first)
    | cons other others =>
      rw [List.flatMap_cons, List.flatMap_cons] at same
      obtain ⟨rfl, rests⟩ := frame_append_inj (leftFit first List.mem_cons_self)
        (rightFit other List.mem_cons_self) same
      rw [ih (fun bytes member => leftFit bytes (List.mem_cons_of_mem _ member))
        (fun bytes member => rightFit bytes (List.mem_cons_of_mem _ member)) rests]

end Framing
