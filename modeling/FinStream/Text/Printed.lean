import Mathlib.Algebra.Order.Ring.Int

/-! Printed integers, and texts put together from parts with separators between them. -/

namespace Printed

/-- An integer in digits behind some zeros, with a minus sign in front when it is negative. -/
def written (zeros : ℕ) (value : ℤ) : List Char :=
  (if value < 0 then ['-'] else []) ++ (List.replicate zeros '0' ++ Nat.toDigits 10 value.natAbs)

/-- Pushed zeros are in front. -/
theorem toList_pushn (count : ℕ) : ("".pushn '0' count).toList = List.replicate count '0' := by
  rw [String.pushn_eq_repeat_push]
  induction count with
  | zero => rfl
  | succ count ih => rw [Nat.repeat, String.toList_push, ih, List.replicate_succ']

/-- The digits behind the sign are digits. -/
theorem isDigit_of_mem {zeros n : ℕ} {character : Char}
    (member : character ∈ List.replicate zeros '0' ++ Nat.toDigits 10 n) :
    character.isDigit = true := by
  rcases List.mem_append.mp member with zero | digit
  · rw [List.eq_of_mem_replicate zero]
    rfl
  · exact Nat.isDigit_of_mem_toDigits (by decide) (by decide) digit

/-- A printed integer has nothing but digits and a sign. -/
theorem plain_of_mem {zeros : ℕ} {value : ℤ} {character : Char}
    (member : character ∈ written zeros value) : character.isDigit = true ∨ character = '-' := by
  unfold written at member
  split at member
  · rcases List.mem_cons.mp member with sign | digit
    · exact Or.inr sign
    · exact Or.inl (isDigit_of_mem digit)
  · exact Or.inl (isDigit_of_mem member)

/-- A character that is neither a digit nor a sign is not in a printed integer. -/
theorem not_mem_written {character : Char} (other : character.isDigit = false)
    (unsigned : character ≠ '-') (zeros : ℕ) (value : ℤ) : character ∉ written zeros value := by
  intro member
  rcases plain_of_mem member with digit | sign
  · rw [other] at digit
    cases digit
  · exact unsigned sign

/-- Printed integers tell the integers apart, however many zeros are in front. -/
theorem written_inj {zeros others : ℕ} {left right : ℤ}
    (same : written zeros left = written others right) : left = right := by
  -- Behind equal signs, digits spell one number.
  have spelled : ∀ {m n : ℕ}, List.replicate zeros '0' ++ Nat.toDigits 10 m =
      List.replicate others '0' ++ Nat.toDigits 10 n → m = n := by
    intro m n digits
    have values := congrArg (Nat.ofDigitChars 10 · 0) digits
    simpa [Nat.ofDigitChars_append] using values
  -- A sign is no digit, so that it is on both sides or on none.
  have unsigned : ∀ {zeros n : ℕ} {rest : List Char},
      List.replicate zeros '0' ++ Nat.toDigits 10 n ≠ '-' :: rest := by
    intro zeros n rest digits
    have digit := isDigit_of_mem (digits ▸ List.mem_cons_self)
    cases digit
  unfold written at same
  split at same
  · split at same
    · have := spelled (List.cons.inj same).2
      omega
    · exact absurd same.symm unsigned
  · split at same
    · exact absurd same unsigned
    · have := spelled same
      omega

/-- An integer is printed without zeros in front. -/
theorem toList_toString (value : ℤ) : (toString value).toList = written 0 value := by
  rw [Int.toString_eq_repr, Int.repr_eq_if, written]
  by_cases negative : value < 0
  · have magnitude : (-value).toNat = value.natAbs := by omega
    rw [if_neg (by omega), if_pos negative, String.toList_append, Nat.toList_repr, magnitude]
    rfl
  · have magnitude : value.toNat = value.natAbs := by omega
    rw [if_pos (by omega), if_neg negative, Nat.toList_repr, magnitude]
    rfl

/-! ### Hexadecimal digits -/

/-- The last hexadecimal digits of a number, in a given width. -/
def hexDigits : ℕ → ℕ → List Char
  | 0, _ => []
  | width + 1, value => hexDigits width (value / 16) ++ [Nat.digitChar (value % 16)]

/-- Hexadecimal digits tell numbers of their width apart. -/
theorem hexDigits_inj {width left right : ℕ} (leftFits : left < 16 ^ width)
    (rightFits : right < 16 ^ width) (same : hexDigits width left = hexDigits width right) :
    left = right := by
  -- One digit has sixteen different characters.
  have digits : ∀ first second : Fin 16,
      Nat.digitChar first = Nat.digitChar second → first = second := by decide
  induction width generalizing left right with
  | zero =>
    rw [pow_zero, Nat.lt_one_iff] at leftFits rightFits
    rw [leftFits, rightFits]
  | succ width ih =>
    obtain ⟨fronts, lasts⟩ := List.append_inj' same rfl
    have quotients : left / 16 = right / 16 := by
      refine ih ?_ ?_ fronts
      · exact Nat.div_lt_of_lt_mul (by rwa [pow_succ, mul_comm] at leftFits)
      · exact Nat.div_lt_of_lt_mul (by rwa [pow_succ, mul_comm] at rightFits)
    have remainders := digits ⟨left % 16, Nat.mod_lt _ (by decide)⟩
      ⟨right % 16, Nat.mod_lt _ (by decide)⟩ (List.singleton_inj.mp lasts)
    have := congrArg Fin.val remainders
    dsimp only at this
    omega

/-! ### Separators -/

/-- A text starts as its first part does. -/
theorem head?_append {front : String} {first : Char} (starts : front.toList.head? = some first)
    (rest : String) : (front ++ rest).toList.head? = some first := by
  rw [String.toList_append, List.head?_append, starts, Option.some_or]

section Separators

variable {α : Type*} {separator : α}

/-- Texts are split alike at their first separators. -/
theorem splitFirst_inj {front others back rest : List α} (first : separator ∉ front)
    (second : separator ∉ others)
    (same : front ++ separator :: back = others ++ separator :: rest) :
    front = others ∧ back = rest := by
  -- The fronts are taken apart together; neither can end before the other.
  induction front generalizing others with
  | nil =>
    cases others with
    | nil => exact ⟨rfl, (List.cons.inj same).2⟩
    | cons other others =>
      exact absurd ((List.cons.inj same).1 ▸ List.mem_cons_self) second
  | cons next front ih =>
    cases others with
    | nil => exact absurd ((List.cons.inj same).1 ▸ List.mem_cons_self) first
    | cons other others =>
      obtain ⟨rfl, tails⟩ := List.cons.inj same
      obtain ⟨rfl, rfl⟩ := ih (List.not_mem_of_not_mem_cons first)
        (List.not_mem_of_not_mem_cons second) tails
      exact ⟨rfl, rfl⟩

/-- Texts are split alike at their last separators. -/
theorem splitLast_inj {front others back rest : List α} (first : separator ∉ back)
    (second : separator ∉ rest)
    (same : front ++ separator :: back = others ++ separator :: rest) :
    front = others ∧ back = rest := by
  have reversed := congrArg List.reverse same
  simp only [List.reverse_append, List.reverse_cons, List.append_assoc, List.singleton_append]
    at reversed
  obtain ⟨backs, fronts⟩ := splitFirst_inj (mt List.mem_reverse.mp first)
    (mt List.mem_reverse.mp second) reversed
  exact ⟨List.reverse_inj.mp fronts, List.reverse_inj.mp backs⟩

end Separators

end Printed
