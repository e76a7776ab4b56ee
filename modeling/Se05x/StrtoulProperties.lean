import Mathlib.Data.List.TakeWhile
import Se05x.Strtoul

/-!
# What counts as a numeral

`strtoul` reads a whole unsigned numeral exactly, up to the largest value of its type.
-/

set_option autoImplicit false

namespace Se05x

/-- An unsigned numeral, with nothing before or after it, and its value. -/
inductive Numeral : List Char → Nat → Prop where
  | decimal {first : Char} {digits : List Char} :
      first ≠ '0' → (∀ c ∈ first :: digits, isDigitIn 10 c) →
      Numeral (first :: digits) (numeral 10 (first :: digits))
  | hexadecimal {x first : Char} {digits : List Char} :
      x = 'x' ∨ x = 'X' → (∀ c ∈ first :: digits, isDigitIn 16 c) →
      Numeral ('0' :: x :: first :: digits) (numeral 16 (first :: digits))
  | octal {digits : List Char} :
      (∀ c ∈ '0' :: digits, isDigitIn 8 c) →
      Numeral ('0' :: digits) (numeral 8 ('0' :: digits))

namespace Numeral

variable {text : List Char} {value other : Nat}

/-- The prefix decides the base, and the rest are digits of it. -/
theorem read (whole : Numeral text value) :
    ∃ base digits, readBase text = (base, digits) ∧ (∀ c ∈ digits, isDigitIn base c) ∧
      value = numeral base digits := by
  cases whole with
  | @decimal first digits nonzero valid =>
      refine ⟨10, first :: digits, ?_, valid, rfl⟩
      unfold readBase
      split
      · rename_i same
        cases same
        exact absurd rfl nonzero
      · rename_i same
        cases same
        exact absurd rfl nonzero
      · rfl
  | @hexadecimal x first digits marked valid =>
      have digit := valid first List.mem_cons_self
      exact ⟨16, first :: digits, if_pos ⟨marked, digit⟩, valid, rfl⟩
  | @octal digits valid =>
      refine ⟨8, '0' :: digits, ?_, valid, rfl⟩
      cases digits with
      | nil => rfl
      | cons x rest =>
          cases rest with
          | nil => rfl
          | cons digit rest =>
              refine if_neg ?_
              intro hexadecimal
              have octal := valid x (by simp)
              obtain ⟨rfl | rfl, _⟩ := hexadecimal
              · exact absurd octal (by decide)
              · exact absurd octal (by decide)

theorem unique (first : Numeral text value) (second : Numeral text other) : value = other := by
  obtain ⟨_, _, split, _, rfl⟩ := first.read
  obtain ⟨_, _, again, _, rfl⟩ := second.read
  cases split.symm.trans again
  rfl

/-- A numeral begins with a decimal digit. -/
theorem starts (whole : Numeral text value) :
    ∃ first rest, text = first :: rest ∧ isDigitIn 10 first := by
  cases whole with
  | decimal _ valid => exact ⟨_, _, rfl, valid _ List.mem_cons_self⟩
  | hexadecimal | octal => exact ⟨_, _, rfl, by decide⟩

theorem plain (whole : Numeral text value) :
    text.dropWhile isSpace = text ∧ readSign text = (false, text) := by
  obtain ⟨first, rest, rfl, digit⟩ := whole.starts
  constructor
  · refine List.dropWhile_cons_of_neg ?_
    intro space
    have listed : first ∈ [' ', '\t', '\n', '\x0b', '\x0c', '\r'] := of_decide_eq_true space
    simp only [List.mem_cons, List.not_mem_nil, or_false] at listed
    obtain rfl | rfl | rfl | rfl | rfl | rfl := listed
    all_goals exact absurd digit (by decide)
  · unfold readSign
    split
    · rename_i same
      cases same
      exact absurd digit (by decide)
    · rename_i same
      cases same
      exact absurd digit (by decide)
    · rfl

end Numeral

/-- A numeral that does not fit saturates, every other one is read as its value. -/
theorem strtoul_numeral {target : Target} {text : String} {value : Nat}
    (whole : Numeral text.toList value) :
    strtoul target text = if 2 ^ target.wordBits ≤ value then 2 ^ target.wordBits - 1 else value := by
  obtain ⟨base, digits, split, valid, rfl⟩ := whole.read
  obtain ⟨unspaced, unsigned⟩ := whole.plain
  have all : digits.takeWhile (isDigitIn base) = digits :=
    List.takeWhile_eq_self_iff.mpr valid
  simp only [strtoul, unspaced, unsigned, split, all, Bool.false_eq_true, ↓reduceIte]

theorem strtoul_small {target : Target} {text : String} {value : Nat}
    (whole : Numeral text.toList value) (small : value < 2 ^ 32) : strtoul target text = value := by
  rw [strtoul_numeral whole]
  refine if_neg ?_
  have word : 2 ^ 32 ≤ 2 ^ target.wordBits := by cases target <;> decide
  omega

end Se05x
