/- GID: DroidOs/Lib/Padded
   generality: G
   digest: Numbers in decimal fields of a fixed width, whose texts come in the order of the numbers. -/

import Mathlib.Order.Lattice
import Mathlib.Data.List.Lex
import Mathlib.Tactic.IntervalCases

set_option autoImplicit false
set_option relaxedAutoImplicit false

namespace DroidOs.Lib.Padded

/-- The decimal digit. -/
def digit (n : Nat) : Char := Char.ofNat (48 + n)

/-- The number in a field of so many decimal digits. -/
def padded : Nat → Nat → List Char
  | 0, _ => []
  | w + 1, n => digit (n / 10 ^ w) :: padded w (n % 10 ^ w)

theorem digit_lt {a b : Nat} (small : a < 10) (small' : b < 10) : digit a < digit b ↔ a < b := by
  interval_cases a <;> interval_cases b <;> decide

theorem digit_inj {a b : Nat} (small : a < 10) (small' : b < 10) : digit a = digit b ↔ a = b := by
  interval_cases a <;> interval_cases b <;> decide

theorem cons_lt_cons {a b : Char} {x y : List Char} : a :: x < b :: y ↔ a < b ∨ a = b ∧ x < y :=
  List.cons_lt_cons_iff

/-- Behind one element, the rests decide. -/
theorem cons_lt_cons_self {a : Char} {x y : List Char} : a :: x < a :: y ↔ x < y := by
  rw [cons_lt_cons]
  simp

/-- The numbers decide first, then what stands behind them. -/
theorem padded_append_lt {w n m : Nat} (fits : n < 10 ^ w) (fits' : m < 10 ^ w) (x y : List Char) :
    padded w n ++ x < padded w m ++ y ↔ n < m ∨ n = m ∧ x < y := by
  induction w generalizing n m with
  | zero =>
    obtain rfl : n = 0 := by omega
    obtain rfl : m = 0 := by omega
    simp [padded]
  | succ w ih =>
    have base : 0 < 10 ^ w := Nat.pow_pos (by omega)
    have lead : n / 10 ^ w < 10 := Nat.div_lt_of_lt_mul (by rwa [← pow_succ])
    have lead' : m / 10 ^ w < 10 := Nat.div_lt_of_lt_mul (by rwa [← pow_succ])
    have whole := Nat.div_add_mod n (10 ^ w)
    have whole' := Nat.div_add_mod m (10 ^ w)
    have rest := Nat.mod_lt n base
    have rest' := Nat.mod_lt m base
    rw [padded, padded, List.cons_append, List.cons_append, cons_lt_cons, digit_lt lead lead',
      digit_inj lead lead', ih rest rest']
    generalize n / 10 ^ w = q at *
    generalize m / 10 ^ w = q' at *
    generalize n % 10 ^ w = r at *
    generalize m % 10 ^ w = r' at *
    generalize 10 ^ w = b at *
    subst whole whole'
    rcases Nat.lt_trichotomy q q' with less | rfl | more
    · have step : b * (q + 1) ≤ b * q' := Nat.mul_le_mul_left b less
      have first : b * q + r < b * q' + r' := by rw [Nat.mul_add] at step; omega
      exact iff_of_true (.inl less) (.inl first)
    · simp
    · have step : b * (q' + 1) ≤ b * q := Nat.mul_le_mul_left b more
      have first : b * q' + r' < b * q + r := by rw [Nat.mul_add] at step; omega
      refine iff_of_false ?_ ?_
      · rintro (less | ⟨same, -⟩) <;> omega
      · rintro (less | ⟨same, -⟩) <;> omega

end DroidOs.Lib.Padded
