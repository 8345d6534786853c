/- GID: DroidOs/Core/Numbers
   generality: I
   source: the comparisons and `round` of Python floats
   digest: Floats that are numbers are linearly ordered, and rounding keeps their order. -/

import DroidOs.Core.Values
import Mathlib.Order.WithBot
import Mathlib.Tactic.Linarith

set_option autoImplicit false
set_option relaxedAutoImplicit false

namespace DroidOs.Core.Values

namespace PyFloat

/-- The place of a number in the order of the extended line. -/
def rank : PyFloat → WithBot (WithTop ℚ)
  | nan => ⊥
  | inf true => ⊥
  | fin q => ((q : WithTop ℚ) : WithBot (WithTop ℚ))
  | inf false => ((⊤ : WithTop ℚ) : WithBot (WithTop ℚ))

/-! The bounds of finite numbers. -/

theorem max_fin (p q : ℚ) : max (.fin p) (.fin q) = .fin (Max.max p q) := by
  unfold max lt
  by_cases less : p < q
  · simp [less, max_eq_right less.le]
  · simp [less, max_eq_left (not_lt.mp less)]

theorem min_fin (p q : ℚ) : min (.fin p) (.fin q) = .fin (Min.min p q) := by
  unfold min lt
  by_cases less : q < p
  · simp [less, min_eq_right less.le]
  · simp [less, min_eq_left (not_lt.mp less)]

/-! The order. -/

variable {a b : PyFloat}

theorem lt_iff (number : a ≠ nan) (number' : b ≠ nan) : a.lt b = true ↔ a.rank < b.rank := by
  rcases a with _ | (_ | _) | p
  · exact absurd rfl number
  all_goals
    rcases b with _ | (_ | _) | q
    · exact absurd rfl number'
    all_goals simp [lt, rank]
  exact WithBot.coe_lt_coe.mpr (WithTop.coe_lt_top p)

theorem eq_iff (number : a ≠ nan) (number' : b ≠ nan) : a.eq b = true ↔ a.rank = b.rank := by
  rcases a with _ | (_ | _) | p
  · exact absurd rfl number
  all_goals
    rcases b with _ | (_ | _) | q
    · exact absurd rfl number'
    all_goals simp [eq, rank]

theorem le_iff (number : a ≠ nan) (number' : b ≠ nan) : a.le b = true ↔ a.rank ≤ b.rank := by
  rw [le, Bool.or_eq_true, lt_iff number number', eq_iff number number', le_iff_lt_or_eq]

/-- No comparison with NaN holds. -/
theorem le_number (holds : a.le b = true) : a ≠ nan ∧ b ≠ nan := by
  rcases a with _ | (_ | _) | p
  · simp [le, lt, eq] at holds
  all_goals
    rcases b with _ | (_ | _) | q
    · simp [le, lt, eq] at holds
    all_goals
      constructor
      all_goals
        intro same
        cases same

theorem lt_eq_not_le (number : a ≠ nan) (number' : b ≠ nan) : a.lt b = !b.le a := by
  rw [Bool.eq_iff_iff, lt_iff number number', Bool.not_eq_true', Bool.eq_false_iff, ne_eq,
    le_iff number' number, not_le]

theorem rank_injective (number : a ≠ nan) (number' : b ≠ nan) (same : a.rank = b.rank) : a = b := by
  have equal := (eq_iff number number').mpr same
  rcases a with _ | sign | p
  · exact absurd rfl number
  all_goals simpa [eq] using equal

theorem round_number (digits : Nat) (number : a ≠ nan) : a.round digits ≠ nan := by
  rcases a with _ | sign | p
  · exact absurd rfl number
  all_goals
    intro same
    cases same

private theorem halves_mono {p q : ℚ} (ordered : p ≤ q) :
    (if p - ⌊p⌋ < 1 / 2 ∨ (p - ⌊p⌋ = 1 / 2 ∧ ⌊p⌋ % 2 = 0) then ⌊p⌋ else ⌊p⌋ + 1) ≤
      if q - ⌊q⌋ < 1 / 2 ∨ (q - ⌊q⌋ = 1 / 2 ∧ ⌊q⌋ % 2 = 0) then ⌊q⌋ else ⌊q⌋ + 1 := by
  rcases (Int.floor_le_floor ordered).lt_or_eq with below | same
  · split <;> split <;> omega
  · rw [same]
    split
    case isTrue => split <;> omega
    case isFalse up =>
      rw [if_neg]
      rintro (less | ⟨half, even⟩)
      · exact up (.inl (by linarith))
      · rcases lt_or_eq_of_le (show p - ⌊q⌋ ≤ 1 / 2 by linarith) with less | equal
        · exact up (.inl less)
        · exact up (.inr ⟨equal, even⟩)

theorem round_mono (digits : Nat) (number : a ≠ nan) (number' : b ≠ nan) (ordered : a.rank ≤ b.rank) :
    (a.round digits).rank ≤ (b.round digits).rank := by
  rcases a with _ | (_ | _) | p
  · exact absurd rfl number
  all_goals
    rcases b with _ | (_ | _) | q
    · exact absurd rfl number'
    all_goals first
      | exact ordered
      | skip
  · simp [rank] at ordered
  · exact bot_le
  · simp [rank, round]
  · simp [rank] at ordered
  · have scaled : p * 10 ^ digits ≤ q * 10 ^ digits := by
      have below : p ≤ q := by simpa [rank] using ordered
      gcongr
    have whole := halves_mono scaled
    simp only [round, rank, WithBot.coe_le_coe, WithTop.coe_le_coe]
    gcongr

end PyFloat

end DroidOs.Core.Values
