/- GID: DroidOs/Core/Keys
   generality: I
   digest: When two keys of a dictionary are equal. -/

import DroidOs.Core.Values
import DroidOs.Lib.LooseKeys

set_option autoImplicit false
set_option relaxedAutoImplicit false

namespace DroidOs.Core.Keys

open DroidOs.Lib.LooseKeys
open Values

/-- `a == b` between keys. Truth values are the numbers 0 and 1. -/
def sameKey : PyVal → PyVal → Bool
  | .none, .none => true
  | .str s, .str t => s = t
  | a, b =>
    match a.number, b.number with
    | .ok x, .ok y => x.eq y
    | _, _ => false

private theorem eq_iff {x y : PyFloat} : x.eq y = true ↔ x = y ∧ x ≠ .nan := by
  cases x <;> simp [PyFloat.eq]

theorem sameKey_iff {a b : PyVal} : sameKey a b = true ↔ a = .none ∧ b = .none ∨ (∃ s, a = .str s ∧ b = .str s) ∨
    ∃ x, a.number = .ok x ∧ b.number = .ok x ∧ x ≠ .nan := by
  constructor
  · intro same
    unfold sameKey at same
    split at same
    · exact .inl ⟨rfl, rfl⟩
    · obtain rfl := of_decide_eq_true same
      exact .inr (.inl ⟨_, rfl, rfl⟩)
    · split at same
      · rename_i x y first second
        obtain ⟨rfl, some_number⟩ := eq_iff.mp same
        exact .inr (.inr ⟨_, first, second, some_number⟩)
      · cases same
  · rintro (⟨rfl, rfl⟩ | ⟨s, rfl, rfl⟩ | ⟨x, first, second, some_number⟩)
    · rfl
    · exact decide_eq_true rfl
    · unfold sameKey
      split
      · rfl
      · cases first
      · rw [first, second]
        exact eq_iff.mpr ⟨rfl, some_number⟩

theorem sameKey_compares : Comparison sameKey where
  symm := by
    intro a b same
    rcases sameKey_iff.mp same with ⟨rfl, rfl⟩ | ⟨s, rfl, rfl⟩ | ⟨x, first, second, some_number⟩
    · exact same
    · exact same
    · exact sameKey_iff.mpr (.inr (.inr ⟨x, second, first, some_number⟩))
  trans := by
    intro a b c same next
    rcases sameKey_iff.mp same with ⟨rfl, rfl⟩ | ⟨s, rfl, rfl⟩ | ⟨x, first, second, some_number⟩
    · exact next
    · exact next
    · rcases sameKey_iff.mp next with ⟨rfl, rfl⟩ | ⟨s, rfl, rfl⟩ | ⟨y, second', third, -⟩
      · exact same
      · exact same
      · rw [second] at second'
        cases second'
        exact sameKey_iff.mpr (.inr (.inr ⟨x, first, third, some_number⟩))

theorem sameKey_text {name : PyVal} {n : String} : sameKey name (.str n) = true ↔ name = .str n := by
  constructor
  · intro same
    rcases sameKey_iff.mp same with ⟨-, none_there⟩ | ⟨s, rfl, text⟩ | ⟨x, -, number, -⟩
    · cases none_there
    · exact text.symm
    · cases number
  · rintro rfl
    exact decide_eq_true rfl

end DroidOs.Core.Keys
