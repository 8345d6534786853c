/- GID: DroidOs/Lib/Acyclic
   generality: G
   digest: A relation without cycles over finitely many elements has a bounded rank. -/

import Mathlib.Data.Finset.Card
import Mathlib.Logic.Relation

set_option autoImplicit false
set_option relaxedAutoImplicit false

namespace DroidOs.Lib.Acyclic

open Relation

variable {α : Type*}

/-- No element leads back to itself. -/
def NoCycle (R : α → α → Prop) : Prop := ∀ a, ¬ TransGen R a a

theorem NoCycle.irrefl {R : α → α → Prop} (acyclic : NoCycle R) {a b : α} (step : R a b) :
    a ≠ b := by
  rintro rfl
  exact acyclic a (TransGen.single step)

/-- A measure that every step raises leaves no room for a cycle. -/
theorem noCycle_of_measure {R : α → α → Prop} (f : α → Nat) (raises : ∀ a b, R a b → f a < f b) :
    NoCycle R := by
  have along {a b : α} (path : TransGen R a b) : f a < f b := by
    induction path with
    | single step => exact raises _ _ step
    | tail _ step ih => exact ih.trans (raises _ _ step)
  exact fun a path => lt_irrefl _ (along path)

open Classical in
/-- How many elements of the carrier lead to `a`. -/
noncomputable def rank (R : α → α → Prop) (carrier : Finset α) (a : α) : Nat :=
  (carrier.filter fun b => TransGen R b a).card

theorem rank_lt {R : α → α → Prop} {carrier : Finset α} (acyclic : NoCycle R) {a b : α}
    (member : a ∈ carrier) (step : R a b) : rank R carrier a < rank R carrier b := by
  classical
  refine Finset.card_lt_card ((Finset.ssubset_iff_of_subset ?_).mpr ⟨a, ?_, ?_⟩)
  · intro c inside
    obtain ⟨old, path⟩ := Finset.mem_filter.mp inside
    exact Finset.mem_filter.mpr ⟨old, path.tail step⟩
  · exact Finset.mem_filter.mpr ⟨member, TransGen.single step⟩
  · intro inside
    exact acyclic a (Finset.mem_filter.mp inside).2

theorem rank_le (R : α → α → Prop) (carrier : Finset α) (a : α) :
    rank R carrier a ≤ carrier.card := by
  classical
  exact Finset.card_filter_le _ _

end DroidOs.Lib.Acyclic
