/- GID: DroidOs/Lib/Ranking
   generality: G
   digest: A stable sort that puts the greatest first begins with the first of the greatest. -/

import Mathlib.Order.Lattice

set_option autoImplicit false
set_option relaxedAutoImplicit false

namespace DroidOs.Lib.Ranking

universe u v
variable {α : Type u} {κ : Type v} [LinearOrder κ] (key : α → κ)

/-- No key in the list is greater. -/
def Top (l : List α) (a : α) : Prop := ∀ b ∈ l, key b ≤ key a

instance (l : List α) : DecidablePred (Top key l) := fun a => inferInstanceAs (Decidable (∀ b ∈ l, key b ≤ key a))

variable {key} {l : List α}

private theorem mergeSort_agrees {le : α → α → Bool}
    (agrees : ∀ a ∈ l, ∀ b ∈ l, le a b = decide (key b ≤ key a)) :
    l.mergeSort le = l.mergeSort fun a b => decide (key b ≤ key a) := by
  have same : (l.mergeSort le).map id = (l.map id).mergeSort fun a b => decide (key b ≤ key a) :=
    List.map_mergeSort agrees
  rwa [List.map_id, List.map_id] at same

/-- The first of the sorted list is the first of the greatest. -/
theorem head_mergeSort {le : α → α → Bool} (agrees : ∀ a ∈ l, ∀ b ∈ l, le a b = decide (key b ≤ key a)) :
    (l.mergeSort le).head? = l.find? fun a => decide (Top key l a) := by
  rw [mergeSort_agrees agrees]
  have trans (a b c : α) (first : decide (key b ≤ key a) = true) (second : decide (key c ≤ key b) = true) :
      decide (key c ≤ key a) = true :=
    decide_eq_true (le_trans (of_decide_eq_true second) (of_decide_eq_true first))
  have total (a b : α) : (decide (key b ≤ key a) || decide (key a ≤ key b)) = true := by
    rw [Bool.or_eq_true, decide_eq_true_eq, decide_eq_true_eq]
    exact le_total (key b) (key a)
  have perm := List.mergeSort_perm l fun a b => decide (key b ≤ key a)
  have sorted := List.pairwise_mergeSort trans total l
  -- the greatest keep their order
  have tops : l.filter (fun a => decide (Top key l a)) =
      (l.mergeSort fun a b => decide (key b ≤ key a)).filter fun a => decide (Top key l a) := by
    have alike : (l.filter fun a => decide (Top key l a)).Pairwise fun a b => decide (key b ≤ key a) = true := by
      refine List.pairwise_iff_forall_sublist.mpr fun {a b} inside => decide_eq_true ?_
      have first := List.mem_filter.mp (inside.subset List.mem_cons_self)
      have second := List.mem_filter.mp (inside.subset (List.mem_cons_of_mem a List.mem_cons_self))
      exact of_decide_eq_true first.2 b second.1
    have kept := (List.sublist_mergeSort trans total alike List.filter_sublist).filter fun a => decide (Top key l a)
    rw [List.filter_filter] at kept
    simp only [Bool.and_self] at kept
    exact kept.eq_of_length (perm.filter _).length_eq.symm
  rw [← List.head?_filter, tops]
  rcases first : l.mergeSort fun a b => decide (key b ≤ key a) with _ | ⟨a, rest⟩
  · rfl
  · rw [first] at sorted perm
    have top : Top key l a := by
      intro b inside
      rcases List.mem_cons.mp (perm.mem_iff.mpr inside) with rfl | later
      · exact le_rfl
      · exact of_decide_eq_true ((List.pairwise_cons.mp sorted).1 b later)
    have kept : (a :: rest).filter (fun a => decide (Top key l a)) = a :: rest.filter fun a => decide (Top key l a) :=
      List.filter_cons_of_pos (decide_eq_true top)
    rw [kept]
    rfl

end DroidOs.Lib.Ranking
