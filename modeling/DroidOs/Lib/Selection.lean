/- GID: DroidOs/Lib/Selection
   generality: G
   digest: The first of the wanted elements of a list, in the order of a key that falls. -/

import Mathlib.Order.Defs.LinearOrder
import Mathlib.Data.List.Nodup
import Mathlib.Data.List.Sort

set_option autoImplicit false
set_option relaxedAutoImplicit false

namespace DroidOs.Lib.Selection

universe u v
variable {α : Type u} {κ : Type v} [LinearOrder κ] {key : α → κ}

/-- A way to sort by the key, the greatest first; equal keys may come in any order. -/
structure Sorter (key : α → κ) where
  run : List α → List α
  perm (l : List α) : (run l).Perm l
  falling (l : List α) : (run l).Pairwise fun a b => key b ≤ key a

/-- The sort that inserts one element after the other. -/
def Sorter.inserting (key : α → κ) : Sorter key where
  run l := l.insertionSort fun a b => key b ≤ key a
  perm l := List.perm_insertionSort _ l
  falling l := by
    have total : Std.Total fun a b : α => key b ≤ key a := ⟨fun a b => le_total (key b) (key a)⟩
    have trans : IsTrans α fun a b => key b ≤ key a := ⟨fun a b c first second => le_trans second first⟩
    exact List.pairwise_insertionSort _ l

/-- At most so many elements; without a limit, all. -/
def cut (limit : Option Nat) (l : List α) : List α :=
  match limit with
  | none => l
  | some n => l.take n

theorem cut_sublist (limit : Option Nat) (l : List α) : (cut limit l).Sublist l := by
  cases limit with
  | none => exact List.Sublist.refl l
  | some n => exact List.take_sublist n l

variable (sorter : Sorter key) (wanted : α → Bool) (limit : Option Nat) (l : List α)

/-- The wanted elements, sorted, as far as the limit goes. -/
def select : List α := cut limit (sorter.run (l.filter wanted))

variable {sorter wanted limit l} {a b : α}

theorem mem_sorted : a ∈ sorter.run (l.filter wanted) ↔ a ∈ l ∧ wanted a = true := by
  rw [(sorter.perm (l.filter wanted)).mem_iff, List.mem_filter]

/-- Only wanted elements are selected. -/
theorem mem_of_select (selected : a ∈ select sorter wanted limit l) : a ∈ l ∧ wanted a = true :=
  mem_sorted.mp ((cut_sublist limit _).subset selected)

theorem select_falling : (select sorter wanted limit l).Pairwise fun a b => key b ≤ key a :=
  (sorter.falling _).sublist (cut_sublist limit _)

theorem select_nodup (nodup : l.Nodup) : (select sorter wanted limit l).Nodup :=
  ((sorter.perm _).nodup_iff.mpr (nodup.filter wanted)).sublist (cut_sublist limit _)

theorem length_select_le {n : Nat} : (select sorter wanted (some n) l).length ≤ n :=
  List.length_take_le n _

/-- A wanted element is left out only where the limit is used up by elements that do not come after it. -/
theorem selected_or_crowded (inside : a ∈ l) (matching : wanted a = true) :
    a ∈ select sorter wanted limit l ∨
      ∃ n, limit = some n ∧ (select sorter wanted limit l).length = n ∧
        ∀ b ∈ select sorter wanted limit l, key a ≤ key b := by
  have present : a ∈ sorter.run (l.filter wanted) := mem_sorted.mpr ⟨inside, matching⟩
  have falling := sorter.falling (l.filter wanted)
  cases limit with
  | none => exact .inl present
  | some n =>
    show a ∈ (sorter.run (l.filter wanted)).take n ∨ _
    generalize sorted : sorter.run (l.filter wanted) = ordered at present falling
    have split : ordered.take n ++ ordered.drop n = ordered := List.take_append_drop n ordered
    rw [← split] at present
    rcases List.mem_append.mp present with early | late
    · exact .inl early
    · have long : n ≤ ordered.length := by
        rcases Nat.lt_or_ge ordered.length n with short | long
        · rw [List.drop_eq_nil_of_le (Nat.le_of_lt short)] at late
          cases late
        · exact long
      refine .inr ⟨n, rfl, ?_, ?_⟩
      · show (cut (some n) (sorter.run (l.filter wanted))).length = n
        rw [sorted]
        exact List.length_take_of_le long
      · intro b chosen
        have chosen : b ∈ ordered.take n := by
          rw [← sorted]
          exact chosen
        rw [← split, List.pairwise_append] at falling
        exact falling.2.2 b chosen a late

end DroidOs.Lib.Selection
