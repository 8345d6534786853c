/- GID: DroidOs/Lib/Wildcards
   generality: G
   digest: Patterns with places for any run and for any single element, and the lists that are like them. -/

import Mathlib.Data.List.Forall2
import Mathlib.Data.List.Infix

set_option autoImplicit false
set_option relaxedAutoImplicit false

namespace DroidOs.Lib.Wildcards

universe u
variable {α : Type u}

/-- A place of a pattern: for any run of elements, for any one element, or for one like this. -/
inductive Place (α : Type u)
  | run
  | single
  | lit (a : α)

variable (same : α → α → Bool)

/-- The list is like the pattern. -/
def like : List (Place α) → List α → Bool
  | [], as => as.isEmpty
  | .run :: ps, as => as.tails.any (like ps)
  | .single :: _, [] => false
  | .single :: ps, _ :: as => like ps as
  | .lit _ :: _, [] => false
  | .lit b :: ps, a :: as => same b a && like ps as

variable {same} {ps qs : List (Place α)} {as : List α}

theorem like_nil : like same [] as = true ↔ as = [] := List.isEmpty_iff

/-- A run takes in the beginning of the list, the rest of the pattern the rest of it. -/
theorem like_run : like same (.run :: ps) as = true ↔ ∃ l r, as = l ++ r ∧ like same ps r = true := by
  simp only [like, List.any_eq_true, List.mem_tails]
  constructor
  · rintro ⟨r, ⟨l, rfl⟩, holds⟩
    exact ⟨l, r, rfl, holds⟩
  · rintro ⟨l, r, rfl, holds⟩
    exact ⟨r, List.suffix_append l r, holds⟩

theorem like_single : like same (.single :: ps) as = true ↔ ∃ a r, as = a :: r ∧ like same ps r = true := by
  cases as with
  | nil => simp [like]
  | cons a as => simp [like]

theorem like_lit {b : α} :
    like same (.lit b :: ps) as = true ↔ ∃ a r, as = a :: r ∧ same b a = true ∧ like same ps r = true := by
  cases as with
  | nil => simp [like]
  | cons a as => simp [like]

/-- What is like one pattern after the other falls into a part for each. -/
theorem like_append : like same (ps ++ qs) as = true ↔
    ∃ l r, as = l ++ r ∧ like same ps l = true ∧ like same qs r = true := by
  induction ps generalizing as with
  | nil => simp [like_nil]
  | cons p ps ih =>
    rw [List.cons_append]
    cases p with
    | run =>
      rw [like_run]
      constructor
      · rintro ⟨l, r, rfl, holds⟩
        obtain ⟨l', r', rfl, first, second⟩ := ih.mp holds
        exact ⟨l ++ l', r', by rw [List.append_assoc], like_run.mpr ⟨l, l', rfl, first⟩, second⟩
      · rintro ⟨l, r, rfl, first, second⟩
        obtain ⟨l', l'', rfl, inner⟩ := like_run.mp first
        exact ⟨l', l'' ++ r, List.append_assoc l' l'' r, ih.mpr ⟨l'', r, rfl, inner, second⟩⟩
    | single =>
      rw [like_single]
      constructor
      · rintro ⟨a, r, rfl, holds⟩
        obtain ⟨l', r', rfl, first, second⟩ := ih.mp holds
        exact ⟨a :: l', r', rfl, like_single.mpr ⟨a, l', rfl, first⟩, second⟩
      · rintro ⟨l, r, rfl, first, second⟩
        obtain ⟨a, l', rfl, inner⟩ := like_single.mp first
        exact ⟨a, l' ++ r, rfl, ih.mpr ⟨l', r, rfl, inner, second⟩⟩
    | lit b =>
      rw [like_lit]
      constructor
      · rintro ⟨a, r, rfl, alike, holds⟩
        obtain ⟨l', r', rfl, first, second⟩ := ih.mp holds
        exact ⟨a :: l', r', rfl, like_lit.mpr ⟨a, l', rfl, alike, first⟩, second⟩
      · rintro ⟨l, r, rfl, first, second⟩
        obtain ⟨a, l', rfl, alike, inner⟩ := like_lit.mp first
        exact ⟨a, l' ++ r, rfl, alike, ih.mpr ⟨l', r, rfl, inner, second⟩⟩

/-- Between two runs, a pattern is looked for anywhere. -/
theorem like_within : like same (.run :: (ps ++ [.run])) as = true ↔ ∃ m, m <:+: as ∧ like same ps m = true := by
  rw [like_run]
  constructor
  · rintro ⟨l, r, rfl, holds⟩
    obtain ⟨m, r', rfl, found, -⟩ := like_append.mp holds
    exact ⟨m, ⟨l, r', by rw [List.append_assoc]⟩, found⟩
  · rintro ⟨m, ⟨l, r, rfl⟩, found⟩
    have rest : like same [.run] r = true := like_run.mpr ⟨r, [], (List.append_nil r).symm, rfl⟩
    exact ⟨l, m ++ r, List.append_assoc l m r, like_append.mpr ⟨m, r, rfl, found, rest⟩⟩

/-! Patterns that are written as lists. -/

variable [DecidableEq α] (any one : α)

/-- The place that an element of a written pattern stands for. -/
def place (a : α) : Place α := if a = any then .run else if a = one then .single else .lit a

variable {any one} {w : List α}

/-- Without wildcards, a pattern is a list up to the relation of its elements. -/
theorem like_plain (plain : ∀ a ∈ w, a ≠ any ∧ a ≠ one) :
    like same (w.map (place any one)) as = true ↔ List.Forall₂ (fun b a => same b a = true) w as := by
  induction w generalizing as with
  | nil => rw [List.map_nil, like_nil, List.forall₂_nil_left_iff]
  | cons b w ih =>
    obtain ⟨notAny, notOne⟩ := plain b List.mem_cons_self
    have literal : place any one b = .lit b := by rw [place, if_neg notAny, if_neg notOne]
    have rest (r : List α) := @ih r fun a inside => plain a (List.mem_cons_of_mem b inside)
    rw [List.map_cons, literal, like_lit, List.forall₂_cons_left_iff]
    constructor
    · rintro ⟨a, r, rfl, alike, holds⟩
      exact ⟨a, r, alike, (rest r).mp holds, rfl⟩
    · rintro ⟨a, r, alike, holds, rfl⟩
      exact ⟨a, r, rfl, alike, (rest r).mpr holds⟩

/-- Read as a pattern, a list is like every list that it matches element by element. -/
theorem like_of_forall₂ (matched : List.Forall₂ (fun b a => same b a = true) w as) :
    like same (w.map (place any one)) as = true := by
  induction matched with
  | nil => rfl
  | @cons b a w as alike _ ih =>
    rw [List.map_cons, place]
    split
    · exact like_run.mpr ⟨[a], as, rfl, ih⟩
    split
    · exact like_single.mpr ⟨a, as, rfl, ih⟩
    · exact like_lit.mpr ⟨a, as, rfl, alike, ih⟩

end DroidOs.Lib.Wildcards
