/- GID: DroidOs/Lib/History
   generality: G
   digest: The past-time operator "since" over finite chronological histories. -/

import Mathlib.Data.List.Induction

set_option autoImplicit false
set_option relaxedAutoImplicit false

namespace DroidOs.Lib.History

variable {α : Type*}

/-- Some moment of the history satisfies `start`, judged together with its own
past, and no later moment satisfies `stop`. -/
def Since (start : List α → α → Prop) (stop : α → Prop) (h : List α) : Prop :=
  ∃ past x rest, h = past ++ x :: rest ∧ start past x ∧ ∀ y ∈ rest, ¬ stop y

/-- Some moment of the history satisfies `p`. -/
def Once (p : α → Prop) (h : List α) : Prop := ∃ x ∈ h, p x

/-- Every moment of the history, judged together with its own past, satisfies `p`. -/
def Throughout (p : List α → α → Prop) (h : List α) : Prop :=
  ∀ past x rest, h = past ++ x :: rest → p past x

@[simp] theorem since_nil (start : List α → α → Prop) (stop : α → Prop) :
    ¬ Since start stop [] := by
  rintro ⟨past, x, rest, split, _⟩
  simp at split

/-- One more moment either starts the interval afresh or must not stop it. -/
theorem since_snoc (start : List α → α → Prop) (stop : α → Prop) (h : List α) (x : α) :
    Since start stop (h ++ [x]) ↔ start h x ∨ (Since start stop h ∧ ¬ stop x) := by
  constructor
  · rintro ⟨past, y, rest, split, begins, quiet⟩
    rcases List.eq_nil_or_concat rest with rfl | ⟨front, last, rfl⟩
    · obtain ⟨rfl, tail⟩ := List.append_inj' split rfl
      obtain rfl := List.singleton_inj.mp tail
      exact Or.inl begins
    · have shape : h ++ [x] = (past ++ y :: front) ++ [last] := by
        simpa using split
      obtain ⟨rfl, tail⟩ := List.append_inj' shape rfl
      obtain rfl := List.singleton_inj.mp tail
      refine Or.inr ⟨⟨past, y, front, rfl, begins, ?_⟩, quiet x (by simp)⟩
      intro z member
      exact quiet z (by simp [member])
  · rintro (begins | ⟨⟨past, y, rest, rfl, begins, quiet⟩, continues⟩)
    · exact ⟨h, x, [], rfl, begins, by simp⟩
    · refine ⟨past, y, rest ++ [x], by simp, begins, ?_⟩
      intro z member
      rcases List.mem_append.mp member with inside | final
      · exact quiet z inside
      · obtain rfl := List.mem_singleton.mp final
        exact continues

@[simp] theorem once_nil (p : α → Prop) : ¬ Once p [] := by
  simp [Once]

theorem once_snoc (p : α → Prop) (h : List α) (x : α) :
    Once p (h ++ [x]) ↔ Once p h ∨ p x := by
  simp [Once, or_and_right, exists_or]

@[simp] theorem throughout_nil (p : List α → α → Prop) : Throughout p [] := by
  intro past x rest split
  simp at split

theorem throughout_initial {p : List α → α → Prop} {h rest : List α} (holds : Throughout p (h ++ rest)) :
    Throughout p h := by
  intro past x tail split
  exact holds past x (tail ++ rest) (by simp [split])

theorem throughout_snoc (p : List α → α → Prop) (h : List α) (x : α) :
    Throughout p (h ++ [x]) ↔ Throughout p h ∧ p h x := by
  constructor
  · intro holds
    refine ⟨throughout_initial holds, ?_⟩
    exact holds h x [] rfl
  · rintro ⟨holds, last⟩ past y rest split
    rcases List.eq_nil_or_concat rest with rfl | ⟨front, z, rfl⟩
    · obtain ⟨rfl, tail⟩ := List.append_inj' split rfl
      obtain rfl := List.singleton_inj.mp tail
      exact last
    · have shape : h ++ [x] = (past ++ y :: front) ++ [z] := by
        simpa using split
      exact holds past y front (List.append_inj' shape rfl).1

/-- What every step of a run finds holds of the whole run if it holds at the start and a
step that finds it leaves it. -/
theorem throughout_of_invariant {p : List α → α → Prop} {I : List α → Prop} (start : I [])
    (step : ∀ past x, I past → p past x → I (past ++ [x])) {h : List α} (holds : Throughout p h) :
    I h := by
  induction h using List.reverseRecOn with
  | nil => exact start
  | append_singleton past x ih =>
    obtain ⟨before, last⟩ := (throughout_snoc p past x).mp holds
    exact step past x (ih before) last

/-- Two ways to judge a moment agree on a run if they agree wherever the invariant holds
that each of them carries along. -/
theorem throughout_iff {p q : List α → α → Prop} {I : List α → Prop} (start : I [])
    (step : ∀ past x, I past → q past x → I (past ++ [x]))
    (agree : ∀ past x, I past → (p past x ↔ q past x)) (h : List α) :
    Throughout p h ↔ Throughout q h := by
  induction h using List.reverseRecOn with
  | nil => simp
  | append_singleton past x ih =>
    rw [throughout_snoc, throughout_snoc, ih]
    refine and_congr_right fun holds => agree past x ?_
    exact throughout_of_invariant start step holds

end DroidOs.Lib.History
