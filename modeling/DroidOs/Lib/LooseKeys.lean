/- GID: DroidOs/Lib/LooseKeys
   generality: G
   digest: Dictionaries whose keys are compared by a partial equivalence, such as an equality of numbers. -/

import Mathlib.Data.List.Basic

set_option autoImplicit false
set_option relaxedAutoImplicit false

namespace DroidOs.Lib.LooseKeys

variable {κ α : Type} (same : κ → κ → Bool)

/-- `d.get(key)`. -/
def find (key : κ) (d : List (κ × α)) : Option α := (d.find? fun item => same item.1 key).map Prod.snd

/-- `d[key] = value`: the entry of an equal key gets the value and keeps its key. -/
def put (key : κ) (value : α) : List (κ × α) → List (κ × α)
  | [] => [(key, value)]
  | item :: rest => if same item.1 key then (item.1, value) :: rest else item :: put key value rest

/-- Equal keys can be exchanged, though a key need not equal itself. -/
structure Comparison : Prop where
  symm : ∀ a b, same a b = true → same b a = true
  trans : ∀ a b c, same a b = true → same b c = true → same a c = true

variable {same}

theorem Comparison.congr (compares : Comparison same) {a b : κ} (equal : same a b = true) (c : κ) :
    same a c = same b c := by
  rw [Bool.eq_iff_iff]
  exact ⟨compares.trans b a c (compares.symm a b equal), compares.trans a b c equal⟩

theorem find_cons (item : κ × α) (d : List (κ × α)) (key : κ) :
    find same key (item :: d) = if same item.1 key then some item.2 else find same key d := by
  unfold find
  rw [List.find?_cons]
  cases same item.1 key <;> rfl

theorem find_put (compares : Comparison same) (key : κ) (value : α) (d : List (κ × α)) (other : κ) :
    find same other (put same key value d) = if same key other then some value else find same other d := by
  induction d with
  | nil => rw [put, find_cons]
  | cons item rest ih =>
    rw [put]
    by_cases here : same item.1 key = true
    · rw [if_pos here, find_cons, find_cons, compares.congr here other]
      split_ifs <;> rfl
    rw [if_neg here, find_cons, find_cons, ih]
    by_cases equal : same key other = true
    · have apart : ¬ same item.1 other = true := by
        intro first
        exact here (compares.trans _ _ _ first (compares.symm _ _ equal))
      rw [if_pos equal, if_pos equal, if_neg apart]
    · rw [if_neg equal, if_neg equal]

end DroidOs.Lib.LooseKeys
