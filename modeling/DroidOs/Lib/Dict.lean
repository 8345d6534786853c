/- GID: DroidOs/Lib/Dict
   generality: G
   digest: Dictionaries that keep the order of insertion, as association lists. -/

import Mathlib.Data.List.Lookmap

set_option autoImplicit false
set_option relaxedAutoImplicit false

namespace DroidOs.Lib.Dict

variable {κ α : Type} [DecidableEq κ]

/-- `d.get(key)`. -/
def get (key : κ) (d : List (κ × α)) : Option α :=
  (d.find? fun item => item.1 = key).map Prod.snd

/-- `d[key] = value`: an entry in place keeps its place, a new one comes last. -/
def set (key : κ) (value : α) : List (κ × α) → List (κ × α)
  | [] => [(key, value)]
  | item :: rest => if item.1 = key then (key, value) :: rest else item :: set key value rest

/-- `del d[key]`. -/
def erase (key : κ) (d : List (κ × α)) : List (κ × α) := d.filter fun item => item.1 ≠ key

variable (key other : κ) (value : α) (d : List (κ × α))

@[simp] theorem get_nil : get key ([] : List (κ × α)) = none := rfl

theorem get_cons (item : κ × α) :
    get key (item :: d) = if item.1 = key then some item.2 else get key d := by
  unfold get
  by_cases here : item.1 = key <;> simp [here]

@[simp] theorem get_set_self : get key (set key value d) = some value := by
  induction d with
  | nil => simp [set, get_cons]
  | cons item rest ih =>
    unfold set
    by_cases here : item.1 = key
    · rw [if_pos here, get_cons, if_pos rfl]
    · rw [if_neg here, get_cons, if_neg here, ih]

theorem get_set_of_ne {key other : κ} (ne : other ≠ key) :
    get other (set key value d) = get other d := by
  induction d with
  | nil => simp [set, get_cons, ne.symm]
  | cons item rest ih =>
    unfold set
    by_cases here : item.1 = key
    · rw [if_pos here, get_cons, get_cons, if_neg ne.symm, if_neg (here ▸ ne.symm)]
    · rw [if_neg here, get_cons, get_cons, ih]

@[simp] theorem get_erase_self : get key (erase key d) = none := by
  simp [get, erase, List.find?_eq_none]

theorem get_erase_of_ne {key other : κ} (ne : other ≠ key) :
    get other (erase key d) = get other d := by
  unfold erase
  induction d with
  | nil => rfl
  | cons item rest ih =>
    by_cases here : item.1 = key
    · rw [List.filter_cons_of_neg (by simp [here]), get_cons, if_neg (here ▸ ne.symm), ih]
    · rw [List.filter_cons_of_pos (by simp [here]), get_cons, get_cons, ih]

theorem get_of_absent {key : κ} {d : List (κ × α)} (absent : key ∉ d.map Prod.fst) : get key d = none := by
  rw [get, Option.map_eq_none_iff, List.find?_eq_none]
  intro item inside
  simpa using fun same : item.1 = key => absent (List.mem_map.mpr ⟨item, inside, same⟩)

theorem mem_of_get {key : κ} {value : α} {d : List (κ × α)} (found : get key d = some value) : (key, value) ∈ d := by
  obtain ⟨item, first, rfl⟩ := Option.map_eq_some_iff.mp found
  obtain rfl : item.1 = key := by simpa using List.find?_some first
  exact List.mem_of_find?_eq_some first

/-- A new key comes last. -/
theorem set_of_absent {key : κ} {d : List (κ × α)} (absent : key ∉ d.map Prod.fst) (value : α) :
    set key value d = d ++ [(key, value)] := by
  induction d with
  | nil => rfl
  | cons item rest ih =>
    rw [List.map_cons, List.mem_cons, not_or] at absent
    rw [set, if_neg (Ne.symm absent.1), ih absent.2, List.cons_append]

theorem set_append_of_absent {key : κ} {front : List (κ × α)} (absent : key ∉ front.map Prod.fst)
    (value : α) (back : List (κ × α)) : set key value (front ++ back) = front ++ set key value back := by
  induction front with
  | nil => rfl
  | cons item front ih =>
    rw [List.map_cons, List.mem_cons, not_or] at absent
    rw [List.cons_append, set, if_neg (Ne.symm absent.1), ih absent.2, List.cons_append]

theorem mem_of_set {key : κ} {value : α} {d : List (κ × α)} {item : κ × α}
    (there : item ∈ set key value d) : item = (key, value) ∨ item ∈ d := by
  induction d with
  | nil => exact .inl (List.mem_singleton.mp there)
  | cons first d ih =>
    rw [set] at there
    split at there
    · rcases List.mem_cons.mp there with here | later
      · exact .inl here
      · exact .inr (List.mem_cons_of_mem first later)
    · rcases List.mem_cons.mp there with rfl | later
      · exact .inr List.mem_cons_self
      · exact (ih later).imp_right (List.mem_cons_of_mem first)

theorem keys_set : (set key value d).map Prod.fst =
    if key ∈ d.map Prod.fst then d.map Prod.fst else d.map Prod.fst ++ [key] := by
  induction d with
  | nil => simp [set]
  | cons item rest ih =>
    by_cases here : item.1 = key
    · simp [set, here]
    · rw [set, if_neg here, List.map_cons, List.map_cons, ih]
      by_cases there : key ∈ rest.map Prod.fst
      · rw [if_pos there, if_pos (List.mem_cons_of_mem _ there)]
      · rw [if_neg there, if_neg (by simpa [Ne.symm here] using there), List.cons_append]

/-- Distinct keys, of which those of `base` come first. -/
structure Extends (base d : List (κ × α)) : Prop where
  first : base.map Prod.fst <+: d.map Prod.fst
  distinct : (d.map Prod.fst).Nodup

variable {key value d}

theorem Extends.set {base : List (κ × α)} (extends_base : Extends base d) (key : κ) (value : α) :
    Extends base (set key value d) := by
  constructor
  · rw [keys_set]
    by_cases there : key ∈ d.map Prod.fst
    · rw [if_pos there]
      exact extends_base.first
    · rw [if_neg there]
      exact extends_base.first.trans (List.prefix_append _ _)
  · rw [keys_set]
    by_cases there : key ∈ d.map Prod.fst
    · rw [if_pos there]
      exact extends_base.distinct
    · rw [if_neg there]
      apply List.nodup_append.mpr ⟨extends_base.distinct, by simp, ?_⟩
      intro k listed other same
      rw [List.mem_singleton] at same
      rintro rfl
      exact there (same ▸ listed)

/-- `d.update(items)`. -/
def update (d items : List (κ × α)) : List (κ × α) :=
  items.foldl (fun merged item => Dict.set item.1 item.2 merged) d

theorem Extends.update {base : List (κ × α)} (extends_base : Extends base d) (items : List (κ × α)) :
    Extends base (update d items) := by
  induction items generalizing d with
  | nil => exact extends_base
  | cons item items ih => exact ih (extends_base.set item.1 item.2)

private theorem update_rest (done : List (κ × α)) {todo rest : List (κ × α)}
    (distinct : ((done ++ todo).map Prod.fst).Nodup) (first : rest.map Prod.fst <+: todo.map Prod.fst) :
    update (done ++ rest) todo = done ++ todo := by
  induction todo generalizing done rest with
  | nil =>
    rw [List.map_nil, List.prefix_nil, List.map_eq_nil_iff] at first
    rw [first]
    rfl
  | cons item todo ih =>
    have absent : item.1 ∉ done.map Prod.fst := by
      rw [List.map_append, List.nodup_append] at distinct
      intro there
      exact distinct.2.2 item.1 there item.1 (by simp) rfl
    have moved : ((done ++ [item]) ++ todo) = done ++ item :: todo := by simp
    have later {more : List (κ × α)} (listed : more.map Prod.fst <+: todo.map Prod.fst) :
        update ((done ++ [item]) ++ more) todo = done ++ item :: todo := by
      rw [ih (done ++ [item]) (moved ▸ distinct) listed, moved]
    have step : update (done ++ rest) (item :: todo) = update (done ++ set item.1 item.2 rest) todo := by
      rw [← set_append_of_absent absent]
      rfl
    rw [step]
    cases rest with
    | nil => simpa [set] using @later [] (by simp)
    | cons old rest =>
      rw [List.map_cons, List.map_cons, List.cons_prefix_cons] at first
      rw [set, if_pos first.1]
      simpa using later first.2

/-- New keys come last, in their order. -/
theorem update_of_distinct {d items : List (κ × α)} (distinct : ((d ++ items).map Prod.fst).Nodup) :
    update d items = d ++ items := by
  have none_first : ([] : List (κ × α)).map Prod.fst <+: items.map Prod.fst := List.nil_prefix
  rw [← update_rest d distinct none_first, List.append_nil]

/-- A dictionary is what its own entries make of the one it extends. -/
theorem Extends.update_self {base : List (κ × α)} (extends_base : Extends base d) : Dict.update base d = d :=
  update_rest [] extends_base.distinct extends_base.first

end DroidOs.Lib.Dict
