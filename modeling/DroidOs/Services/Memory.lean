/- GID: DroidOs/Services/Memory
   generality: I
   source: src/droidos/services/memory.py
   digest: Remembered entries, kept in memory and rewritten as a whole file on every change. -/

import DroidOs.Core.Values

set_option autoImplicit false
set_option relaxedAutoImplicit false

namespace DroidOs.Services.Memory

open DroidOs.Lib.Procedure
open DroidOs.Core.Values

/-- A state file as a service finds it: absent, unreadable or no JSON, not even text,
or what the service last wrote into it. -/
inductive StateFile (α : Type)
  | missing
  | broken
  | undecodable
  | document (content : α)

/-- What a service that starts with `default` holds once it has tried to load the file. -/
def StateFile.loaded {α : Type} (default : α) : StateFile α → α
  | document content => content
  | _ => default

/-- One entry, without its time stamp. -/
structure Entry where
  text : String
  category : String
  info : PyVal

/-- `entries` of one process, and memory.json. -/
structure MemoryStore where
  entries : List Entry := []
  file : StateFile (List Entry) := .missing

def allowedCategories : List String :=
  ["fact", "place", "preference", "person", "task", "maintenance", "summary"]

def forbiddenCategories : List String := ["safety", "limit", "authorization", "capability"]

variable (text : PyText)

/-- `_on_configure`. A file that is no text makes it raise. -/
def configure : Proc MemoryStore Exn Unit := do
  match ← reads MemoryStore.file with
  | .missing | .broken => pure ()
  | .undecodable => raise ⟨.other "UnicodeDecodeError", "'utf-8' codec can't decode byte"⟩
  | .document entries => modify fun s => { s with entries := entries }

/-- Replace the entries and write them all to the file. -/
def store (entries : List Entry) : Proc MemoryStore Exn Unit :=
  modify fun _ => { entries := entries, file := .document entries }

/-- `s.strip()`, for a value that may be no text. -/
def stripped (v : PyVal) : Except Exn String :=
  match v with
  | .str s => .ok (text.strip s)
  | _ => .error ⟨.attributeError, "object has no attribute 'strip'"⟩

/-- The entry that `remember` makes, if it accepts the category. -/
def newEntry (said : PyVal) (category : String) (info : PyVal) : Except Exn Entry := do
  let category := text.lower category
  if category ∈ forbiddenCategories then
    .error ⟨.droidError, "refusing to store " ++ text.repr (.str category) ++
      " in conversational memory; safety rules and hardware limits are not editable memory"⟩
  else
    let category := if category ∈ allowedCategories then category else "fact"
    return { text := ← stripped text said, category := category, info := info.orElse (.dict []) }

/-- `remember`. -/
def remember (said : PyVal) (category : String) (info : PyVal) : Proc MemoryStore Exn Entry := do
  let entry ← ofExcept (newEntry text said category info)
  let entries ← reads MemoryStore.entries
  store (entries ++ [entry])
  return entry

/-- `query.strip().lower()`. -/
def searched (query : PyVal) : Except Exn String := text.lower <$> stripped text query

/-- `q in e["text"].lower()`. -/
def Entry.contains (q : String) (e : Entry) : Bool := containsText q (text.lower e.text)

/-- `forget`: drop every entry that contains the query, and save if that drops any. -/
def forget (query : PyVal) : Proc MemoryStore Exn Nat := do
  let q ← ofExcept (searched text query)
  let entries ← reads MemoryStore.entries
  let kept := entries.filter fun e => !e.contains text q
  let removed := entries.length - kept.length
  modify fun s => { s with entries := kept }
  if removed ≠ 0 then store kept
  return removed

/-! What an operation leaves. -/

variable {text} {said info query : PyVal} {category : String}

theorem remember_run (m : MemoryStore) :
    (remember text said category info m).2 = match newEntry text said category info with
      | .ok entry => { entries := m.entries ++ [entry], file := .document (m.entries ++ [entry]) }
      | .error _ => m := by
  unfold remember
  rcases newEntry text said category info with e | entry <;> rfl

/-- Nothing is dropped exactly when no entry contains the query. -/
private theorem kept_length (q : String) (entries : List Entry) :
    entries.length - (entries.filter fun e => !e.contains text q).length = 0 ↔
      ∀ e ∈ entries, e.contains text q = false := by
  rw [Nat.sub_eq_zero_iff_le]
  constructor
  · intro long e member
    have all := (List.length_filter_eq_length_iff).mp
      (Nat.le_antisymm (List.length_filter_le _ entries) long) e member
    simpa using all
  · intro none
    rw [List.filter_eq_self.mpr fun e member => by simp [none e member]]

/-- Forgetting what no entry contains changes nothing. -/
theorem forget_nothing {m : MemoryStore}
    (absent : ∀ q, searched text query = .ok q → ∀ e ∈ m.entries, e.contains text q = false) :
    (forget text query m).2 = m := by
  unfold forget
  rcases asked : searched text query with e | q
  · rfl
  · have kept : (m.entries.filter fun e => !e.contains text q) = m.entries :=
      List.filter_eq_self.mpr fun e member => by simp [absent q asked e member]
    simp only [bind_run, ofExcept_run, reads_run, modify_run, kept, Nat.sub_self, ne_eq, not_true_eq_false,
      if_false, pure_run]

/-- Forgetting what some entry contains drops and saves. -/
theorem forget_some {m : MemoryStore} {q : String} (asked : searched text query = .ok q)
    {e : Entry} (member : e ∈ m.entries) (found : e.contains text q = true) :
    (forget text query m).2 =
      { entries := m.entries.filter fun e => !e.contains text q,
        file := .document (m.entries.filter fun e => !e.contains text q) } := by
  have dropped : m.entries.length - (m.entries.filter fun e => !e.contains text q).length ≠ 0 := by
    intro none
    have absent := (kept_length q m.entries).mp none e member
    simp [found] at absent
  unfold forget
  rw [asked]
  simp only [bind_run, ofExcept_run, reads_run, modify_run, ne_eq, dropped, not_false_eq_true, if_true]
  rfl

end DroidOs.Services.Memory
