/- GID: DroidOs/Rocky/MemorySearch
   generality: I
   source: rocky/memory.py, rocky/rockyctl
   digest: A search finds the newest of the memories that mention the query, whatever has been stored. -/

import Mathlib.Data.List.TakeWhile
import DroidOs.Rocky.Memory

set_option autoImplicit false
set_option relaxedAutoImplicit false

namespace DroidOs.Rocky.MemorySearch

open DroidOs.Lib.Procedure DroidOs.Lib.Selection DroidOs.Lib.Wildcards
open DroidOs.Core.Values
open DroidOs.Rocky.Memory

/-! What a query means. -/

/-- Characters without the case of their letters. -/
def lowered (l : List Char) : List Char := l.map Char.toLower

/-- The column has the query in it, case aside, before its first NUL. -/
def Mentions (query column : String) : Prop := lowered query.toList <:+: lowered (cText column)

/-- The query can be handed over whole. -/
def Whole (query : String) : Prop := '\x00' ∉ query.toList

/-- The query has no character that `LIKE` gives another meaning. -/
def Literal (query : String) : Prop := '%' ∉ query.toList ∧ '_' ∉ query.toList

private theorem lowered_eq_iff {a b : List Char} :
    lowered a = lowered b ↔ List.Forall₂ (fun c d => sameLetter c d = true) a b := by
  rw [lowered, lowered, ← List.forall₂_eq_eq_eq, List.forall₂_map_left_iff, List.forall₂_map_right_iff]
  simp only [sameLetter, decide_eq_true_eq]

private theorem mentions_iff {query column : String} :
    Mentions query column ↔ ∃ m, m <:+: cText column ∧ List.Forall₂ (fun c d => sameLetter c d = true) query.toList m := by
  constructor
  · rintro ⟨before, behind, parts⟩
    obtain ⟨front, rest, whole, first, rfl⟩ := List.map_eq_append_iff.mp parts.symm
    obtain ⟨left, m, rfl, -, same⟩ := List.map_eq_append_iff.mp first
    exact ⟨m, ⟨left, rest, whole.symm⟩, lowered_eq_iff.mp same.symm⟩
  · rintro ⟨m, inside, matched⟩
    rw [Mentions, lowered_eq_iff.mpr matched]
    exact inside.map Char.toLower

/-- The pattern of a whole query is the query between two runs. -/
private theorem places_eq {query : String} (whole : Whole query) :
    (cText (patternText query)).map (place '%' '_') =
      .run :: (query.toList.map (place '%' '_') ++ [.run]) := by
  have text : (patternText query).toList = '%' :: (query.toList ++ ['%']) := by
    rw [patternText, String.toList_append, String.toList_append]
    rfl
  have kept : cText (patternText query) = '%' :: (query.toList ++ ['%']) := by
    rw [cText, text, List.takeWhile_eq_self_iff]
    intro c inside
    rw [List.mem_cons, List.mem_append, List.mem_singleton] at inside
    rcases inside with rfl | inside | rfl
    · rfl
    · exact decide_eq_true fun zero => whole (zero ▸ inside)
    · rfl
  rw [kept, List.map_cons, List.map_append]
  rfl

/-- What mentions the query is found. -/
theorem alike_of_mentions {query column : String} (whole : Whole query) (told : Mentions query column) :
    alike query column = true := by
  obtain ⟨m, inside, matched⟩ := mentions_iff.mp told
  rw [alike, places_eq whole]
  exact like_within.mpr ⟨m, inside, like_of_forall₂ matched⟩

/-- Without wildcards, nothing else is found. -/
theorem mentions_of_alike {query column : String} (whole : Whole query) (literal : Literal query)
    (found : alike query column = true) : Mentions query column := by
  rw [alike, places_eq whole] at found
  obtain ⟨m, inside, matched⟩ := like_within.mp found
  have plain (c : Char) (here : c ∈ query.toList) : c ≠ '%' ∧ c ≠ '_' :=
    ⟨fun same => literal.1 (same ▸ here), fun same => literal.2 (same ▸ here)⟩
  exact mentions_iff.mpr ⟨m, inside, (like_plain plain).mp matched⟩

/-! Runs. -/

/-- A use of the memory. -/
inductive Use
  | creating
  | adding (hex : String) (now : Moment) (kind content : String) (tags : PyVal) (sensitivity source : String)
  | searching (query : String) (limit : Int)

/-- Something that has been stored at some time. -/
structure Memo where
  id : String
  kind : String
  content : String
  tags : PyVal
  sensitivity : String
  source : String
  moment : Moment

variable (dumps : PyVal → String) (sorter : Sorter Item.createdAt)

/-- The row of the table that a memory becomes. -/
def Memo.item (m : Memo) : Item :=
  ⟨m.id, m.kind, m.content, m.source, m.sensitivity, tagsText dumps m.tags, m.moment.isoformat, m.moment.isoformat⟩

/-- The query is mentioned in the content, the kind or the tags. -/
def Memo.Tells (query : String) (m : Memo) : Prop :=
  Mentions query m.content ∨ Mentions query m.kind ∨ Mentions query (tagsText dumps m.tags)

/-- The table after the use. -/
def Use.after (table : Table) : Use → Table
  | .creating => (initDb table).2
  | .adding hex now kind content tags sensitivity source =>
    (add dumps hex now kind content tags sensitivity source table).2
  | .searching query limit => (search sorter query limit table).2

/-- The memory that the use stores, if it does. -/
def Use.stored (table : Table) : Use → List Memo
  | .adding hex now kind content tags sensitivity source =>
    match (add dumps hex now kind content tags sensitivity source table).1 with
    | .ok id => [⟨id, kind, content, tags, sensitivity, source, now⟩]
    | .error _ => []
  | _ => []

def after (table : Table) (uses : List Use) : Table := uses.foldl (Use.after dumps sorter) table

/-- Everything that a run has stored, in its order. -/
def remembered (table : Table) : List Use → List Memo
  | [] => []
  | use :: uses => use.stored dumps table ++ remembered (use.after dumps sorter table) uses

/-- No two rows have one id. -/
def Keyed (table : Table) : Prop := ((table.getD []).map Item.id).Nodup

variable {dumps sorter}

private theorem search_keeps (query : String) (limit : Int) (table : Table) :
    (search sorter query limit table).2 = table := by
  cases table with
  | none => rfl
  | some items =>
    rw [search]
    split
    · rfl
    split <;> rfl

/-- A use adds at most its memory, under an id of its own. -/
private theorem after_step (use : Use) (table : Table) (keyed : Keyed table) :
    (use.after dumps sorter table).getD [] =
        table.getD [] ++ (use.stored dumps table).map (Memo.item dumps) ∧
      Keyed (use.after dumps sorter table) := by
  cases use with
  | creating =>
    have same : (Use.creating.after dumps sorter table).getD [] = table.getD [] := rfl
    refine ⟨?_, ?_⟩
    · rw [same]
      exact (List.append_nil _).symm
    · rw [Keyed, same]
      exact keyed
  | searching query limit =>
    have same : (Use.searching query limit).after dumps sorter table = table := search_keeps query limit table
    rw [same]
    exact ⟨(List.append_nil _).symm, keyed⟩
  | adding hex now kind content tags sensitivity source =>
    show ((add dumps hex now kind content tags sensitivity source table).2.getD [] = _ ∧ Keyed
      (add dumps hex now kind content tags sensitivity source table).2)
    rw [Use.stored]
    cases table with
    | none =>
      rw [add]
      split <;> exact ⟨rfl, keyed⟩
    | some items =>
      rw [add]
      split
      · exact ⟨(List.append_nil _).symm, keyed⟩
      dsimp only
      split
      · exact ⟨(List.append_nil _).symm, keyed⟩
      · rename_i fresh
        refine ⟨rfl, ?_⟩
        show ((items ++ [_]).map Item.id).Nodup
        rw [List.map_append]
        refine List.nodup_append.mpr ⟨keyed, List.nodup_singleton _, ?_⟩
        intro id old other new
        rw [List.map_singleton, List.mem_singleton] at new
        rintro rfl
        have same : id = "mem_" ++ hex := new
        exact fresh (same ▸ old)

/-- The table holds what it held and everything that the run has stored. -/
theorem after_run (uses : List Use) (table : Table) (keyed : Keyed table) :
    (after dumps sorter table uses).getD [] =
        table.getD [] ++ (remembered dumps sorter table uses).map (Memo.item dumps) ∧
      Keyed (after dumps sorter table uses) := by
  induction uses generalizing table with
  | nil => exact ⟨(List.append_nil _).symm, keyed⟩
  | cons use uses ih =>
    obtain ⟨step, keyed⟩ := after_step use table keyed
    obtain ⟨run, keyed⟩ := ih (use.after dumps sorter table) keyed
    refine ⟨?_, keyed⟩
    show (after dumps sorter (use.after dumps sorter table) uses).getD [] = _
    rw [run, step, remembered, List.map_append, List.append_assoc]

/-! Searches. -/

private theorem exists_map {α β : Type} {f : α → β} {s : List α} {l : List β} (inside : ∀ b ∈ l, b ∈ s.map f) :
    ∃ k : List α, l = k.map f ∧ ∀ a ∈ k, a ∈ s := by
  induction l with
  | nil => exact ⟨[], rfl, fun a none => absurd none List.not_mem_nil⟩
  | cons b l ih =>
    obtain ⟨a, member, rfl⟩ := List.mem_map.mp (inside b List.mem_cons_self)
    obtain ⟨k, rfl, members⟩ := ih fun c later => inside c (List.mem_cons_of_mem _ later)
    exact ⟨a :: k, rfl, List.forall_mem_cons.mpr ⟨member, members⟩⟩

private theorem search_returned {query : String} {limit : Int} {table : Table} {rows : List Row}
    (returned : (search sorter query limit table).1 = .ok rows) :
    rows = (select sorter (Item.wanted query) (limitOf limit) (table.getD [])).map Item.row := by
  cases table with
  | none => cases returned
  | some items =>
    rw [search] at returned
    split at returned
    · cases returned
    split at returned
    · cases returned
    · exact (Except.ok.inj returned).symm

private theorem wanted_iff {query : String} {item : Item} : item.wanted query = true ↔
    alike query item.content = true ∨ alike query item.kind = true ∨ alike query item.tagsJson = true := by
  rw [Item.wanted, Bool.or_eq_true, Bool.or_eq_true, or_assoc]

/-- A memory in which a whole query is mentioned is wanted. -/
private theorem wanted_of_tells {query : String} {m : Memo} (whole : Whole query) (tells : m.Tells dumps query) :
    (m.item dumps).wanted query = true := by
  rw [wanted_iff]
  rcases tells with content | kind | tags
  · exact .inl (alike_of_mentions whole content)
  · exact .inr (.inl (alike_of_mentions whole kind))
  · exact .inr (.inr (alike_of_mentions whole tags))

private theorem tells_of_wanted {query : String} {m : Memo} (whole : Whole query) (literal : Literal query)
    (wanted : (m.item dumps).wanted query = true) : m.Tells dumps query := by
  rcases wanted_iff.mp wanted with content | kind | tags
  · exact .inl (mentions_of_alike whole literal content)
  · exact .inr (.inl (mentions_of_alike whole literal kind))
  · exact .inr (.inr (mentions_of_alike whole literal tags))

private theorem limit_used {limit : Int} {n : Nat} (cut : limitOf limit = some n) : limit = n := by
  rw [limitOf] at cut
  split at cut
  · cases cut
  · have same := Option.some.inj cut
    omega

private def noon : Moment := by
  refine ⟨2024, 3, 1, 12, 0, 0, 0, ?_, ?_, ?_, ?_, ?_, ?_, ?_⟩ <;> decide

private def uses : List Use :=
  [.creating, .adding "0" noon "preference" "User wants direct answers." .none "normal" "user"]

private def shown : Row :=
  ⟨"mem_0", "preference", "User wants direct answers.", "normal", "[]", "2024-03-01T12:00:00+00:00"⟩

end DroidOs.Rocky.MemorySearch
