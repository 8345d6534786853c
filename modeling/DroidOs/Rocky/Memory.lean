/- GID: DroidOs/Rocky/Memory
   generality: I
   source: rocky/memory.py, rocky/memory_schema.sql
   digest: The table of memories: how an item is stored, with its time, and how items are searched. -/

import Mathlib.Data.String.Basic
import DroidOs.Core.Values
import DroidOs.Lib.Padded
import DroidOs.Lib.Selection
import DroidOs.Lib.Wildcards

set_option autoImplicit false
set_option relaxedAutoImplicit false

namespace DroidOs.Rocky.Memory

open DroidOs.Lib.Procedure DroidOs.Lib.Padded DroidOs.Lib.Selection DroidOs.Lib.Wildcards
open DroidOs.Core.Values

/-! Time. -/

/-- What a clock in UTC shows. -/
structure Moment where
  year : Nat
  month : Nat
  day : Nat
  hour : Nat
  minute : Nat
  second : Nat
  microsecond : Nat
  year_fits : year < 10 ^ 4
  month_fits : month < 10 ^ 2
  day_fits : day < 10 ^ 2
  hour_fits : hour < 10 ^ 2
  minute_fits : minute < 10 ^ 2
  second_fits : second < 10 ^ 2
  microsecond_fits : microsecond < 10 ^ 6

/-- The fields of a moment, the longest first. -/
def Moment.fields (m : Moment) : List Nat :=
  [m.year, m.month, m.day, m.hour, m.minute, m.second, m.microsecond]

/-- One moment is before another when the first field that differs is smaller. -/
instance : LT Moment := ⟨fun a b => a.fields < b.fields⟩

/-- The microseconds, which are left out when there are none, and the offset of UTC. -/
def fraction (microsecond : Nat) : List Char :=
  (if microsecond = 0 then [] else '.' :: padded 6 microsecond) ++ ['+', '0', '0', ':', '0', '0']

/-- `isoformat`, of a moment in UTC. -/
def Moment.isoformat (m : Moment) : String := String.ofList
  (padded 4 m.year ++ ('-' :: (padded 2 m.month ++ ('-' :: (padded 2 m.day ++ ('T' ::
    (padded 2 m.hour ++ (':' :: (padded 2 m.minute ++ (':' :: (padded 2 m.second ++
      fraction m.microsecond)))))))))))

private theorem fraction_lt {a b : Nat} (fits : a < 10 ^ 6) (fits' : b < 10 ^ 6) :
    fraction a < fraction b ↔ a < b := by
  have sooner (x y : List Char) : '+' :: x < '.' :: y := cons_lt_cons.mpr (.inl (by decide))
  have later (x y : List Char) : ¬ '.' :: x < '+' :: y := fun less =>
    (cons_lt_cons.mp less).elim (by decide) fun same => absurd same.1 (by decide)
  rcases Nat.eq_zero_or_pos a with rfl | some <;> rcases Nat.eq_zero_or_pos b with rfl | some'
  · exact iff_of_false (List.lt_irrefl _) (Nat.lt_irrefl 0)
  · rw [fraction, fraction, if_pos rfl, if_neg some'.ne']
    exact iff_of_true (sooner _ _) some'
  · rw [fraction, fraction, if_pos rfl, if_neg some.ne']
    exact iff_of_false (later _ _) (Nat.not_lt_zero a)
  · rw [fraction, fraction, if_neg some.ne', if_neg some'.ne', List.cons_append, List.cons_append,
      cons_lt_cons_self, padded_append_lt fits fits']
    exact or_iff_left fun same => List.lt_irrefl _ same.2

/-- Times that are written later come later. -/
theorem isoformat_lt (a b : Moment) : a.isoformat < b.isoformat ↔ a < b := by
  show _ ↔ a.fields < b.fields
  rw [Moment.isoformat, Moment.isoformat, String.lt_iff_toList_lt, String.toList_ofList, String.toList_ofList,
    padded_append_lt a.year_fits b.year_fits, cons_lt_cons_self,
    padded_append_lt a.month_fits b.month_fits, cons_lt_cons_self,
    padded_append_lt a.day_fits b.day_fits, cons_lt_cons_self,
    padded_append_lt a.hour_fits b.hour_fits, cons_lt_cons_self,
    padded_append_lt a.minute_fits b.minute_fits, cons_lt_cons_self,
    padded_append_lt a.second_fits b.second_fits, fraction_lt a.microsecond_fits b.microsecond_fits]
  simp only [Moment.fields, List.cons_lt_cons_iff, List.not_lt_nil, and_false, or_false]

/-! The table. -/

/-- A row of `memory_items`; the confidence is always the default. -/
structure Item where
  id : String
  kind : String
  content : String
  source : String
  sensitivity : String
  tagsJson : String
  createdAt : String
  updatedAt : String

/-- The table, once it has been created. -/
abbrev Table := Option (List Item)

def validKinds : List String :=
  ["fact", "preference", "project_note", "warning", "system_state", "command_history", "file_reference",
    "conversation_summary", "credential_reference"]

def operationalError (msg : String) : Exn := ⟨.other "OperationalError", msg⟩

/-- `init_db`, as far as it concerns this table. -/
def initDb : Proc Table Exn Unit := fun table => (.ok (), some (table.getD []))

/-- `json.dumps(tags or [])`. -/
def tagsText (dumps : PyVal → String) (tags : PyVal) : String := dumps (tags.orElse (.list []))

/-- `add`, with the hexadecimal digits that are drawn and the time that is read. -/
def add (dumps : PyVal → String) (hex : String) (now : Moment) (kind content : String) (tags : PyVal)
    (sensitivity source : String) : Proc Table Exn String := fun table =>
  if kind ∉ validKinds then
    (.error ⟨.valueError, "unknown memory kind '" ++ kind ++ "'; valid: ['command_history', " ++
      "'conversation_summary', 'credential_reference', 'fact', 'file_reference', 'preference', " ++
      "'project_note', 'system_state', 'warning']"⟩, table)
  else match table with
    | none => (.error (operationalError "no such table: memory_items"), table)
    | some items =>
      let id := "mem_" ++ hex
      if id ∈ items.map Item.id then
        (.error ⟨.other "IntegrityError", "UNIQUE constraint failed: memory_items.id"⟩, table)
      else (.ok id, some (items ++
        [⟨id, kind, content, source, sensitivity, tagsText dumps tags, now.isoformat, now.isoformat⟩]))

/-! Searching. -/

/-- `LIKE` reads a text up to its first NUL. -/
def cText (s : String) : List Char := s.toList.takeWhile fun c => c ≠ '\x00'

/-- Letters of ASCII count without their case. -/
def sameLetter (a b : Char) : Bool := a.toLower = b.toLower

/-- `f"%{query}%"`. -/
def patternText (query : String) : String := "%" ++ query ++ "%"

/-- `column LIKE ?`, for the pattern of a query. -/
def alike (query column : String) : Bool :=
  like sameLetter ((cText (patternText query)).map (place '%' '_')) (cText column)

/-- The condition of the query. -/
def Item.wanted (query : String) (item : Item) : Bool :=
  alike query item.content || alike query item.kind || alike query item.tagsJson

structure Row where
  id : String
  kind : String
  content : String
  sensitivity : String
  tagsJson : String
  createdAt : String

def Item.row (item : Item) : Row :=
  ⟨item.id, item.kind, item.content, item.sensitivity, item.tagsJson, item.createdAt⟩

/-- What `LIMIT` makes of its operand. -/
def limitOf (limit : Int) : Option Nat := if limit < 0 then none else some limit.toNat

/-- `search`. Rows of one time may come in any order. -/
def search (sorter : Sorter Item.createdAt) (query : String) (limit : Int) : Proc Table Exn (List Row) :=
  fun table => match table with
    | none => (.error (operationalError "no such table: memory_items"), table)
    | some items =>
      if limit < -2 ^ 63 ∨ 2 ^ 63 ≤ limit then
        (.error ⟨.other "OverflowError", "Python int too large to convert to SQLite INTEGER"⟩, table)
      else if items ≠ [] ∧ limit ≠ 0 ∧ 50000 < (patternText query).utf8ByteSize then
        (.error (operationalError "LIKE or GLOB pattern too complex"), table)
      else (.ok ((select sorter (Item.wanted query) (limitOf limit) items).map Item.row), table)

end DroidOs.Rocky.Memory
