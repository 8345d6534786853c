/- GID: DroidOs/Util/Sources
   generality: I
   source: src/droidos/util/miniyaml.py
   digest: The parser with the numbers of the lines that each part of the value comes from. -/

import DroidOs.Util.LineRoles

set_option autoImplicit false
set_option relaxedAutoImplicit false

namespace DroidOs.Util.Sources

open DroidOs.Lib DroidOs.Core.Values DroidOs.Util.Characters DroidOs.Util.MiniYaml
  DroidOs.Util.LineRoles

/-- A line with its number in the document. -/
abbrev Numbered := ℕ × Line

/-- A value with the numbers of the lines that it comes from. -/
structure Sourced where
  value : PyVal
  lines : List ℕ

abbrev SourcedEntries := List (String × Sourced)

def plainLines (lines : List Numbered) : List Line := lines.map Prod.snd

def numbersOf (lines : List Numbered) : List ℕ := lines.map Prod.fst

def entryValues (entries : SourcedEntries) : Entries := entries.map fun e => (e.1, e.2.value)

def entryLines (entries : SourcedEntries) : List ℕ := entries.flatMap fun e => e.2.lines

def itemValues (items : List Sourced) : List PyVal := items.map Sourced.value

def itemLines (items : List Sourced) : List ℕ := items.flatMap Sourced.lines

def sourcedMapping (entries : SourcedEntries) : Sourced :=
  ⟨mapping (entryValues entries), entryLines entries⟩

def sourcedList (items : List Sourced) : Sourced := ⟨.list (itemValues items), itemLines items⟩

def deeperOf (indent : ℕ) (lines : List Numbered) : List Numbered :=
  lines.takeWhile fun line => indent < line.2.1

def shallowerOf (indent : ℕ) (lines : List Numbered) : List Numbered :=
  lines.dropWhile fun line => indent < line.2.1

variable (text : YamlText)

/-- The value of an entry and the lines below it; `block` reads a nested block. -/
def traceEntry (block : List Numbered → ℕ → Option (Sourced × List Numbered)) (lines : List Numbered)
    (indent : ℕ) (entry : List Char) : Option (Sourced × List Numbered) :=
  match blockScalarKind (restOf entry) with
  | some kind => some
    (⟨.str (String.ofList (parseBlockScalar (plainLines lines) indent kind).1),
      numbersOf (deeperOf indent lines)⟩, shallowerOf indent lines)
  | none =>
    if restOf entry = [] then
      match lines.head? with
      | some child =>
        if indent < child.2.1 then block lines child.2.1 else some (⟨.none, []⟩, lines)
      | none => some (⟨.none, []⟩, lines)
    else some (⟨scalar text (restOf entry), []⟩, lines)

mutual

/-- `_parse_block` with sources; a parse that raises has none. -/
def traceBlock : ℕ → List Numbered → ℕ → Option (Sourced × List Numbered)
  | 0, _, _ => none
  | fuel + 1, lines, indent =>
    if lines.head?.any fun line => isItem line.2.2 then do
      let (items, rest) ← traceList fuel lines indent []
      return (sourcedList items, rest)
    else do
      let (entries, rest) ← traceMap fuel lines indent []
      return (sourcedMapping entries, rest)

/-- `_parse_map`. An entry that is set again loses its sources with its value. -/
def traceMap : ℕ → List Numbered → ℕ → SourcedEntries → Option (SourcedEntries × List Numbered)
  | 0, _, _, _ => none
  | _ + 1, [], _, result => some (result, [])
  | fuel + 1, (number, current, content) :: lines, indent, result =>
    if current < indent then some (result, (number, current, content) :: lines)
    else if current ≠ indent ∨ isEntry content = false then none
    else do
      let (read, below) ← traceEntry text (traceBlock fuel) lines indent content
      traceMap fuel below indent (Dict.set (keyOf content) ⟨read.value, number :: read.lines⟩ result)

/-- `_parse_list`. What an item's mapping leaves of the deeper lines is dropped. -/
def traceList : ℕ → List Numbered → ℕ → List Sourced → Option (List Sourced × List Numbered)
  | 0, _, _, _ => none
  | _ + 1, [], _, result => some (result, [])
  | fuel + 1, (number, current, content) :: lines, indent, result =>
    if current < indent ∨ (isItem content = false ∧ current = indent) then
      some (result, (number, current, content) :: lines)
    else if current ≠ indent then none
    else if startsEntry (itemText content) then do
      let (entries, _) ← traceMap fuel
        ((number, indent + 2, itemText content) :: deeperOf indent lines) (indent + 2) []
      traceList fuel (shallowerOf indent lines) indent (result ++ [sourcedMapping entries])
    else traceList fuel lines indent (result ++ [⟨scalar text (itemText content), [number]⟩])

end

/-- The lines of a document that are left once comments, blank lines and marks are gone. -/
def numberedLines (document : List Char) : List Numbered :=
  (splitlines document).zipIdx.filterMap fun raw => (cleanLine raw.1).map fun line => (raw.2, line)

/-- The value of a document with its sources. -/
def trace (document : List Char) : Option Sourced :=
  match numberedLines document with
  | [] => some ⟨.none, []⟩
  | line :: lines => do
    let (read, rest) ← traceBlock text (3 * (line :: lines).length + 3) (line :: lines) line.2.1
    if rest.isEmpty then some read else none

/-! The sources leave the parse as it is. -/

variable {text}

@[simp] theorem plainLines_cons (line : Numbered) (lines : List Numbered) :
    plainLines (line :: lines) = line.2 :: plainLines lines := rfl

theorem plainLines_deeperOf (indent : ℕ) (lines : List Numbered) :
    plainLines (deeperOf indent lines) = deeper indent (plainLines lines) := by
  unfold plainLines deeperOf deeper
  rw [List.takeWhile_map]
  rfl

theorem plainLines_shallowerOf (indent : ℕ) (lines : List Numbered) :
    plainLines (shallowerOf indent lines) = shallower indent (plainLines lines) := by
  unfold plainLines shallowerOf shallower
  rw [List.dropWhile_map]
  rfl

theorem head_plainLines (lines : List Numbered) :
    (plainLines lines).head? = lines.head?.map Prod.snd := List.head?_map

theorem entryValues_set (key : String) (read : Sourced) (entries : SourcedEntries) :
    entryValues (Dict.set key read entries) = Dict.set key read.value (entryValues entries) := by
  induction entries with
  | nil => rfl
  | cons entry entries ih =>
    unfold entryValues at ih ⊢
    rw [Dict.set, List.map_cons, Dict.set]
    split
    · rfl
    · rw [List.map_cons, ih]

/-- A parse that returns has a trace with the same value and the same lines left. -/
structure Traced (text : YamlText) (fuel : ℕ) : Prop where
  block : ∀ lines {indent value rest},
    parseBlock text fuel (plainLines lines) indent = .ok (value, rest) →
      ∃ read rest', traceBlock text fuel lines indent = some (read, rest') ∧ read.value = value ∧
        plainLines rest' = rest
  map : ∀ lines result {indent entries rest},
    parseMap text fuel (plainLines lines) indent (entryValues result) = .ok (entries, rest) →
      ∃ entries' rest', traceMap text fuel lines indent result = some (entries', rest') ∧
        entryValues entries' = entries ∧ plainLines rest' = rest
  list : ∀ lines result {indent items rest},
    parseList text fuel (plainLines lines) indent (itemValues result) = .ok (items, rest) →
      ∃ items' rest', traceList text fuel lines indent result = some (items', rest') ∧
        itemValues items' = items ∧ plainLines rest' = rest

private theorem traced_entry {fuel indent : ℕ} {lines : List Numbered} {entry : List Char}
    {value : PyVal} {below : List Line} (traced : Traced text fuel)
    (reads : EntryReads text fuel (plainLines lines) indent entry value below) :
    ∃ read below', traceEntry text (traceBlock text fuel) lines indent entry = some (read, below') ∧
      read.value = value ∧ plainLines below' = below := by
  unfold traceEntry
  cases reads with
  | block kind header =>
    rw [header]
    exact ⟨_, _, rfl, rfl, plainLines_shallowerOf indent lines⟩
  | nested child value below empty first deep reads =>
    rw [empty, blockScalarKind_nil]
    rw [head_plainLines] at first
    obtain ⟨line, at_head, rfl⟩ := Option.map_eq_some_iff.mp first
    simp only [if_true, at_head, if_pos deep]
    exact traced.block _ reads
  | bare empty flat =>
    rw [empty, blockScalarKind_nil]
    rw [head_plainLines] at flat
    refine ⟨⟨.none, []⟩, lines, ?_, rfl, rfl⟩
    cases at_head : lines.head? with
    | none => rfl
    | some line =>
      rw [at_head] at flat
      simp only [if_true, if_neg (flat line.2 rfl)]
  | plain no_header some_rest =>
    rw [no_header]
    simp only [if_neg some_rest]
    exact ⟨_, _, rfl, rfl, rfl⟩

private theorem traced_map {fuel indent : ℕ} {lines : List Numbered} {result : SourcedEntries}
    {entries : Entries} {rest : List Line} (traced : Traced text fuel)
    (parsed : parseMap text (fuel + 1) (plainLines lines) indent (entryValues result) =
      .ok (entries, rest)) :
    ∃ entries' rest', traceMap text (fuel + 1) lines indent result = some (entries', rest') ∧
      entryValues entries' = entries ∧ plainLines rest' = rest := by
  rcases parseMap_cases parsed with ⟨rfl, rfl, stops⟩ |
    ⟨content, below, value, after, first, is_entry, reads, parsed_after⟩
  · refine ⟨result, lines, ?_, rfl, rfl⟩
    rcases lines with - | ⟨⟨number, current, content⟩, lines⟩
    · rfl
    · rw [traceMap, if_pos (stops _ rfl)]
  rcases lines with - | ⟨⟨number, current, content'⟩, lines⟩
  · exact nomatch first
  simp only [plainLines_cons, List.cons.injEq, Prod.mk.injEq] at first
  obtain ⟨⟨rfl, rfl⟩, rfl⟩ := first
  obtain ⟨read, below', traced_read, rfl, rfl⟩ := traced_entry traced reads
  rw [← entryValues_set (keyOf content') ⟨read.value, number :: read.lines⟩] at parsed_after
  rw [traceMap, if_neg (Nat.lt_irrefl _), if_neg (by simp [is_entry]), traced_read]
  exact traced.map _ _ parsed_after

private theorem traced_list {fuel indent : ℕ} {lines : List Numbered} {result : List Sourced}
    {items : List PyVal} {rest : List Line} (traced : Traced text fuel)
    (parsed : parseList text (fuel + 1) (plainLines lines) indent (itemValues result) =
      .ok (items, rest)) :
    ∃ items' rest', traceList text (fuel + 1) lines indent result = some (items', rest') ∧
      itemValues items' = items ∧ plainLines rest' = rest := by
  rcases parseList_cases parsed with ⟨rfl, rfl, stops⟩ | ⟨content, below, first, item, ways⟩
  · refine ⟨result, lines, ?_, rfl, rfl⟩
    rcases lines with - | ⟨⟨number, current, content⟩, lines⟩
    · rfl
    · rw [traceList, if_pos (stops _ rfl)]
  rcases lines with - | ⟨⟨number, current, content'⟩, lines⟩
  · exact nomatch first
  simp only [plainLines_cons, List.cons.injEq, Prod.mk.injEq] at first
  obtain ⟨⟨rfl, rfl⟩, rfl⟩ := first
  rw [traceList, if_neg (by simp [item]), if_neg (not_not.mpr rfl)]
  have added (read : Sourced) : itemValues (result ++ [read]) = itemValues result ++ [read.value] := by
    simp [itemValues]
  rcases ways with ⟨starts, entries, left, reads, parsed_after⟩ | ⟨plain, parsed_after⟩
  · rw [← plainLines_deeperOf] at reads
    obtain ⟨entries', left', traced_read, rfl, -⟩ := traced.map
      ((number, current + 2, itemText content') :: deeperOf current lines) [] reads
    rw [if_pos starts, traced_read]
    rw [← plainLines_shallowerOf] at parsed_after
    apply traced.list
    rw [added]
    exact parsed_after
  · rw [if_neg (by simp [plain])]
    apply traced.list
    rw [added]
    exact parsed_after

private theorem traced_block {fuel indent : ℕ} {lines : List Numbered} {value : PyVal}
    {rest : List Line} (traced : Traced text fuel)
    (parsed : parseBlock text (fuel + 1) (plainLines lines) indent = .ok (value, rest)) :
    ∃ read rest', traceBlock text (fuel + 1) lines indent = some (read, rest') ∧
      read.value = value ∧ plainLines rest' = rest := by
  rw [traceBlock]
  rcases parseBlock_cases parsed with ⟨⟨line, first, item⟩, items, rfl, reads⟩ |
    ⟨no_item, entries, rfl, reads⟩
  · rw [head_plainLines] at first
    obtain ⟨line', at_head, rfl⟩ := Option.map_eq_some_iff.mp first
    obtain ⟨items', rest', traced_read, rfl, rfl⟩ := traced.list _ [] reads
    have some_item : (lines.head?.any fun line => isItem line.2.2) = true := by
      rw [at_head]
      exact item
    rw [if_pos some_item, traced_read]
    exact ⟨_, _, rfl, rfl, rfl⟩
  · obtain ⟨entries', rest', traced_read, rfl, rfl⟩ := traced.map _ [] reads
    rw [head_plainLines] at no_item
    have plain : ¬ (lines.head?.any fun line => isItem line.2.2) = true := by
      rw [Option.any_eq_true]
      rintro ⟨line, first, item⟩
      rw [Option.mem_def.mp first] at no_item
      rw [no_item line.2 rfl] at item
      exact nomatch item
    rw [if_neg plain, traced_read]
    exact ⟨_, _, rfl, rfl, rfl⟩

theorem traced (text : YamlText) (fuel : ℕ) : Traced text fuel := by
  induction fuel with
  | zero =>
    constructor
    · intro _ _ _ _ parsed
      exact nomatch parsed
    · intro _ _ _ _ _ parsed
      exact nomatch parsed
    · intro _ _ _ _ _ parsed
      exact nomatch parsed
  | succ fuel ih =>
    exact ⟨fun _ _ _ _ => traced_block ih, fun _ _ _ _ _ => traced_map ih,
      fun _ _ _ _ _ => traced_list ih⟩

theorem plainLines_numberedLines (document : List Char) :
    plainLines (numberedLines document) = cleanLines document := by
  unfold numberedLines cleanLines plainLines
  have step (raws : List (List Char)) (start : ℕ) :
      ((raws.zipIdx start).filterMap fun raw => (cleanLine raw.1).map fun line => (raw.2, line)).map
        Prod.snd = raws.filterMap cleanLine := by
    induction raws generalizing start with
    | nil => rfl
    | cons raw raws ih =>
      rw [List.zipIdx_cons, List.filterMap_cons, List.filterMap_cons]
      cases clean : cleanLine raw with
      | none => simpa [clean] using ih (start + 1)
      | some line => simpa [clean] using ih (start + 1)
  exact step _ 0

/-- A document that parses has sources for its value. -/
theorem parse_traced {document : List Char} {value : PyVal}
    (parsed : parse text document = .ok value) :
    ∃ read, trace text document = some read ∧ read.value = value := by
  unfold parse at parsed
  unfold trace
  rw [← plainLines_numberedLines] at parsed
  cases numbered : numberedLines document with
  | nil =>
    rw [numbered] at parsed
    cases parsed
    exact ⟨_, rfl, rfl⟩
  | cons line lines =>
    rw [numbered, plainLines_cons] at parsed
    have same_length : (line.2 :: plainLines lines).length = (line :: lines).length := by
      simp [plainLines]
    simp only [same_length] at parsed
    cases block : parseBlock text (3 * (line :: lines).length + 3) (line.2 :: plainLines lines)
        line.2.1 with
    | error stop =>
      rw [block] at parsed
      exact nomatch parsed
    | ok found =>
      obtain ⟨read, rest', traced_read, same, below⟩ := (traced text _).block (line :: lines) block
      rw [block] at parsed
      simp only [bind, Except.bind, ← below] at parsed
      cases rest' with
      | nil =>
        cases parsed
        refine ⟨read, ?_, same⟩
        simp only [traced_read]
        rfl
      | cons other rest' => exact nomatch parsed

end DroidOs.Util.Sources
