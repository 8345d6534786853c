/- GID: DroidOs/Util/ConsumedLines
   generality: I
   source: src/droidos/util/miniyaml.py
   digest: The documents that parse without a line being dropped. -/

import DroidOs.Util.DroppedLines

set_option autoImplicit false
set_option relaxedAutoImplicit false

namespace DroidOs.Util.ConsumedLines

open DroidOs.Lib DroidOs.Core.Values DroidOs.Util.Characters DroidOs.Util.MiniYaml
  DroidOs.Util.LineRoles DroidOs.Util.Sources DroidOs.Util.TidyLines DroidOs.Util.DroppedLines

/-- The line holds something besides a comment, and is not just the mark of a document. -/
def counts (raw : List Char) : Bool :=
  let line := strip (stripComment false false none raw)
  decide (line ≠ [] ∧ line ≠ ['-', '-', '-'] ∧ line ≠ ['.', '.', '.'])

/-- The line starts like the mark of a document. -/
def marked (raw : List Char) : Bool :=
  isMarker ((stripComment false false none raw).dropWhile isSpace)

/-- The value of the document comes from every line that counts. -/
def Consumed (text : YamlText) (document : List Char) (value : PyVal) : Prop :=
  ∃ read, trace text document = some read ∧ read.value = value ∧
    ∀ raw ∈ (splitlines document).zipIdx, counts raw.1 = true → raw.2 ∈ read.lines

/-- No line only starts like a mark, no mapping repeats a key, and no item has a line that is one
column deeper than the item; what is in block scalars is left aside. -/
def Tidy (document : List Char) : Prop :=
  (∀ raw ∈ splitlines document, counts raw = true → marked raw = false) ∧
    tidy none (cleanLines document) = true

private theorem counts_of_clean {raw : List Char} {line : Line} (clean : cleanLine raw = some line) :
    counts raw = true ∧ marked raw = false := by
  unfold cleanLine at clean
  unfold counts marked
  dsimp only at clean ⊢
  obtain ⟨gap, -, split⟩ :=
    TextLines.dropWhile_eq_strip_append isSpace (stripComment false false none raw)
  split at clean
  · exact nomatch clean
  rename_i visible
  split at clean
  · exact nomatch clean
  rename_i unmarked
  rw [Bool.not_eq_true] at unmarked
  refine ⟨?_, unmarked⟩
  have other (mark : List Char) (marks : isMarker (mark ++ gap) = true) :
      strip (stripComment false false none raw) ≠ mark := by
    rintro rfl
    rw [split] at unmarked
    exact nomatch unmarked.symm.trans marks
  exact decide_eq_true ⟨visible, other _ rfl, other _ rfl⟩

private theorem clean_of_counts {raw : List Char} (count : counts raw = true) (plain : marked raw = false) :
    ∃ line, cleanLine raw = some line := by
  have visible := (of_decide_eq_true count).1
  have unmarked : ¬ isMarker ((stripComment false false none raw).dropWhile isSpace) = true := by
    rw [Bool.not_eq_true]
    exact plain
  refine ⟨(indentOf (stripComment false false none raw), strip (stripComment false false none raw)), ?_⟩
  unfold cleanLine
  dsimp only
  rw [if_neg visible, if_neg unmarked]

private theorem mem_numbers {document : List Char} {number : ℕ} :
    number ∈ numbersOf (numberedLines document) ↔
      ∃ raw ∈ (splitlines document)[number]?, counts raw = true ∧ marked raw = false := by
  unfold numbersOf numberedLines
  rw [List.mem_map]
  constructor
  · rintro ⟨line, there, rfl⟩
    obtain ⟨raw, listed, same⟩ := List.mem_filterMap.mp there
    obtain ⟨clean, found, rfl⟩ := Option.map_eq_some_iff.mp same
    exact ⟨raw.1, List.mem_zipIdx_iff_getElem?.mp listed, counts_of_clean found⟩
  · rintro ⟨raw, at_number, count, plain⟩
    obtain ⟨line, clean⟩ := clean_of_counts count plain
    refine ⟨(number, line), List.mem_filterMap.mpr ⟨(raw, number), ?_, ?_⟩, rfl⟩
    · exact List.mem_zipIdx_iff_getElem?.mpr at_number
    · simp [clean]

private theorem numbers_nodup (document : List Char) :
    (numbersOf (numberedLines document)).Nodup := by
  have distinct : ((splitlines document).zipIdx.map Prod.snd).Nodup := by
    rw [List.zipIdx_map_snd]
    exact List.nodup_range'
  have apart := List.pairwise_map.mp distinct
  unfold numbersOf numberedLines
  rw [List.Nodup, List.pairwise_map, List.pairwise_filterMap]
  refine apart.imp fun {raw other} differ line found line' found' => ?_
  obtain ⟨_, -, rfl⟩ := Option.map_eq_some_iff.mp found
  obtain ⟨_, -, rfl⟩ := Option.map_eq_some_iff.mp found'
  exact differ

private theorem trace_account {text : YamlText} {document : List Char} {read : Sourced}
    (traced : trace text document = some read) :
    ∃ lost, Account [] (numbersOf (numberedLines document)) read.lines lost ∧
      (lost = [] ↔ tidy none (cleanLines document) = true) := by
  unfold trace at traced
  rw [← plainLines_numberedLines]
  cases numbered : numberedLines document with
  | nil =>
    rw [numbered] at traced
    cases traced
    exact ⟨[], List.Perm.refl _, by simp [plainLines, tidy]⟩
  | cons line lines =>
    rw [numbered] at traced
    obtain ⟨⟨found, rest⟩, reads, traced⟩ := Option.bind_eq_some_iff.mp traced
    obtain ⟨used, lost, split, -, account, none_lost⟩ := (keeps text _).block reads
    cases rest with
    | nil =>
      cases traced
      rw [split, List.append_nil]
      exact ⟨lost, account, none_lost⟩
    | cons other rest => cases traced

/-- A document that parses loses no line just if it is tidy. -/
theorem consumed_iff {text : YamlText} {document : List Char} {value : PyVal}
    (parsed : parse text document = .ok value) : Consumed text document value ↔ Tidy document := by
  obtain ⟨read, traced, same⟩ := parse_traced parsed
  obtain ⟨lost, account, none_lost⟩ := trace_account traced
  have listed {number : ℕ} : number ∈ read.lines ++ lost ↔ number ∈ numbersOf (numberedLines document) :=
    List.Perm.mem_iff account
  constructor
  · rintro ⟨read', traced', -, consumed⟩
    obtain rfl : read' = read := Option.some.inj (traced'.symm.trans traced)
    refine ⟨?_, ?_⟩
    · intro raw there count
      obtain ⟨number, at_number⟩ := List.mem_iff_getElem?.mp there
      have source := consumed (raw, number) (List.mem_zipIdx_iff_getElem?.mpr at_number) count
      obtain ⟨raw', at_number', -, plain⟩ := mem_numbers.mp (listed.mp (List.mem_append_left lost source))
      obtain rfl : raw' = raw := Option.some.inj (at_number'.symm.trans at_number)
      exact plain
    · rw [← none_lost, List.eq_nil_iff_forall_not_mem]
      intro number gone
      obtain ⟨raw, at_number, count, -⟩ := mem_numbers.mp (listed.mp (List.mem_append_right _ gone))
      have source := consumed (raw, number) (List.mem_zipIdx_iff_getElem?.mpr at_number) count
      have distinct := account.nodup_iff.mpr (numbers_nodup document)
      exact (List.nodup_append.mp distinct).2.2 number source number gone rfl
  · rintro ⟨unmarked, tidy_lines⟩
    refine ⟨read, traced, same, ?_⟩
    rintro ⟨raw, number⟩ there count
    have at_number := List.mem_zipIdx_iff_getElem?.mp there
    have plain := unmarked raw (List.mem_of_getElem? at_number) count
    have source := listed.mpr (mem_numbers.mpr ⟨raw, at_number, count, plain⟩)
    rwa [none_lost.mpr tidy_lines, List.append_nil] at source

/-- `- a: 1`, and `b: 2` two columns deeper. -/
def alignedItem : List Char := ['-', ' ', 'a', ':', ' ', '1', '\n', ' ', ' ', 'b', ':', ' ', '2']

theorem aligned_consumed : Consumed YamlText.ascii alignedItem
    (.list [.dict [(.str (String.ofList ['a']), .int 1), (.str (String.ofList ['b']), .int 2)]]) :=
  (consumed_iff rfl).mpr ⟨by decide, by decide⟩

/-- `- a: 1`, and `b: 2` one column deeper. -/
def outdentedItem : List Char := ['-', ' ', 'a', ':', ' ', '1', '\n', ' ', 'b', ':', ' ', '2']

/-- The second line is gone, and no error is raised. -/
theorem outdented_dropped :
    parse YamlText.ascii outdentedItem = .ok (.list [.dict [(.str (String.ofList ['a']), .int 1)]]) ∧
      ¬ Consumed YamlText.ascii outdentedItem (.list [.dict [(.str (String.ofList ['a']), .int 1)]]) := by
  refine ⟨rfl, ?_⟩
  rintro ⟨read, traced, -, consumed⟩
  have sources : (trace YamlText.ascii outdentedItem).map Sourced.lines = some [0] := rfl
  rw [traced] at sources
  have second := consumed ([' ', 'b', ':', ' ', '2'], 1) (by decide) (by decide)
  rw [Option.some.inj sources] at second
  exact absurd second (by decide)

end DroidOs.Util.ConsumedLines
