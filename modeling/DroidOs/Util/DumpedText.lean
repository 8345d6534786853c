/- GID: DroidOs/Util/DumpedText
   generality: I
   source: src/droidos/util/miniyaml.py
   digest: The text the dumper writes is made of its lines, and the parser finds these lines in it. -/

import DroidOs.Util.WrittenLines

set_option autoImplicit false
set_option relaxedAutoImplicit false

namespace DroidOs.Util.DumpedText

open DroidOs.Lib DroidOs.Core.Values DroidOs.Util.Characters DroidOs.Util.MiniYaml
  DroidOs.Util.Legible DroidOs.Util.Leaves DroidOs.Util.WrittenLines

variable {text : YamlText}

def rendered (line : Line) : List Char := pad line.1 ++ line.2

/-- The text of lines, each with its padding and a line break. -/
def unlines (lines : List Line) : List Char := TextLines.joinLines '\n' (lines.map rendered)

theorem unlines_cons (line : Line) (lines : List Line) :
    unlines (line :: lines) = rendered line ++ ['\n'] ++ unlines lines := by
  simp [unlines, TextLines.joinLines]

theorem unlines_append (lines more : List Line) : unlines (lines ++ more) = unlines lines ++ unlines more := by
  simp [unlines, TextLines.joinLines]

private theorem joinLines_newline {lines : List (List Char)} (some_lines : lines ≠ []) :
    joinLines lines ++ ['\n'] = TextLines.joinLines '\n' lines := by
  induction lines with
  | nil => exact absurd rfl some_lines
  | cons line lines ih =>
    cases lines with
    | nil => simp [joinLines, TextLines.joinLines]
    | cons other lines =>
      have later := ih (by simp)
      simp only [joinLines, TextLines.joinLines, List.flatMap_cons] at later ⊢
      rw [List.intercalate_cons_cons, ← later]
      simp

private theorem unbroken_rendered {line : Line} (solid : Solid line.2) :
    ∀ c ∈ rendered line, isLineBreak c = false := by
  intro c there
  rcases List.mem_append.mp there with there | there
  · rw [List.eq_of_mem_replicate there]
    decide
  · exact solid.unbroken c there

private theorem rendered_ne_nil {line : Line} (solid : Solid line.2) : rendered line ≠ [] := by
  simp [rendered, solid.nonempty]

/-- The text of some lines, with and without the last line break. -/
private theorem unlines_ended (init : List Line) {last : Line} (solid : Solid last.2) :
    unlines (init ++ [last]) =
        TextLines.joinLines '\n' (init.map rendered) ++ rendered last ++ ['\n'] ∧
      rstripNewlines (unlines (init ++ [last])) =
        TextLines.joinLines '\n' (init.map rendered) ++ rendered last := by
  have whole : unlines (init ++ [last]) =
      TextLines.joinLines '\n' (init.map rendered) ++ rendered last ++ ['\n'] := by
    simp [unlines, TextLines.joinLines]
  refine ⟨whole, ?_⟩
  rw [whole, rstripNewlines, List.rdropWhile_concat_pos _ _ _ (by simp)]
  apply TextLines.rdropWhile_of_last
  intro c there
  have ends : c ∈ last.2.getLast? := by
    rwa [List.getLast?_append_of_ne_nil _ (rendered_ne_nil solid), rendered,
      List.getLast?_append_of_ne_nil _ solid.nonempty] at there
  have dense := solid.bare.2 c ends
  rw [decide_eq_false_iff_not]
  rintro rfl
  revert dense
  decide

private theorem split_last {lines : List Line} (some_lines : lines ≠ []) :
    ∃ init last, lines = init ++ [last] :=
  ⟨lines.dropLast, lines.getLast some_lines, (List.dropLast_append_getLast some_lines).symm⟩

theorem rstrip_unlines {lines : List Line} (some_lines : lines ≠ [])
    (solid : ∀ line ∈ lines, Solid line.2) : rstripNewlines (unlines lines) ++ ['\n'] = unlines lines := by
  obtain ⟨init, last, rfl⟩ := split_last some_lines
  obtain ⟨whole, cut⟩ := unlines_ended init (solid last (by simp))
  rw [cut, whole]

theorem splitlines_unlines {lines : List Line} (solid : ∀ line ∈ lines, Solid line.2) :
    splitlines (unlines lines) = lines.map rendered := by
  apply TextLines.splitLines_joinLines (by decide) not_isCrLf_newline isLineBreak_of_isCrLf
  intro line there
  obtain ⟨written, listed, rfl⟩ := List.mem_map.mp there
  exact unbroken_rendered (solid written listed)

private theorem splitlines_block {lines : List Line} (some_lines : lines ≠ [])
    (solid : ∀ line ∈ lines, Solid line.2) :
    splitlines (rstripNewlines (unlines lines)) = lines.map rendered := by
  obtain ⟨init, last, rfl⟩ := split_last some_lines
  obtain ⟨-, cut⟩ := unlines_ended init (solid last (by simp))
  rw [cut, List.map_append, List.map_singleton]
  apply TextLines.splitLines_unended (by decide) not_isCrLf_newline isLineBreak_of_isCrLf
    (rendered_ne_nil (solid last (by simp)))
  intro line there
  have listed : line ∈ (init ++ [last]).map rendered := by simpa using there
  obtain ⟨written, member, rfl⟩ := List.mem_map.mp listed
  exact unbroken_rendered (solid written member)

private theorem pad_isSpace {indent : ℕ} : ∀ c ∈ pad indent, isSpace c = true := by
  intro c there
  rw [List.eq_of_mem_replicate there]
  decide

/-- The block of a mapping that is an item, with the mark in front of its first line. -/
private theorem marked_block {lines : List Line} (indent : ℕ) (some_lines : lines ≠ [])
    (solid : ∀ line ∈ lines, Solid line.2) :
    (pad indent ++ ['-', ' '] ++
        ((splitlines (rstripNewlines (unlines lines))).headD []).dropWhile isSpace) ::
      (splitlines (rstripNewlines (unlines lines))).tail = (marked indent lines).map rendered := by
  obtain ⟨line, below, rfl⟩ := List.exists_cons_of_ne_nil some_lines
  have content : (rendered line).dropWhile isSpace = line.2 := by
    rw [rendered, List.dropWhile_append_of_pos pad_isSpace]
    exact TextLines.dropWhile_of_head (solid line List.mem_cons_self).bare.1
  simp only [splitlines_block (by simp) solid, List.map_cons, List.headD_cons, List.tail_cons, content,
    marked]
  simp [rendered]

private theorem joinLines_cons (line : List Char) (lines : List (List Char)) :
    TextLines.joinLines '\n' (line :: lines) = line ++ ['\n'] ++ TextLines.joinLines '\n' lines := by
  simp [TextLines.joinLines]

private theorem dumpEntries_ne_nil (indent : ℕ) (entry : PyVal × PyVal) (entries : List (PyVal × PyVal)) :
    dumpEntries text indent (entry :: entries) ≠ [] := by
  rw [dumpEntries]
  by_cases block : nested entry.2 = true <;> simp [block]

private theorem dumpItems_single {item : PyVal} (plain : ∀ entries, item ≠ .dict entries) (indent : ℕ)
    (items : List PyVal) : dumpItems text indent (item :: items) =
      (pad indent ++ ['-', ' '] ++ dumpScalar text item) :: dumpItems text indent items := by
  rw [dumpItems]
  exact plain

private theorem dump_single {item : PyVal} {items : List PyVal} (plain : ∀ entries, item ≠ .dict entries)
    {indent : ℕ} (later : TextLines.joinLines '\n' (dumpItems text indent items) =
      unlines (itemLines text indent items)) :
    TextLines.joinLines '\n' (dumpItems text indent (item :: items)) =
      unlines (itemLines text indent (item :: items)) := by
  rw [dumpItems_single plain, itemLines_single plain, joinLines_cons, later, unlines_cons, rendered,
    List.append_assoc (pad indent)]

mutual

/-- The text of a legible document with a block is made of its lines. -/
theorem dump_value (ascii : AsciiDigits text.decimal) : ∀ v : PyVal, nested v = true → built v = true →
    legible text v = true → ∀ indent, dump text indent v = unlines (writtenLines text indent v)
  | .dict entries, block, sound, readable, indent => by
    rw [nested, Bool.not_eq_true'] at block
    rw [built, Bool.and_eq_true] at sound
    rw [legible] at readable
    have lines := dump_entries ascii false entries sound.2 readable indent
    rw [dump, if_neg (by simp [block]), joinLines_newline, lines, writtenLines]
    cases entries with
    | nil => simp at block
    | cons entry entries => exact dumpEntries_ne_nil indent entry entries
  | .list items, block, sound, readable, indent => by
    rw [nested, Bool.not_eq_true'] at block
    rw [built] at sound
    rw [legible] at readable
    have lines := dump_items ascii items sound readable indent
    rw [dump, if_neg (by simp [block]), joinLines_newline, lines, writtenLines]
    cases items with
    | nil => simp at block
    | cons item items => cases item <;> simp [dumpItems]
  | .none, block, _, _, _ => by simp [nested] at block
  | .bool _, block, _, _, _ => by simp [nested] at block
  | .int _, block, _, _, _ => by simp [nested] at block
  | .float _, block, _, _, _ => by simp [nested] at block
  | .str _, block, _, _, _ => by simp [nested] at block

theorem dump_entries (ascii : AsciiDigits text.decimal) (first : Bool) :
    ∀ entries : List (PyVal × PyVal), builtEntries entries = true →
    legibleEntries text first entries = true → ∀ indent,
    TextLines.joinLines '\n' (dumpEntries text indent entries) = unlines (entryLines text indent entries)
  | [], _, _, _ => by simp [dumpEntries, entryLines, unlines, TextLines.joinLines]
  | (.str key, value) :: entries, sound, readable, indent => by
    rw [builtEntries, Bool.and_eq_true, Bool.and_eq_true] at sound
    rw [legibleEntries, Bool.and_eq_true, Bool.and_eq_true] at readable
    have later := dump_entries ascii false entries sound.2 readable.2 indent
    rw [dumpEntries, entryLines, TextLines.joinLines_append, later, unlines_cons, unlines_append]
    by_cases block : nested value = true
    · have good := readable.1.2
      rw [if_pos block] at good
      have inner := dump_value ascii value block sound.1.2 good (indent + 2)
      have solid : ∀ line ∈ writtenLines text (indent + 2) value, Solid line.2 := fun line there =>
        (kept_value ascii value sound.1.2 good (indent + 2) line there).solid
      have ended := rstrip_unlines (writtenLines_ne_nil block (indent + 2)) solid
      rw [if_pos block, joinLines_cons, joinLines_cons, inner, ended, entryText, if_pos block]
      simp [TextLines.joinLines, rendered]
    · rw [if_neg block, joinLines_cons, writtenLines_single (by simpa using block), entryText, if_neg block]
      simp [TextLines.joinLines, rendered, unlines]
  | (.none, _) :: _, _, readable, _ => by simp [legibleEntries] at readable
  | (.bool _, _) :: _, _, readable, _ => by simp [legibleEntries] at readable
  | (.int _, _) :: _, _, readable, _ => by simp [legibleEntries] at readable
  | (.float _, _) :: _, _, readable, _ => by simp [legibleEntries] at readable
  | (.list _, _) :: _, _, readable, _ => by simp [legibleEntries] at readable
  | (.dict _, _) :: _, _, readable, _ => by simp [legibleEntries] at readable

theorem dump_items (ascii : AsciiDigits text.decimal) : ∀ items : List PyVal,
    builtItems items = true → legibleItems text items = true → ∀ indent,
    TextLines.joinLines '\n' (dumpItems text indent items) = unlines (itemLines text indent items)
  | [], _, _, _ => by simp [dumpItems, itemLines, unlines, TextLines.joinLines]
  | item :: items, sound, readable, indent => by
    have good : legibleItems text items = true := by
      cases item <;> simp_all [legibleItems]
    have later := dump_items ascii items (Bool.and_eq_true_iff.mp sound).2 good indent
    cases item with
    | dict entries =>
      rw [builtItems, built, Bool.and_eq_true, Bool.and_eq_true] at sound
      rw [legibleItems, Bool.and_eq_true] at readable
      have lines := dump_entries ascii true entries sound.1.2 readable.1 (indent + 2)
      have solid := solid_entries (kept_entries ascii true entries sound.1.2 readable.1 (indent + 2))
      have block : dumpItems text indent (.dict entries :: items) =
          (marked indent (entryLines text (indent + 2) entries)).map rendered ++
            dumpItems text indent items := by
        cases entries with
        | nil =>
          have single : unlines [(indent + 2, "\x7b\x7d".toList)] =
              dump text (indent + 2) (.dict []) := by
            simp [dump, unlines, TextLines.joinLines, rendered]
          have bare : ∀ other ∈ [(indent + 2, "\x7b\x7d".toList)], Solid (Prod.snd other) := by
            intro other there
            rw [List.mem_singleton.mp there]
            exact show Solid "\x7b\x7d".toList from .of_dense (by simp) (List.all_iff_forall_prop.mp (by decide))
          have first := marked_block indent (by simp) bare
          rw [dumpItems, ← single, first, entryLines]
          rfl
        | cons entry entries =>
          have whole : dump text (indent + 2) (.dict (entry :: entries)) =
              unlines (entryLines text (indent + 2) (entry :: entries)) := by
            rw [dump, if_neg (by simp), joinLines_newline (dumpEntries_ne_nil _ _ _), lines]
          have first := marked_block indent (by simp [entryLines]) solid
          rw [dumpItems, whole, first]
      rw [block, TextLines.joinLines_append, later, itemLines, unlines_append]
      rfl
    | _ => exact dump_single (by simp) later

end

/-! The lines the parser finds. -/

private theorem indentOf_rendered {line : Line} (solid : Solid line.2) : indentOf (rendered line) = line.1 := by
  have stops : line.2.takeWhile (fun c => c = ' ') = [] := by
    rcases shown : line.2 with - | ⟨c, cs⟩
    · rfl
    · have dense := solid.bare.1 c (by simp [shown])
      have other : c ≠ ' ' := by
        rintro rfl
        revert dense
        decide
      rw [List.takeWhile_cons_of_neg (by simpa using other)]
  rw [indentOf, rendered, List.takeWhile_append_of_pos, stops, List.append_nil, pad,
    List.length_replicate]
  intro c there
  rw [List.eq_of_mem_replicate there]
  decide

theorem cleanLine_rendered {line : Line} (kept : Kept line.2) :
    cleanLine (rendered line) = some line := by
  have uncut : stripComment false false none (rendered line) = rendered line :=
    stripComment_eq (by rw [rendered, hasComment_pad, kept.clear])
  have content : strip (rendered line) = line.2 := by
    rw [strip, rendered, TextLines.strip_append_blanks pad_isSpace]
    exact kept.solid.strip_eq
  have front : (rendered line).dropWhile isSpace = line.2 := by
    rw [rendered, List.dropWhile_append_of_pos pad_isSpace]
    exact TextLines.dropWhile_of_head kept.solid.bare.1
  simp only [cleanLine, uncut, content, front, if_neg kept.solid.nonempty, kept.unmarked,
    Bool.false_eq_true, if_false, indentOf_rendered kept.solid]

theorem cleanLines_unlines {lines : List Line} (kept : ∀ line ∈ lines, Kept line.2) :
    cleanLines (unlines lines) = lines := by
  rw [cleanLines, splitlines_unlines fun line there => (kept line there).solid, List.filterMap_map]
  induction lines with
  | nil => rfl
  | cons line lines ih =>
    have later := ih fun other there => kept other (List.mem_cons_of_mem line there)
    have here : (cleanLine ∘ rendered) line = some line :=
      cleanLine_rendered (kept line List.mem_cons_self)
    rw [List.filterMap_cons_some here, later]

/-- The parser works on the lines of a legible document as they were written. -/
theorem cleanLines_dump (ascii : AsciiDigits text.decimal) {v : PyVal} (block : nested v = true)
    (sound : built v = true) (readable : legible text v = true) :
    cleanLines (dump text 0 v) = writtenLines text 0 v := by
  rw [dump_value ascii v block sound readable 0]
  exact cleanLines_unlines (kept_value ascii v sound readable 0)

end DroidOs.Util.DumpedText
