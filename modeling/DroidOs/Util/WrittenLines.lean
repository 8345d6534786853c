/- GID: DroidOs/Util/WrittenLines
   generality: I
   source: src/droidos/util/miniyaml.py
   digest: The lines the dumper writes, and that the parser keeps them as they are. -/

import DroidOs.Util.Leaves

set_option autoImplicit false
set_option relaxedAutoImplicit false

namespace DroidOs.Util.WrittenLines

open DroidOs.Lib DroidOs.Core.Values DroidOs.Util.Characters DroidOs.Util.MiniYaml
  DroidOs.Util.Legible DroidOs.Util.Leaves

variable (text : YamlText)

/-! The lines of a document, without their padding. -/

/-- The line of an entry whose value has a block of its own ends with the colon. -/
def entryText (key value : PyVal) : List Char :=
  str text key ++ (if nested value then [':'] else [':', ' '] ++ dumpScalar text value)

/-- The lines of a mapping that is an item: the first one carries the mark. -/
def marked (indent : ℕ) : List Line → List Line
  | [] => [(indent, ['-', ' ', '\x7b', '\x7d'])]
  | (_, first) :: below => (indent, ['-', ' '] ++ first) :: below

mutual

def writtenLines (indent : ℕ) : PyVal → List Line
  | .dict entries => entryLines indent entries
  | .list items => itemLines indent items
  | _ => []

def entryLines (indent : ℕ) : List (PyVal × PyVal) → List Line
  | [] => []
  | (key, value) :: entries =>
    (indent, entryText text key value) :: (writtenLines (indent + 2) value ++ entryLines indent entries)

def itemLines (indent : ℕ) : List PyVal → List Line
  | [] => []
  | .dict entries :: items => marked indent (entryLines (indent + 2) entries) ++ itemLines indent items
  | item :: items => (indent, ['-', ' '] ++ dumpScalar text item) :: itemLines indent items

end

variable {text}

/-! Every line of a legible document is kept. -/

/-- A line that is neither cut nor dropped. -/
structure Kept (content : List Char) : Prop where
  solid : Solid content
  clear : hasComment content = false
  unmarked : isMarker content = false

/-- The lines of a mapping. The first one may look like a mark of the document behind the
mark of an item. -/
def KeptEntries (first : Bool) : List Line → Prop
  | [] => True
  | line :: below => Solid line.2 ∧ hasComment line.2 = false ∧
      (first = false → isMarker line.2 = false) ∧ ∀ other ∈ below, Kept other.2

private theorem solid_append {t u : List Char} (first : Solid t) (second : Solid u) : Solid (t ++ u) where
  nonempty := by simp [first.nonempty]
  bare := TextLines.bare_append first.nonempty second.nonempty first.bare.1 second.bare.2
  unbroken := fun c there =>
    (List.mem_append.mp there).elim (first.unbroken c) (second.unbroken c)

private theorem solid_spaced {t : List Char} (solid : Solid t) (c : Char) (dense : isSpace c = false) :
    Solid ([c, ' '] ++ t) where
  nonempty := by simp
  bare := TextLines.bare_append (by simp) solid.nonempty (by simpa using dense) solid.bare.2
  unbroken := by
    intro d there
    have no_break : isLineBreak c = false := by
      by_contra breaks
      have space := isSpace_of_isLineBreak (c := c) (by simpa using breaks)
      simp [dense] at space
    rw [List.mem_append, List.mem_cons, List.mem_singleton] at there
    rcases there with (rfl | rfl) | there
    · exact no_break
    · decide
    · exact solid.unbroken d there

private theorem solid_key {first : Bool} {key : List Char} (nonempty : key ≠ [])
    (legible : legibleKey first key = true) : Solid key := by
  simp only [legibleKey, Bool.and_eq_true, decide_eq_true_eq, isUnbroken, List.all_eq_true,
    Bool.not_eq_true'] at legible
  exact ⟨nonempty, TextLines.strip_eq_self_iff.mp legible.1.1.2, legible.1.1.1.2⟩

private theorem isMarker_append {key rest : List Char} {c : Char} (other : c ≠ '-' ∧ c ≠ '.') :
    isMarker (key ++ c :: rest) = isMarker key := by
  simp only [isMarker]
  rcases key with - | ⟨a, - | ⟨b, - | ⟨d, key⟩⟩⟩ <;>
    simp [List.isPrefixOf, other.1.symm, other.2.symm]

/-- A text is written in quotes only when the dumper sees a reason to. -/
theorem dumpScalar_str (s : String) : dumpScalar text (.str s) =
    if quotes s.toList then ['"'] ++ s.toList ++ ['"'] else s.toList := by
  rw [dumpScalar]
  · rfl
  all_goals simp

private theorem clear_leaf (front : List Char) {inMapping : Bool} {value : PyVal}
    (leaf : Leaf text inMapping value) (clear : hasComment front = false)
    (quoted : ∀ s, value = .str s → quotes s.toList = true →
      hasComment (front ++ (['"'] ++ s.toList ++ ['"'])) = false) :
    hasComment (front ++ dumpScalar text value) = false := by
  by_cases mark : '#' ∈ dumpScalar text value
  · obtain ⟨s, rfl, quoted_s⟩ := leaf.comment mark
    rw [dumpScalar_str, if_pos quoted_s]
    exact quoted s rfl quoted_s
  · rw [hasComment_append mark, clear]

private theorem entry_nested {first : Bool} {key : String} {value : PyVal} (nonempty : key ≠ "")
    (legible : legibleKey first key.toList = true) (clear : clearEntry key.toList value = true)
    (block : nested value = true) :
    Solid (entryText text (.str key) value) ∧ hasComment (entryText text (.str key) value) = false ∧
      (first = false → isMarker (entryText text (.str key) value) = false) := by
  have written : entryText text (.str key) value = key.toList ++ [':'] := by
    rw [entryText, if_pos block, str]
  have solid := solid_key (by simpa using nonempty) legible
  have colon : Solid [':'] := .of_dense (by simp) (List.all_iff_forall_prop.mp (by decide))
  rw [written]
  refine ⟨solid_append solid colon, ?_, ?_⟩
  · rw [hasComment_append (by decide)]
    cases value <;> simp_all [clearEntry, nested]
  · intro inner
    rw [isMarker_append (by decide)]
    simpa [legibleKey, inner] using (Bool.and_eq_true_iff.mp legible).2

private theorem entry_leaf {first : Bool} {key : String} {value : PyVal} (nonempty : key ≠ "")
    (legible : legibleKey first key.toList = true) (clear : clearEntry key.toList value = true)
    (single : nested value = false) (leaf : Leaf text true value) :
    Solid (entryText text (.str key) value) ∧ hasComment (entryText text (.str key) value) = false ∧
      (first = false → isMarker (entryText text (.str key) value) = false) := by
  have written : entryText text (.str key) value =
      key.toList ++ ([':', ' '] ++ dumpScalar text value) := by
    rw [entryText, if_neg (by simp [single]), str]
  have solid := solid_key (by simpa using nonempty) legible
  rw [written]
  refine ⟨solid_append solid (solid_spaced leaf.solid ':' (by decide)), ?_, ?_⟩
  · rw [← List.append_assoc]
    apply clear_leaf _ leaf
    · rw [hasComment_append (by decide)]
      cases value with
      | str s =>
        rw [clearEntry] at clear
        split at clear
        next _ =>
          have whole : hasComment (key.toList ++ ([':', ' ', '"'] ++ s.toList ++ ['"'])) = false := by
            simpa using clear
          exact hasComment_left whole
        next _ => simpa using clear
      | _ => simpa [clearEntry] using clear
    · rintro s rfl quoted
      rw [clearEntry, if_pos quoted] at clear
      simpa using clear
  · intro inner
    rw [List.cons_append, isMarker_append (by decide)]
    simpa [legibleKey, inner] using (Bool.and_eq_true_iff.mp legible).2

private theorem isMarker_item (content : List Char) : isMarker (['-', ' '] ++ content) = false := rfl

private theorem kept_item {item : PyVal} (leaf : Leaf text false item) (clear : clearItem item = true) :
    Kept (['-', ' '] ++ dumpScalar text item) where
  solid := solid_spaced leaf.solid '-' (by decide)
  clear := by
    rw [hasComment_item]
    refine clear_leaf [] leaf rfl fun s same quoted => ?_
    subst same
    simpa [clearItem, quoted] using clear
  unmarked := isMarker_item _

private theorem kept_marked (indent : ℕ) {lines : List Line} (kept : KeptEntries true lines) :
    ∀ line ∈ marked indent lines, Kept line.2 := by
  cases lines with
  | nil =>
    intro line there
    rw [marked, List.mem_singleton] at there
    subst there
    show Kept ['-', ' ', '\x7b', '\x7d']
    have braces : Solid ['\x7b', '\x7d'] := .of_dense (by simp) (List.all_iff_forall_prop.mp (by decide))
    exact ⟨solid_spaced braces '-' (by decide), by decide, by decide⟩
  | cons head below =>
    intro line there
    rw [marked] at there
    rcases List.mem_cons.mp there with rfl | there
    · exact ⟨solid_spaced kept.1 '-' (by decide), kept.2.1, isMarker_item _⟩
    · exact kept.2.2.2 line there

private theorem KeptEntries.all {lines : List Line} (kept : KeptEntries false lines) :
    ∀ line ∈ lines, Kept line.2 := by
  cases lines with
  | nil => simp
  | cons head below =>
    intro line there
    rcases List.mem_cons.mp there with rfl | there
    · exact ⟨kept.1, kept.2.1, kept.2.2.1 rfl⟩
    · exact kept.2.2.2 line there

/-- Only a value with a block of its own has lines of its own. -/
theorem writtenLines_single {value : PyVal} (single : nested value = false) (indent : ℕ) :
    writtenLines text indent value = [] := by
  cases value with
  | list items =>
    rw [nested, Bool.not_eq_false', List.isEmpty_iff] at single
    rw [single, writtenLines, itemLines]
  | dict entries =>
    rw [nested, Bool.not_eq_false', List.isEmpty_iff] at single
    rw [single, writtenLines, entryLines]
  | _ => simp [writtenLines]

theorem marked_ne_nil (indent : ℕ) (lines : List Line) : marked indent lines ≠ [] := by
  cases lines <;> simp [marked]

theorem writtenLines_ne_nil {value : PyVal} (block : nested value = true) (indent : ℕ) :
    writtenLines text indent value ≠ [] := by
  rcases value with _ | _ | _ | _ | _ | (_ | ⟨item, items⟩) | (_ | ⟨entry, entries⟩)
  case list.cons => cases item <;> simp [writtenLines, itemLines, marked_ne_nil]
  case dict.cons => simp [writtenLines, entryLines]
  all_goals cases block

/-- An item that is no mapping stands on one line. -/
theorem itemLines_single {item : PyVal} (plain : ∀ entries, item ≠ .dict entries) (indent : ℕ)
    (items : List PyVal) : itemLines text indent (item :: items) =
      (indent, ['-', ' '] ++ dumpScalar text item) :: itemLines text indent items := by
  rw [itemLines]
  exact plain

theorem legibleItems_single {item : PyVal} (plain : ∀ entries, item ≠ .dict entries)
    (items : List PyVal) : legibleItems text (item :: items) =
      (legibleLeaf text false item && clearItem item && legibleItems text items) := by
  rw [legibleItems]
  exact plain

private theorem kept_single (ascii : AsciiDigits text.decimal) {item : PyVal} {items : List PyVal}
    (plain : ∀ entries, item ≠ .dict entries) (readable : legibleItems text (item :: items) = true)
    {indent : ℕ} (later : legibleItems text items = true →
      ∀ line ∈ itemLines text indent items, Kept line.2) :
    ∀ line ∈ itemLines text indent (item :: items), Kept line.2 := by
  rw [legibleItems_single plain, Bool.and_eq_true, Bool.and_eq_true] at readable
  rw [itemLines_single plain]
  intro line there
  rcases List.mem_cons.mp there with rfl | there
  · exact kept_item (leaf_of_legible ascii readable.1.1) readable.1.2
  · exact later readable.2 line there

theorem solid_entries {first : Bool} {lines : List Line} (kept : KeptEntries first lines) :
    ∀ line ∈ lines, Solid line.2 := by
  cases lines with
  | nil => simp
  | cons head below =>
    intro line there
    rcases List.mem_cons.mp there with rfl | there
    · exact kept.1
    · exact (kept.2.2.2 line there).solid

mutual

theorem kept_value (ascii : AsciiDigits text.decimal) : ∀ v : PyVal, built v = true →
    legible text v = true → ∀ indent, ∀ line ∈ writtenLines text indent v, Kept line.2
  | .dict entries, sound, readable, indent => by
    rw [built, Bool.and_eq_true] at sound
    rw [legible] at readable
    rw [writtenLines]
    exact (kept_entries ascii false entries sound.2 readable indent).all
  | .list items, sound, readable, indent => by
    rw [built] at sound
    rw [legible] at readable
    rw [writtenLines]
    exact kept_items ascii items sound readable indent
  | .none, _, _, _ => by simp [writtenLines]
  | .bool _, _, _, _ => by simp [writtenLines]
  | .int _, _, _, _ => by simp [writtenLines]
  | .float _, _, _, _ => by simp [writtenLines]
  | .str _, _, _, _ => by simp [writtenLines]

theorem kept_entries (ascii : AsciiDigits text.decimal) (first : Bool) :
    ∀ entries : List (PyVal × PyVal), builtEntries entries = true →
    legibleEntries text first entries = true → ∀ indent, KeptEntries first (entryLines text indent entries)
  | [], _, _, _ => by simp [entryLines, KeptEntries]
  | (.str key, value) :: entries, sound, readable, indent => by
    rw [builtEntries, Bool.and_eq_true, Bool.and_eq_true, decide_eq_true_eq] at sound
    rw [legibleEntries, Bool.and_eq_true, Bool.and_eq_true, Bool.and_eq_true] at readable
    obtain ⟨⟨named, sound_value⟩, sound_rest⟩ := sound
    obtain ⟨⟨⟨good_key, clear⟩, good_value⟩, good_rest⟩ := readable
    have later := (kept_entries ascii false entries sound_rest good_rest indent).all
    have line : Solid (entryText text (.str key) value) ∧
        hasComment (entryText text (.str key) value) = false ∧
        (first = false → isMarker (entryText text (.str key) value) = false) := by
      by_cases block : nested value = true
      · exact entry_nested named good_key clear block
      · rw [if_neg block] at good_value
        exact entry_leaf named good_key clear (by simpa using block) (leaf_of_legible ascii good_value)
    have inner : ∀ other ∈ writtenLines text (indent + 2) value, Kept other.2 := by
      by_cases block : nested value = true
      · rw [if_pos block] at good_value
        exact kept_value ascii value sound_value good_value (indent + 2)
      · rw [writtenLines_single (by simpa using block)]
        simp
    rw [entryLines]
    refine ⟨line.1, line.2.1, line.2.2, fun other there => ?_⟩
    rcases List.mem_append.mp there with there | there
    · exact inner other there
    · exact later other there
  | (.none, _) :: _, _, readable, _ => by simp [legibleEntries] at readable
  | (.bool _, _) :: _, _, readable, _ => by simp [legibleEntries] at readable
  | (.int _, _) :: _, _, readable, _ => by simp [legibleEntries] at readable
  | (.float _, _) :: _, _, readable, _ => by simp [legibleEntries] at readable
  | (.list _, _) :: _, _, readable, _ => by simp [legibleEntries] at readable
  | (.dict _, _) :: _, _, readable, _ => by simp [legibleEntries] at readable

theorem kept_items (ascii : AsciiDigits text.decimal) : ∀ items : List PyVal,
    builtItems items = true → legibleItems text items = true → ∀ indent,
    ∀ line ∈ itemLines text indent items, Kept line.2
  | [], _, _, _ => by simp [itemLines]
  | item :: items, sound, readable, indent => by
    have later (good : legibleItems text items = true) :=
      kept_items ascii items (Bool.and_eq_true_iff.mp sound).2 good indent
    cases item with
    | dict entries =>
      rw [builtItems, built, Bool.and_eq_true, Bool.and_eq_true] at sound
      rw [legibleItems, Bool.and_eq_true] at readable
      rw [itemLines]
      intro line there
      rcases List.mem_append.mp there with there | there
      · exact kept_marked indent (kept_entries ascii true entries sound.1.2 readable.1 (indent + 2)) line
          there
      · exact later readable.2 line there
    | _ => exact kept_single ascii (by simp) readable later

end

end DroidOs.Util.WrittenLines
