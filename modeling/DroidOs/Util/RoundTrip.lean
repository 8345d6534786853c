/- GID: DroidOs/Util/RoundTrip
   generality: I
   source: src/droidos/util/miniyaml.py
   digest: The parser reads a legible document back from the lines the dumper wrote. -/

import DroidOs.Util.DumpedText

set_option autoImplicit false
set_option relaxedAutoImplicit false

namespace DroidOs.Util.RoundTrip

open DroidOs.Lib DroidOs.Core.Values DroidOs.Util.Characters DroidOs.Util.MiniYaml
  DroidOs.Util.Legible DroidOs.Util.Leaves DroidOs.Util.WrittenLines DroidOs.Util.DumpedText

variable {text : YamlText}

/-! Where a block ends. -/

/-- The next line, if there is one, is indented less than `bound`. -/
def Below (bound : ℕ) (lines : List Line) : Prop := ∀ line ∈ lines.head?, line.1 < bound

private theorem Below.mono {bound more : ℕ} {lines : List Line} (below : Below bound lines)
    (le : bound ≤ more) : Below more lines := fun line there => lt_of_lt_of_le (below line there) le

private theorem below_entries {indent : ℕ} {rest : List Line} (below : Below indent rest)
    (entries : List (PyVal × PyVal)) : Below (indent + 1) (entryLines text indent entries ++ rest) := by
  cases entries with
  | nil => exact below.mono (by omega)
  | cons entry entries =>
    intro line there
    simp only [entryLines, List.cons_append, List.head?_cons, Option.mem_def, Option.some.injEq] at there
    simp [← there]

private theorem below_items {indent : ℕ} {rest : List Line} (below : Below indent rest)
    (items : List PyVal) : Below (indent + 1) (itemLines text indent items ++ rest) := by
  have marked_head (lines more : List Line) : Below (indent + 1) (marked indent lines ++ more) := by
    cases lines <;> simp [marked, Below]
  cases items with
  | nil => exact below.mono (by omega)
  | cons item items =>
    cases item with
    | dict entries =>
      rw [itemLines, List.append_assoc]
      exact marked_head _ _
    | _ => simp [itemLines, Below]

private theorem indented_marked {bound indent : ℕ} {lines : List Line} (le : bound ≤ indent)
    (inner : ∀ line ∈ lines, bound ≤ line.1) : ∀ line ∈ marked indent lines, bound ≤ line.1 := by
  cases lines with
  | nil => simpa [marked] using le
  | cons head below =>
    intro line there
    rcases List.mem_cons.mp there with rfl | there
    · exact le
    · exact inner line (List.mem_cons_of_mem head there)

mutual

private theorem indented_value (bound : ℕ) : ∀ v : PyVal, ∀ indent, bound ≤ indent →
    ∀ line ∈ writtenLines text indent v, bound ≤ line.1
  | .dict entries, indent, le => by
    rw [writtenLines]
    exact indented_entries bound entries indent le
  | .list items, indent, le => by
    rw [writtenLines]
    exact indented_items bound items indent le
  | .none, _, _ => by simp [writtenLines]
  | .bool _, _, _ => by simp [writtenLines]
  | .int _, _, _ => by simp [writtenLines]
  | .float _, _, _ => by simp [writtenLines]
  | .str _, _, _ => by simp [writtenLines]

private theorem indented_entries (bound : ℕ) : ∀ entries : List (PyVal × PyVal), ∀ indent,
    bound ≤ indent → ∀ line ∈ entryLines text indent entries, bound ≤ line.1
  | [], _, _ => by simp [entryLines]
  | (key, value) :: entries, indent, le => by
    intro line there
    rw [entryLines, List.mem_cons, List.mem_append] at there
    rcases there with rfl | there | there
    · exact le
    · exact indented_value bound value (indent + 2) (by omega) line there
    · exact indented_entries bound entries indent le line there

private theorem indented_items (bound : ℕ) : ∀ items : List PyVal, ∀ indent,
    bound ≤ indent → ∀ line ∈ itemLines text indent items, bound ≤ line.1
  | [], _, _ => by simp [itemLines]
  | item :: items, indent, le => by
    have later := indented_items bound items indent le
    cases item with
    | dict entries =>
      have inner := indented_entries bound entries (indent + 2) (by omega)
      rw [itemLines]
      intro line there
      rcases List.mem_append.mp there with there | there
      · exact indented_marked le inner line there
      · exact later line there
    | _ =>
      rw [itemLines_single (by simp)]
      exact List.forall_mem_cons.mpr ⟨le, later⟩

end

/-! One line of a mapping. -/

private theorem takeWhile_key {key : List Char} (plain : ':' ∉ key) (rest : List Char) :
    (key ++ ':' :: rest).takeWhile (fun c => c ≠ ':') = key ∧
      (key ++ ':' :: rest).dropWhile (fun c => c ≠ ':') = ':' :: rest := by
  have all : ∀ c ∈ key, decide (c ≠ ':') = true := fun c there => by
    rw [decide_eq_true_eq]
    rintro rfl
    exact plain there
  constructor
  · rw [List.takeWhile_append_of_pos all, List.takeWhile_cons_of_neg (by simp), List.append_nil]
  · rw [List.dropWhile_append_of_pos all, List.dropWhile_cons_of_neg (by simp)]

/-- What the parser needs of a key. -/
private structure Key (key : String) : Prop where
  nonempty : key.toList ≠ []
  plain : ':' ∉ key.toList
  bare : strip key.toList = key.toList
  no_item : isItem key.toList = false

private theorem key_of_legible {first : Bool} {key : String} (named : key ≠ "")
    (legible : legibleKey first key.toList = true) : Key key := by
  simp only [legibleKey, Bool.and_eq_true, decide_eq_true_eq, Bool.not_eq_true'] at legible
  exact ⟨by simpa using named, legible.1.1.1.1, legible.1.1.2, legible.1.2⟩

private theorem no_item_line {key : String} (good : Key key) (rest : List Char) :
    isItem (key.toList ++ ':' :: rest) = false := by
  have short := good.no_item
  rcases shown : key.toList with - | ⟨c, - | ⟨d, cs⟩⟩
  · exact absurd shown good.nonempty
  · simp [isItem, List.isPrefixOf]
  · simpa [isItem, List.isPrefixOf, shown] using short

variable {fuel indent : ℕ} {lines : List Line} {result : Entries}

/-- The line of a scalar sets its key. -/
private theorem parseMap_scalar {key : String} (good : Key key) {rest : List Char}
    (some_text : strip rest ≠ []) (no_block : blockScalarKind (strip rest) = none) :
    parseMap text (fuel + 1) ((indent, key.toList ++ ':' :: rest) :: lines) indent result =
      parseMap text fuel lines indent (Dict.set key (scalar text (strip rest)) result) := by
  have cut := takeWhile_key good.plain rest
  have colon : ¬ (':' ∉ key.toList ++ ':' :: rest) := by simp
  rw [parseMap, if_neg (lt_irrefl indent), if_neg (lt_irrefl indent), no_item_line good rest,
    if_neg Bool.false_ne_true, if_neg colon]
  simp only [cut.1, cut.2, good.bare, String.ofList_toList, List.tail_cons, no_block, if_neg some_text]

/-- The line of a block sets its key to what is read from the deeper lines. -/
private theorem parseMap_block {key : String} (good : Key key) {child : Line}
    (first : lines.head? = some child) (deeper : indent < child.1) :
    parseMap text (fuel + 1) ((indent, key.toList ++ [':']) :: lines) indent result =
      parseBlock text fuel lines child.1 >>= fun read =>
        parseMap text fuel read.2 indent (Dict.set key read.1 result) := by
  have cut := takeWhile_key good.plain []
  have colon : ¬ (':' ∉ key.toList ++ [':']) := by simp
  have empty : strip [] = [] := rfl
  have no_block : blockScalarKind [] = none := rfl
  rw [parseMap, if_neg (lt_irrefl indent), if_neg (lt_irrefl indent), no_item_line good [],
    if_neg Bool.false_ne_true, if_neg colon]
  simp only [cut.1, cut.2, good.bare, String.ofList_toList, List.tail_cons, empty, no_block, if_true,
    first, if_pos deeper]

/-! One line of a list. -/

private theorem isItem_marked (content : List Char) : isItem (['-', ' '] ++ content) = true := rfl

private theorem item_here (content : List Char) :
    ¬ (indent < indent ∨ isItem (['-', ' '] ++ content) = false ∧ indent = indent) := by
  rintro (less | ⟨none, -⟩)
  · exact lt_irrefl indent less
  · exact absurd none (by rw [isItem_marked]; decide)

private theorem parseList_scalar {read : List PyVal} {item : PyVal} (leaf : Leaf text false item) :
    parseList text (fuel + 1) ((indent, ['-', ' '] ++ dumpScalar text item) :: lines) indent read =
      parseList text fuel lines indent (read ++ [item]) := by
  have no_mapping : ¬ (':' ∈ dumpScalar text item ∧ (dumpScalar text item).head?.any isQuote = false) :=
    fun both => by simp [leaf.colon both.1] at both
  have content : (['-', ' '] ++ dumpScalar text item).drop 2 = dumpScalar text item := rfl
  rw [parseList, if_neg (item_here _), if_neg (lt_irrefl indent), content, leaf.solid.strip_eq, if_neg no_mapping,
    leaf.value]

/-- The deeper lines behind an item are its own. -/
private theorem own_lines {own rest : List Line} (deeper : ∀ line ∈ own, indent + 2 ≤ line.1)
    (below : Below (indent + 1) rest) :
    (own ++ rest).takeWhile (fun line => indent < line.1) = own ∧
      (own ++ rest).dropWhile (fun line => indent < line.1) = rest := by
  have all : ∀ line ∈ own, decide (indent < line.1) = true := fun line there => by
    have := deeper line there
    simp only [decide_eq_true_eq]
    omega
  cases rest with
  | nil =>
    rw [List.takeWhile_append_of_pos all, List.dropWhile_append_of_pos all]
    simp
  | cons next rest =>
    have stops : ¬ indent < next.1 := by
      have := below next rfl
      omega
    rw [List.takeWhile_append_of_pos all, List.dropWhile_append_of_pos all]
    simp [stops]

private theorem parseList_mapping {read : List PyVal} {item : List Char} {own rest : List Line}
    {entries : Entries} (solid : Solid item) (colon : ':' ∈ item) (unquoted : item.head?.any isQuote = false)
    (deeper : ∀ line ∈ own, indent + 2 ≤ line.1) (below : Below (indent + 1) rest)
    (inner : parseMap text fuel ((indent + 2, item) :: own) (indent + 2) [] = .ok (entries, [])) :
    parseList text (fuel + 1) ((indent, ['-', ' '] ++ item) :: (own ++ rest)) indent read =
      parseList text fuel rest indent (read ++ [mapping entries]) := by
  have content : (['-', ' '] ++ item).drop 2 = item := rfl
  have split := own_lines deeper below
  rw [parseList, if_neg (item_here item), if_neg (lt_irrefl indent), content, solid.strip_eq,
    if_pos ⟨colon, unquoted⟩, split.1, split.2]
  simp only [inner]
  rfl

/-! Whole blocks. -/

private theorem parseMap_end {rest : List Line} (below : Below indent rest) :
    parseMap text (fuel + 1) rest indent result = .ok (result, rest) := by
  cases rest with
  | nil => rw [parseMap]
  | cons next rest =>
    have less := below next rfl
    rw [parseMap, if_pos less]

private theorem parseList_end {read : List PyVal} {rest : List Line} (below : Below indent rest) :
    parseList text (fuel + 1) rest indent read = .ok (read, rest) := by
  cases rest with
  | nil => rw [parseList]
  | cons next rest =>
    have less := below next rfl
    rw [parseList, if_pos (.inl less)]

/-- The entries as the parser collects them. -/
def named (entries : List (PyVal × PyVal)) : Entries := entries.map fun e => (keyName e.1, e.2)

private theorem mapping_named {first : Bool} {entries : List (PyVal × PyVal)}
    (readable : legibleEntries text first entries = true) : mapping (named entries) = .dict entries := by
  have keys : ∀ e ∈ entries, (PyVal.str (keyName e.1), e.2) = e := by
    induction entries generalizing first with
    | nil => simp
    | cons e entries ih =>
      obtain ⟨key, value⟩ := e
      cases key with
      | str key =>
        rw [legibleEntries, Bool.and_eq_true] at readable
        exact List.forall_mem_cons.mpr ⟨rfl, ih readable.2⟩
      | _ => simp [legibleEntries] at readable
  rw [mapping, named, List.map_map]
  congr 1
  conv => rhs; rw [← List.map_id entries]
  exact List.map_congr_left keys

/-- A mapping's block does not start with the mark of an item, a list's block does. -/
private theorem head_entries {first : Bool} {entries : List (PyVal × PyVal)}
    (sound : builtEntries entries = true) (readable : legibleEntries text first entries = true)
    (some_entries : entries ≠ []) (indent : ℕ) (rest : List Line) :
    ((entryLines text indent entries ++ rest).head?.any fun line => isItem line.2) = false := by
  rcases entries with _ | ⟨⟨key, value⟩, entries⟩
  · exact absurd rfl some_entries
  · cases key with
    | str key =>
      rw [builtEntries, Bool.and_eq_true, Bool.and_eq_true, decide_eq_true_eq] at sound
      rw [legibleEntries, Bool.and_eq_true, Bool.and_eq_true, Bool.and_eq_true] at readable
      have good : Key key := key_of_legible sound.1.1 readable.1.1.1
      have line : ∃ after, entryText text (.str key) value = key.toList ++ ':' :: after := by
        by_cases block : nested value = true
        · exact ⟨[], by rw [entryText, if_pos block, str]⟩
        · exact ⟨' ' :: dumpScalar text value, by rw [entryText, if_neg block]; rfl⟩
      obtain ⟨after, line⟩ := line
      simp [entryLines, line, no_item_line good after]
    | _ => simp [legibleEntries] at readable

private theorem colon_entryText (key : String) (value : PyVal) :
    ':' ∈ entryText text (.str key) value := by
  rw [entryText]
  by_cases block : nested value = true <;> simp [block]

/-- The first key behind the mark of an item does not open a quote. -/
private theorem unquoted_entryText {key : String} {value : PyVal} {entries : List (PyVal × PyVal)}
    (sound : builtEntries ((.str key, value) :: entries) = true)
    (readable : legibleEntries text true ((.str key, value) :: entries) = true) :
    (entryText text (.str key) value).head?.any isQuote = false := by
  rw [builtEntries, Bool.and_eq_true, Bool.and_eq_true, decide_eq_true_eq] at sound
  rw [legibleEntries, Bool.and_eq_true, Bool.and_eq_true, Bool.and_eq_true] at readable
  have good : Key key := key_of_legible sound.1.1 readable.1.1.1
  have plain := (Bool.and_eq_true_iff.mp readable.1.1.1).2
  rw [entryText, str, List.head?_append_of_ne_nil _ good.nonempty]
  simpa using plain

private theorem head_items {items : List PyVal} (some_items : items ≠ []) (indent : ℕ) (rest : List Line) :
    ((itemLines text indent items ++ rest).head?.any fun line => isItem line.2) = true := by
  rcases items with _ | ⟨item, items⟩
  · exact absurd rfl some_items
  · cases item with
    | dict entries => rcases entries with _ | _ <;> rfl
    | _ => rfl

private theorem head_value {v : PyVal} (block : nested v = true) (indent : ℕ) :
    ∃ content, (writtenLines text indent v).head? = some (indent, content) := by
  rcases v with _ | _ | _ | _ | _ | (_ | ⟨item, items⟩) | (_ | ⟨entry, entries⟩)
  case list.cons =>
    cases item with
    | dict entries => cases entries <;> exact ⟨_, rfl⟩
    | _ => exact ⟨_, rfl⟩
  case dict.cons => exact ⟨_, rfl⟩
  all_goals cases block

mutual

theorem read_value (ascii : AsciiDigits text.decimal) : ∀ v : PyVal, nested v = true → built v = true →
    legible text v = true → ∀ indent rest fuel, Below indent rest →
    3 * (writtenLines text indent v ++ rest).length + 3 ≤ fuel →
    parseBlock text fuel (writtenLines text indent v ++ rest) indent = .ok (v, rest)
  | .dict entries, block, sound, readable, indent, rest, fuel, below, enough => by
    rw [built, Bool.and_eq_true, decide_eq_true_eq] at sound
    rw [legible] at readable
    rw [writtenLines] at enough ⊢
    obtain ⟨n, rfl⟩ : ∃ n, fuel = n + 1 := ⟨fuel - 1, by omega⟩
    have some_entries : entries ≠ [] := by
      rintro rfl
      cases block
    have head := head_entries sound.2 readable some_entries indent rest
    have inner := read_entries ascii false entries sound.2 sound.1 readable indent rest n [] below
      (by simp) (by omega)
    rw [parseBlock, head, if_neg Bool.false_ne_true, inner]
    simp only [List.nil_append]
    exact congrArg (fun v => Except.ok (v, rest)) (mapping_named readable)
  | .list items, block, sound, readable, indent, rest, fuel, below, enough => by
    rw [built] at sound
    rw [legible] at readable
    rw [writtenLines] at enough ⊢
    obtain ⟨n, rfl⟩ : ∃ n, fuel = n + 1 := ⟨fuel - 1, by omega⟩
    have some_items : items ≠ [] := by
      rintro rfl
      cases block
    have inner := read_items ascii items sound readable indent rest n [] below (by omega)
    rw [parseBlock, head_items some_items, if_pos rfl, inner]
    rfl
  | .none, block, _, _, _, _, _, _, _ => by simp [nested] at block
  | .bool _, block, _, _, _, _, _, _, _ => by simp [nested] at block
  | .int _, block, _, _, _, _, _, _, _ => by simp [nested] at block
  | .float _, block, _, _, _, _, _, _, _ => by simp [nested] at block
  | .str _, block, _, _, _, _, _, _, _ => by simp [nested] at block

theorem read_entries (ascii : AsciiDigits text.decimal) (first : Bool) :
    ∀ entries : List (PyVal × PyVal), builtEntries entries = true →
    (entries.map fun e => keyName e.1).Nodup → legibleEntries text first entries = true →
    ∀ indent rest fuel result, Below indent rest →
    (∀ e ∈ entries, keyName e.1 ∉ result.map Prod.fst) →
    3 * (entryLines text indent entries ++ rest).length + 1 ≤ fuel →
    parseMap text fuel (entryLines text indent entries ++ rest) indent result =
      .ok (result ++ named entries, rest)
  | [], _, _, _, indent, rest, fuel, result, below, _, enough => by
    obtain ⟨n, rfl⟩ : ∃ n, fuel = n + 1 := ⟨fuel - 1, by omega⟩
    simp [entryLines, parseMap_end below, named]
  | (.str key, value) :: entries, sound, distinct, readable, indent, rest, fuel, result, below, fresh,
      enough => by
    rw [builtEntries, Bool.and_eq_true, Bool.and_eq_true, decide_eq_true_eq] at sound
    rw [legibleEntries, Bool.and_eq_true, Bool.and_eq_true, Bool.and_eq_true] at readable
    rw [List.map_cons, List.nodup_cons] at distinct
    obtain ⟨⟨present, sound_value⟩, sound_rest⟩ := sound
    obtain ⟨⟨⟨good_key, -⟩, good_value⟩, good_rest⟩ := readable
    have good : Key key := key_of_legible present good_key
    have absent : key ∉ result.map Prod.fst := fresh (.str key, value) List.mem_cons_self
    have next : Below (indent + 1) (entryLines text indent entries ++ rest) :=
      below_entries below entries
    have fresh_rest : ∀ e ∈ entries, keyName e.1 ∉ (result ++ [(key, value)]).map Prod.fst := by
      intro e there
      rw [List.map_append, List.mem_append, not_or]
      refine ⟨fresh e (List.mem_cons_of_mem _ there), ?_⟩
      rw [List.map_singleton, List.mem_singleton]
      intro same
      exact distinct.1 (List.mem_map.mpr ⟨e, there, same⟩)
    rw [entryLines] at enough ⊢
    simp only [List.cons_append, List.length_cons, List.length_append] at enough
    obtain ⟨n, rfl⟩ : ∃ n, fuel = n + 1 := ⟨fuel - 1, by omega⟩
    have later (m : ℕ) (left : 3 * (entryLines text indent entries ++ rest).length + 1 ≤ m) :
        parseMap text m (entryLines text indent entries ++ rest) indent (result ++ [(key, value)]) =
          .ok (result ++ named ((.str key, value) :: entries), rest) := by
      rw [read_entries ascii false entries sound_rest distinct.2 good_rest indent rest m _ below fresh_rest
        left]
      simp [named, keyName]
    by_cases block : nested value = true
    · rw [if_pos block] at good_value
      have inner := read_value ascii value block sound_value good_value (indent + 2)
        (entryLines text indent entries ++ rest) n (next.mono (by omega))
        (by simp only [List.length_append]; omega)
      obtain ⟨content, head⟩ : ∃ content,
          (writtenLines text (indent + 2) value).head? = some (indent + 2, content) :=
        head_value block (indent + 2)
      have child : (writtenLines text (indent + 2) value ++ (entryLines text indent entries ++ rest)).head? =
          some (indent + 2, content) := by
        rw [List.head?_append, head, Option.some_or]
      rw [List.cons_append, List.append_assoc, entryText, if_pos block, str,
        parseMap_block good child (by simp), inner]
      have rest_read := later n (by simp only [List.length_append]; omega)
      rw [← Dict.set_of_absent absent] at rest_read
      exact rest_read
    · rw [if_neg block] at good_value
      have leaf := leaf_of_legible ascii good_value
      have blank : strip ([' '] ++ dumpScalar text value) = dumpScalar text value := by
        rw [strip, TextLines.strip_append_blanks (List.all_iff_forall_prop.mp (by decide))]
        exact leaf.solid.strip_eq
      have line : entryText text (.str key) value =
          key.toList ++ ':' :: ([' '] ++ dumpScalar text value) := by
        rw [entryText, if_neg block]
        rfl
      rw [line, writtenLines_single (by simpa using block), List.nil_append, List.cons_append,
        parseMap_scalar good (by rw [blank]; exact leaf.solid.nonempty)
          (by rw [blank]; exact leaf.header rfl), blank, leaf.value, Dict.set_of_absent absent]
      exact later n (by simp only [List.length_append]; omega)
  | (.none, _) :: _, _, _, readable, _, _, _, _, _, _, _ => by simp [legibleEntries] at readable
  | (.bool _, _) :: _, _, _, readable, _, _, _, _, _, _, _ => by simp [legibleEntries] at readable
  | (.int _, _) :: _, _, _, readable, _, _, _, _, _, _, _ => by simp [legibleEntries] at readable
  | (.float _, _) :: _, _, _, readable, _, _, _, _, _, _, _ => by simp [legibleEntries] at readable
  | (.list _, _) :: _, _, _, readable, _, _, _, _, _, _, _ => by simp [legibleEntries] at readable
  | (.dict _, _) :: _, _, _, readable, _, _, _, _, _, _, _ => by simp [legibleEntries] at readable

theorem read_items (ascii : AsciiDigits text.decimal) : ∀ items : List PyVal, builtItems items = true →
    legibleItems text items = true → ∀ indent rest fuel read, Below indent rest →
    3 * (itemLines text indent items ++ rest).length + 2 ≤ fuel →
    parseList text fuel (itemLines text indent items ++ rest) indent read = .ok (read ++ items, rest)
  | [], _, _, indent, rest, fuel, read, below, enough => by
    obtain ⟨n, rfl⟩ : ∃ n, fuel = n + 1 := ⟨fuel - 1, by omega⟩
    simp [itemLines, parseList_end below]
  | item :: items, sound, readable, indent, rest, fuel, read, below, enough => by
    rw [builtItems, Bool.and_eq_true] at sound
    have next : Below (indent + 1) (itemLines text indent items ++ rest) := below_items below items
    have later (m : ℕ) (good_rest : legibleItems text items = true)
        (left : 3 * (itemLines text indent items ++ rest).length + 2 ≤ m) :
        parseList text m (itemLines text indent items ++ rest) indent (read ++ [item]) =
          .ok (read ++ item :: items, rest) := by
      rw [read_items ascii items sound.2 good_rest indent rest m _ below left, List.append_assoc,
        List.singleton_append]
    cases item with
    | dict entries =>
      rw [built, Bool.and_eq_true, decide_eq_true_eq] at sound
      rw [legibleItems, Bool.and_eq_true] at readable
      rw [itemLines, List.append_assoc] at enough ⊢
      rcases entries with _ | ⟨⟨key, value⟩, entries⟩
      · have leaf : Leaf text false (.dict []) := leaf_of_legible ascii rfl
        have line : marked indent (entryLines text (indent + 2) []) =
            [(indent, ['-', ' '] ++ dumpScalar text (.dict []))] := by
          simp [entryLines, marked, dumpScalar, str, MiniYaml.repr, reprEntries]
          decide
        rw [line, List.singleton_append] at enough ⊢
        simp only [List.length_cons] at enough
        obtain ⟨n, rfl⟩ : ∃ n, fuel = n + 1 := ⟨fuel - 1, by omega⟩
        rw [parseList_scalar leaf]
        exact later n readable.2 (by omega)
      · cases key with
        | str key =>
          let item := entryText text (.str key) value
          let own := writtenLines text (indent + 2 + 2) value ++ entryLines text (indent + 2) entries
          have lines : entryLines text (indent + 2) ((.str key, value) :: entries) =
              (indent + 2, item) :: own := by rw [entryLines]
          rw [lines, marked, List.cons_append] at enough ⊢
          simp only [List.length_cons, List.length_append] at enough
          obtain ⟨n, rfl⟩ : ∃ n, fuel = n + 1 := ⟨fuel - 1, by omega⟩
          have inner := read_entries ascii true ((.str key, value) :: entries) sound.1.2 sound.1.1
            readable.1 (indent + 2) [] n [] (by simp [Below]) (by simp) (by simp only [lines, List.append_nil, List.length_cons]; omega)
          rw [lines, List.append_nil, List.nil_append] at inner
          have kept := kept_entries ascii true _ sound.1.2 readable.1 (indent + 2)
          rw [lines] at kept
          have deeper : ∀ line ∈ own, indent + 2 ≤ line.1 := fun line there =>
            indented_entries (indent + 2) ((.str key, value) :: entries) (indent + 2) le_rfl
              line (by rw [lines]; exact List.mem_cons_of_mem _ there)
          rw [parseList_mapping kept.1 (colon_entryText key value) (unquoted_entryText sound.1.2 readable.1)
            deeper next inner, mapping_named readable.1]
          exact later n readable.2 (by simp only [List.length_append]; omega)
        | _ => simp [legibleEntries] at readable
    | _ =>
      rw [legibleItems_single (by simp), Bool.and_eq_true, Bool.and_eq_true] at readable
      rw [itemLines_single (by simp), List.cons_append] at enough ⊢
      simp only [List.length_cons] at enough
      obtain ⟨n, rfl⟩ : ∃ n, fuel = n + 1 := ⟨fuel - 1, by omega⟩
      rw [parseList_scalar (leaf_of_legible ascii readable.1.1)]
      exact later n readable.2 (by omega)

end

/-- What is dumped from a legible document is parsed as that document. -/
theorem parse_dump_of_legible (ascii : AsciiDigits text.decimal) {v : PyVal} (block : nested v = true)
    (sound : built v = true) (readable : legible text v = true) : parse text (dump text 0 v) = .ok v := by
  have lines := cleanLines_dump ascii block sound readable
  obtain ⟨content, head⟩ : ∃ content, (writtenLines text 0 v).head? = some (0, content) :=
    head_value block 0
  have inner := read_value ascii v block sound readable 0 []
    (3 * (writtenLines text 0 v).length + 3) (by simp [Below]) (by simp)
  rw [List.append_nil] at inner
  rw [parse, lines]
  rcases shown : writtenLines text 0 v with _ | ⟨line, below⟩
  · simp [shown] at head
  · rw [shown] at head inner
    have first : line = (0, content) := by simpa using head
    subst first
    simp only [inner]
    rfl

end DroidOs.Util.RoundTrip
