/- GID: DroidOs/Util/NearLines
   generality: I
   source: src/droidos/util/miniyaml.py
   digest: Documents that differ in one line that a comment leaves in its role parse alike. -/

import DroidOs.Util.CommentText
import DroidOs.Util.Parsed

set_option autoImplicit false
set_option relaxedAutoImplicit false

namespace DroidOs.Util.NearLines

open DroidOs.Lib DroidOs.Core.Values DroidOs.Util.Characters DroidOs.Util.MiniYaml
  DroidOs.Util.LineRoles DroidOs.Util.CommentText

/-! Lines that a comment leaves in their role. -/

/-- No document that parses reads the line: it is neither an entry nor an item. -/
def Unread (content : List Char) : Prop :=
  ∃ entry, entryText content = some entry ∧ isEntry entry = false

/-- The header of a block scalar that is folded, or chomped already. -/
def Steady (content : List Char) : Prop :=
  ∃ entry folded chomped, entryText content = some entry ∧
    blockScalarKind (restOf entry) = some (folded, chomped) ∧ (folded = true ∨ chomped = true)

/-- The second content is the first with a comment that changes nothing. -/
structure Alike (content content' : List Char) : Prop where
  some_text : content ≠ []
  dashed : content ≠ ['-']
  bare : TextLines.Bare isSpace content
  extended : ∃ tail, Extended tail content content'
  unchanged : Unread content ∨ Steady content

/-- At most one line outside block scalars differs, and is alike. `header` is the block scalar
that is open before the lines. -/
inductive Near : Option ℕ → List Line → List Line → Prop
  | same (header : Option ℕ) (lines : List Line) : Near header lines lines
  | here {header : Option ℕ} {indent : ℕ} {content content' : List Char} (lines : List Line)
      (outside : inBody header indent = false) (alike : Alike content content') :
      Near header ((indent, content) :: lines) ((indent, content') :: lines)
  | later {header : Option ℕ} (line : Line) {lines lines' : List Line}
      (near : Near (follow header line) lines lines') : Near header (line :: lines) (line :: lines')

variable {text : YamlText} {header : Option ℕ} {lines lines' : List Line}

theorem Alike.isItem {content content' : List Char} (alike : Alike content content') :
    isItem content' = isItem content := by
  obtain ⟨tail, extended⟩ := alike.extended
  exact extended.isItem alike.some_text alike.dashed

/-- The first lines have the same place and the same kind. -/
theorem near_head (near : Near header lines lines') :
    (∀ line' ∈ lines'.head?, ∃ line ∈ lines.head?, line.1 = line'.1 ∧ isItem line.2 = isItem line'.2) ∧
      ∀ line ∈ lines.head?, ∃ line' ∈ lines'.head?, line'.1 = line.1 ∧ isItem line'.2 = isItem line.2 := by
  cases near with
  | same =>
    exact ⟨fun line first => ⟨line, first, rfl, rfl⟩, fun line first => ⟨line, first, rfl, rfl⟩⟩
  | here lines outside alike =>
    have kind := alike.isItem
    simp [kind]
  | later line near => simp

theorem near_length (near : Near header lines lines') : lines'.length = lines.length := by
  induction near with
  | same => rfl
  | here => rfl
  | later line near ih => rw [List.length_cons, List.length_cons, ih]

/-- The body of a block scalar is the same in both. -/
private theorem near_body {indent : ℕ} (near : Near (some indent) lines lines') :
    deeper indent lines' = deeper indent lines ∧
      Near (some indent) (shallower indent lines) (shallower indent lines') := by
  generalize opened : some indent = header at near
  induction near with
  | same => exact ⟨rfl, .same _ _⟩
  | @here _ current _ _ lines outside alike =>
    subst opened
    have flat : ¬ indent < current := by simpa [inBody] using outside
    simp only [deeper, shallower, List.takeWhile_cons, List.dropWhile_cons, flat, decide_false]
    exact ⟨rfl, .here lines outside alike⟩
  | later line near ih =>
    subst opened
    by_cases deep : indent < line.1
    · have stays : follow (some indent) line = some indent := by simp [follow, inBody, deep]
      obtain ⟨same, below⟩ := ih stays.symm
      simp only [deeper, shallower, List.takeWhile_cons, List.dropWhile_cons, deep, decide_true,
        if_true] at same below ⊢
      rw [stays] at below
      exact ⟨by rw [same], below⟩
    · simp only [deeper, shallower, List.takeWhile_cons, List.dropWhile_cons, deep, decide_false]
      exact ⟨rfl, .later line near⟩

private theorem near_deeper (indent : ℕ) (near : Near header lines lines') :
    Near header (deeper indent lines) (deeper indent lines') := by
  unfold deeper
  induction near with
  | same => exact .same _ _
  | here lines outside alike =>
    rw [List.takeWhile_cons, List.takeWhile_cons]
    split
    · exact .here _ outside alike
    · exact .same _ _
  | later line near ih =>
    rw [List.takeWhile_cons, List.takeWhile_cons]
    split
    · exact .later line ih
    · exact .same _ _

private theorem near_shallower {indent : ℕ} (deep : Deep indent header)
    (near : Near header lines lines') : ∃ header', Deep indent header' ∧
      Near header' (shallower indent lines) (shallower indent lines') := by
  unfold shallower
  induction near with
  | same => exact ⟨none, nofun, .same _ _⟩
  | here lines outside alike =>
    rw [List.dropWhile_cons, List.dropWhile_cons]
    split
    · exact ⟨none, nofun, .same _ _⟩
    · exact ⟨_, deep, .here lines outside alike⟩
  | later line near ih =>
    rw [List.dropWhile_cons, List.dropWhile_cons]
    split
    · rename_i below
      simp only [decide_eq_true_eq] at below
      exact ih (deep.follow (by omega))
    · exact ⟨_, deep, .later line near⟩

private theorem outside_shallower {indent : ℕ} (deep : Deep indent header) (lines : List Line) :
    Outside header (shallower indent lines) :=
  outside_of_le deep (shallower_le indent lines)

/-! Near lines parse alike. -/

/-- What parses, parses with the same value on near lines, and leaves near lines. -/
structure Transfers (text : YamlText) (fuel : ℕ) : Prop where
  block : ∀ {header lines lines' indent value rest}, Near header lines lines' → Outside header lines →
    parseBlock text fuel lines indent = .ok (value, rest) → ∃ header' rest',
      parseBlock text fuel lines' indent = .ok (value, rest') ∧ Near header' rest rest' ∧
        Outside header' rest
  map : ∀ {header lines lines' indent result entries rest}, Near header lines lines' →
    Outside header lines → parseMap text fuel lines indent result = .ok (entries, rest) →
      ∃ header' rest', parseMap text fuel lines' indent result = .ok (entries, rest') ∧
        Near header' rest rest' ∧ Outside header' rest
  list : ∀ {header lines lines' indent result items rest}, Near header lines lines' →
    Outside header lines → parseList text fuel lines indent result = .ok (items, rest) →
      ∃ header' rest', parseList text fuel lines' indent result = .ok (items, rest') ∧
        Near header' rest rest' ∧ Outside header' rest

/-- An entry reads the same value above near lines. -/
private theorem reads_near {fuel indent : ℕ} {entry : List Char} {value : PyVal} {below : List Line}
    (transfers : Transfers text fuel)
    (near : Near ((blockScalarKind (restOf entry)).map fun _ => indent) lines lines')
    (reads : EntryReads text fuel lines indent entry value below) :
    ∃ header' below', EntryReads text fuel lines' indent entry value below' ∧
      Near header' below below' ∧ Outside header' below := by
  cases reads with
  | block block kind =>
    rw [kind] at near
    obtain ⟨same, after⟩ := near_body near
    have value_same : (parseBlockScalar lines' indent block).1 =
        (parseBlockScalar lines indent block).1 := by
      unfold parseBlockScalar
      unfold deeper at same
      simp only [same]
    refine ⟨_, _, value_same ▸ .block block kind, after, outside_shallower ?_ lines⟩
    rintro outer ⟨⟩
    exact le_rfl
  | nested child value below empty first deep reads =>
    rw [empty, blockScalarKind_nil] at near
    obtain ⟨child', first', same, -⟩ := (near_head near).2 child first
    obtain ⟨header', below', reads', after, outside⟩ := transfers.block near (fun _ _ => rfl) reads
    exact ⟨header', below', .nested child' value below' empty first' (same ▸ deep) (same ▸ reads'),
      after, outside⟩
  | bare empty flat =>
    rw [empty, blockScalarKind_nil] at near
    refine ⟨none, lines', .bare empty ?_, near, fun _ _ => rfl⟩
    intro child' first'
    obtain ⟨child, first, same, -⟩ := (near_head near).1 child' first'
    exact same ▸ flat child first
  | plain no_header some_rest =>
    rw [no_header] at near
    exact ⟨none, lines', .plain no_header some_rest, near, fun _ _ => rfl⟩

/-- A steady header with a comment behind it reads the same block. -/
private theorem reads_steady {fuel indent : ℕ} {entry entry' : List Char} {value : PyVal}
    {below : List Line} (is_entry : isEntry entry = true) (steady : Steady entry)
    (longer : ∃ tail, Extended tail entry entry')
    (reads : EntryReads text fuel lines indent entry value below) :
    EntryReads text fuel lines indent entry' value below := by
  obtain ⟨same, folded, chomped, entry_text, kind, keeps⟩ := steady
  rw [entryText_of_isEntry is_entry] at entry_text
  cases entry_text
  obtain ⟨tail, extended⟩ := longer
  have kind' := extended.blockScalarKind (isItem_of_isEntry is_entry).2
  rw [kind, Option.map_some] at kind'
  cases reads with
  | block block found =>
    rw [kind] at found
    cases found
    have value_same : (parseBlockScalar lines indent (folded, chomped || decide ('-' ∈ tail))).1 =
        (parseBlockScalar lines indent (folded, chomped)).1 := by
      rcases keeps with rfl | rfl
      · simp [parseBlockScalar]
      · rw [Bool.true_or]
    exact value_same ▸ .block _ kind'
  | nested child value below empty =>
    rw [empty] at kind
    exact nomatch kind
  | bare empty =>
    rw [empty] at kind
    exact nomatch kind
  | plain no_header =>
    rw [no_header] at kind
    exact nomatch kind

/-- An entry that a comment leaves in its role. -/
private theorem isEntry_alike {entry entry' : List Char} (is_entry : isEntry entry = true)
    (alike : Alike entry entry') : isEntry entry' = true ∧ keyOf entry' = keyOf entry ∧ Steady entry := by
  obtain ⟨tail, extended⟩ := alike.extended
  obtain ⟨no_item, colon⟩ := isItem_of_isEntry is_entry
  refine ⟨?_, extended.keyOf colon, ?_⟩
  · simp [isEntry, alike.isItem, no_item, extended.mem colon]
  · rcases alike.unchanged with ⟨same, entry_text, unread⟩ | steady
    · rw [entryText_of_isEntry is_entry] at entry_text
      cases entry_text
      rw [is_entry] at unread
      cases unread
    · exact steady

private theorem map_transfers {fuel indent : ℕ} {rest : List Line} {result entries : Entries}
    (transfers : Transfers text fuel) (near : Near header lines lines') (outside : Outside header lines)
    (parsed : parseMap text (fuel + 1) lines indent result = .ok (entries, rest)) :
    ∃ header' rest', parseMap text (fuel + 1) lines' indent result = .ok (entries, rest') ∧
      Near header' rest rest' ∧ Outside header' rest := by
  rcases parseMap_cases parsed with ⟨rfl, rfl, stops⟩ | ⟨content, below, value, after, rfl, is_entry,
    reads, parsed_after⟩
  · refine ⟨header, lines', parseMap_stop ?_ entries, near, outside⟩
    intro line' first'
    obtain ⟨line, first, same, -⟩ := (near_head near).1 line' first'
    exact same ▸ stops line first
  cases near with
  | same => exact ⟨none, rest, parsed, .same _ _, fun _ _ => rfl⟩
  | @here _ _ _ content' _ _ alike =>
    obtain ⟨is_entry', key, steady⟩ := isEntry_alike is_entry alike
    have reads' := reads_steady is_entry steady alike.extended reads
    refine ⟨none, rest, ?_, .same _ _, fun _ _ => rfl⟩
    rw [parseMap_entry is_entry' reads', key]
    exact parsed_after
  | @later _ line _ below' near =>
    have first := outside (indent, content) rfl
    simp only [follow, first, Bool.false_eq_true, if_false, headerIndent_entry is_entry] at near
    obtain ⟨header', after', reads', near', outside'⟩ := reads_near transfers near reads
    rw [parseMap_entry is_entry reads']
    exact transfers.map near' outside' parsed_after

/-- An item that a comment leaves in its role starts an entry, and its text is left in its role. -/
private theorem item_alike {content content' : List Char} (item : isItem content = true)
    (alike : Alike content content') (is_entry : isEntry (itemText content) = true) :
    Alike (itemText content) (itemText content') := by
  obtain ⟨tail, extended⟩ := alike.extended
  obtain ⟨visible, longer⟩ := extended.itemText alike.bare item
  obtain ⟨no_item, colon⟩ := isItem_of_isEntry is_entry
  refine ⟨visible, ?_, TextLines.bare_strip _, ⟨tail, longer⟩, ?_⟩
  · intro dash
    rw [dash] at colon
    simp at colon
  · rcases alike.unchanged with ⟨entry, entry_text, unread⟩ | ⟨entry, folded, chomped, entry_text, steady⟩
    · unfold entryText at entry_text
      rw [if_pos item] at entry_text
      split at entry_text
      · cases entry_text
        rw [is_entry] at unread
        exact nomatch unread
      · exact nomatch entry_text
    · unfold entryText at entry_text
      rw [if_pos item] at entry_text
      split at entry_text
      · cases entry_text
        exact .inr ⟨_, folded, chomped, entryText_of_isEntry is_entry, steady⟩
      · exact nomatch entry_text

private theorem starts_of_alike {content content' : List Char} (item : isItem content = true)
    (alike : Alike content content') : startsEntry (itemText content) = true := by
  have some_entry : ∃ entry, entryText content = some entry := by
    rcases alike.unchanged with ⟨entry, entry_text, -⟩ | ⟨entry, _, _, entry_text, -⟩ <;>
      exact ⟨entry, entry_text⟩
  obtain ⟨entry, entry_text⟩ := some_entry
  unfold entryText at entry_text
  rw [if_pos item] at entry_text
  split at entry_text
  · assumption
  · exact nomatch entry_text

/-- What an item's mapping is read from starts with an entry. -/
private theorem isEntry_of_item {fuel indent : ℕ} {item : List Char} {inner left : List Line}
    {entries : Entries}
    (reads : parseMap text fuel ((indent, item) :: inner) indent [] = .ok (entries, left)) :
    isEntry item = true := by
  cases fuel with
  | zero => exact nomatch reads
  | succ fuel =>
    rcases parseMap_cases reads with ⟨-, -, stops⟩ | ⟨content, below, value, after, same, is_entry, -⟩
    · exact absurd (stops _ rfl) (lt_irrefl indent)
    · cases same
      exact is_entry

theorem startsEntry_extended {tail item item' : List Char} (extended : Extended tail item item')
    (some_text : item ≠ []) (starts : startsEntry item = true) : startsEntry item' = true := by
  simp only [startsEntry, Bool.and_eq_true, decide_eq_true_eq, extended.head some_text] at starts ⊢
  exact ⟨extended.mem starts.1, starts.2⟩

private theorem list_transfers {fuel indent : ℕ} {rest : List Line} {result items : List PyVal}
    (transfers : Transfers text fuel) (near : Near header lines lines') (outside : Outside header lines)
    (parsed : parseList text (fuel + 1) lines indent result = .ok (items, rest)) :
    ∃ header' rest', parseList text (fuel + 1) lines' indent result = .ok (items, rest') ∧
      Near header' rest rest' ∧ Outside header' rest := by
  rcases parseList_cases parsed with ⟨rfl, rfl, stops⟩ | ⟨content, below, rfl, item, ways⟩
  · refine ⟨header, lines', parseList_stop ?_, near, outside⟩
    intro line' first'
    obtain ⟨line, first, same, kind⟩ := (near_head near).1 line' first'
    rw [← same, ← kind]
    exact stops line first
  cases near with
  | same => exact ⟨none, rest, parsed, .same _ _, fun _ _ => rfl⟩
  | @here _ _ _ content' _ _ alike =>
    have starts := starts_of_alike item alike
    rcases ways with ⟨-, entries, left, reads, parsed_after⟩ | ⟨plain, -⟩
    · have inner := item_alike item alike (isEntry_of_item reads)
      obtain ⟨tail, extended⟩ := alike.extended
      obtain ⟨visible, longer⟩ := extended.itemText alike.bare item
      have inner_near : Near none ((indent + 2, itemText content) :: deeper indent below)
          ((indent + 2, itemText content') :: deeper indent below) := .here _ rfl inner
      obtain ⟨_, left', reads', -⟩ := transfers.map inner_near (fun _ _ => rfl) reads
      refine ⟨none, rest, ?_, .same _ _, fun _ _ => rfl⟩
      rw [parseList_entry (alike.isItem.trans item) (startsEntry_extended longer visible starts) reads']
      exact parsed_after
    · rw [plain] at starts
      exact nomatch starts
  | @later _ line _ below' near =>
    have first := outside (indent, content) rfl
    simp only [follow, first, Bool.false_eq_true, if_false] at near
    rcases ways with ⟨starts, entries, left, reads, parsed_after⟩ | ⟨plain, parsed_after⟩
    · have is_entry := isEntry_of_item reads
      have opens : headerIndent (indent, content) = headerIndent (indent + 2, itemText content) := by
        rw [headerIndent_entry is_entry]
        simp [headerIndent, entryText, item, starts, entryIndent]
      have inner : Near none ((indent + 2, itemText content) :: deeper indent below)
          ((indent + 2, itemText content) :: deeper indent below') := by
        apply Near.later
        rw [opens] at near
        exact near_deeper indent near
      obtain ⟨_, left', reads', -⟩ := transfers.map inner (fun _ _ => rfl) reads
      have deep : Deep indent (headerIndent (indent, content)) := fun _ opens =>
        headerIndent_le (Option.mem_def.mp opens)
      obtain ⟨header', deep', near'⟩ := near_shallower deep near
      rw [parseList_entry item starts reads']
      exact transfers.list near' (outside_shallower deep' below) parsed_after
    · have opens : headerIndent (indent, content) = none := by
        simp [headerIndent, entryText, item, plain]
      rw [opens] at near
      rw [parseList_scalar item plain]
      exact transfers.list near (fun _ _ => rfl) parsed_after

private theorem block_transfers {fuel indent : ℕ} {rest : List Line} {value : PyVal}
    (transfers : Transfers text fuel) (near : Near header lines lines') (outside : Outside header lines)
    (parsed : parseBlock text (fuel + 1) lines indent = .ok (value, rest)) :
    ∃ header' rest', parseBlock text (fuel + 1) lines' indent = .ok (value, rest') ∧
      Near header' rest rest' ∧ Outside header' rest := by
  rcases parseBlock_cases parsed with ⟨⟨line, first, item⟩, items, rfl, reads⟩ |
    ⟨no_item, entries, rfl, reads⟩
  · obtain ⟨header', rest', reads', after⟩ := transfers.list near outside reads
    obtain ⟨line', first', -, kind⟩ := (near_head near).2 line first
    exact ⟨header', rest', parseBlock_list ⟨line', first', kind.trans item⟩ reads', after⟩
  · obtain ⟨header', rest', reads', after⟩ := transfers.map near outside reads
    refine ⟨header', rest', parseBlock_map ?_ reads', after⟩
    intro line' first'
    obtain ⟨line, first, -, kind⟩ := (near_head near).1 line' first'
    exact kind.symm.trans (no_item line first)

theorem transfers (text : YamlText) (fuel : ℕ) : Transfers text fuel := by
  induction fuel with
  | zero =>
    constructor
    · intro _ _ _ _ _ _ _ _ parsed
      exact nomatch parsed
    · intro _ _ _ _ _ _ _ _ _ parsed
      exact nomatch parsed
    · intro _ _ _ _ _ _ _ _ _ parsed
      exact nomatch parsed
  | succ fuel ih => exact ⟨block_transfers ih, map_transfers ih, list_transfers ih⟩

end DroidOs.Util.NearLines
