/- GID: DroidOs/Util/CommentLaw
   generality: I
   source: src/droidos/util/miniyaml.py
   digest: The lines behind which a comment can be put without a change of the parsed value. -/

import DroidOs.Util.DumpedText
import DroidOs.Util.NearLines

set_option autoImplicit false
set_option relaxedAutoImplicit false

namespace DroidOs.Util.CommentLaw

open DroidOs.Lib DroidOs.Core.Values DroidOs.Util.Characters DroidOs.Util.MiniYaml
  DroidOs.Util.LineRoles DroidOs.Util.CommentText DroidOs.Util.NearLines

variable {text : YamlText}

/-! A line of a document. -/

/-- What is before a line ends in a line break, and what is after it starts with one. -/
structure Between (before after : List Char) : Prop where
  starts : ∀ c ∈ before.getLast?, isLineBreak c = true
  ends : ∀ c ∈ after.head?, isLineBreak c = true

def Unbroken (line : List Char) : Prop := ∀ c ∈ line, isLineBreak c = false

private theorem isLineBreak_second (c d : Char) (paired : isCrLf c d = true) :
    isLineBreak d = true := by
  simp only [isCrLf, decide_eq_true_eq] at paired
  rw [paired.2]
  decide

theorem splitlines_between {before after line : List Char} (between : Between before after)
    (some_text : line ≠ []) (unbroken : Unbroken line) :
    splitlines (before ++ line ++ after) =
      splitlines before ++ line :: (splitlines after).tail := by
  have first : splitlines (line ++ after) = line :: (splitlines after).tail :=
    TextLines.splitLines_first isLineBreak_of_isCrLf isLineBreak_second some_text unbroken between.ends
  rw [← first, List.append_assoc]
  rcases List.eq_nil_or_concat before with rfl | ⟨front, stop, rfl⟩
  · rfl
  · rw [List.concat_eq_append, List.append_assoc]
    apply TextLines.splitLines_append (between.starts stop (by simp))
    obtain ⟨c, line, rfl⟩ := List.exists_cons_of_ne_nil some_text
    by_contra paired
    have breaks := isLineBreak_second stop c (by simpa using paired)
    rw [unbroken c List.mem_cons_self] at breaks
    exact nomatch breaks

theorem cleanLines_between {before after line : List Char} (between : Between before after)
    (some_text : line ≠ []) (unbroken : Unbroken line) :
    cleanLines (before ++ line ++ after) =
      cleanLines before ++ ((cleanLine line).toList ++ (splitlines after).tail.filterMap cleanLine) := by
  unfold cleanLines
  rw [splitlines_between between some_text unbroken, List.filterMap_append, List.filterMap_cons]
  cases cleanLine line <;> rfl

/-! The parsed line. -/

/-- The line is a mark of the document, and dropped. -/
def Marks (line : List Char) : Prop := isMarker (line.dropWhile isSpace) = true

private theorem isMarker_gap (l rest : List Char) : isMarker (l ++ ' ' :: rest) = isMarker l := by
  rcases l with - | ⟨a, - | ⟨b, - | ⟨c, l⟩⟩⟩ <;> simp [isMarker, List.isPrefixOf]

private theorem solid_of_visible {line : List Char} (visible : strip line ≠ []) :
    ∃ c ∈ line, isSpace c = false := by
  by_contra blank
  push Not at blank
  have all : ∀ c ∈ line, isSpace c = true := fun c there => by simpa using blank c there
  have empty := TextLines.strip_append_blanks all []
  rw [List.append_nil] at empty
  exact visible empty

private theorem dropWhile_visible {line : List Char} (visible : strip line ≠ []) (rest : List Char) :
    (line ++ rest).dropWhile isSpace = line.dropWhile isSpace ++ rest := by
  obtain ⟨c, there, solid⟩ := solid_of_visible visible
  rw [List.dropWhile_append, if_neg]
  intro none_left
  have all := List.dropWhile_eq_nil_iff.mp (List.isEmpty_iff.mp none_left) c there
  rw [solid] at all
  exact nomatch all

private theorem indentOf_visible {line : List Char} (visible : strip line ≠ []) (rest : List Char) :
    indentOf (line ++ rest) = indentOf line := by
  obtain ⟨c, there, solid⟩ := solid_of_visible visible
  unfold indentOf
  rw [List.takeWhile_append, if_neg]
  intro whole
  have all := List.takeWhile_eq_self_iff.mp
    (List.IsPrefix.eq_of_length (List.takeWhile_prefix _) whole) c there
  simp only [decide_eq_true_eq] at all
  subst all
  exact absurd solid (by decide)

theorem cleanLine_plain {line : List Char} (unmarked : '#' ∉ line) (visible : strip line ≠ []) :
    (Marks line → cleanLine line = none) ∧
      (¬ Marks line → cleanLine line = some (indentOf line, strip line)) := by
  have whole := Legible.stripComment_eq (Legible.hasComment_of_unmarked unmarked)
  unfold cleanLine Marks
  rw [whole]
  simp only [if_neg visible]
  exact ⟨fun marks => if_pos marks, fun plain => if_neg plain⟩

/-- Where no quote is open a comment leaves nothing but a blank. -/
theorem cleanLine_closed {line : List Char} (unmarked : '#' ∉ line) (visible : strip line ≠ [])
    (closed : openQuote line = none) (comment : List Char) :
    cleanLine (commented line comment) = cleanLine line := by
  have whole := Legible.stripComment_eq (Legible.hasComment_of_unmarked unmarked)
  have same : strip (line ++ [' ']) = strip line := by
    unfold strip TextLines.strip
    rw [dropWhile_visible visible, List.rdropWhile_concat_pos _ _ _ (by decide)]
  unfold cleanLine
  rw [whole, stripComment_closed unmarked closed]
  simp only [same, dropWhile_visible visible, isMarker_gap, indentOf_visible visible]

/-- Where a quote is open the comment goes to the content. -/
theorem cleanLine_open {line : List Char} (unmarked : '#' ∉ line) (visible : strip line ≠ [])
    (opened : openQuote line ≠ none) (comment : List Char) :
    (Marks line → cleanLine (commented line comment) = none) ∧
      (¬ Marks line → ∃ quote content tail, Known quote ∧
        cleanLine (commented line comment) = some (indentOf line, content) ∧
          tail = (strippedFrom quote (some '#') (' ' :: comment)).rdropWhile isSpace ∧
            Extended tail (strip line) content) := by
  obtain ⟨quote, kept, known⟩ := stripComment_open unmarked opened comment
  set after := strippedFrom quote (some '#') (' ' :: comment)
  have gap : line ++ ' ' :: '#' :: after = line ++ [' '] ++ '#' :: after := by simp
  have blanks : ∀ c ∈ [' '], isSpace c = true := by
    intro c there
    obtain rfl := List.mem_singleton.mp there
    rfl
  obtain ⟨wider, all, suffix, content⟩ := TextLines.strip_extended visible blanks mark_solid after
  rw [← gap] at content
  have extended : Extended (after.rdropWhile isSpace) (strip line) (strip (line ++ ' ' :: '#' :: after)) := by
    refine ⟨List.rdropWhile_idempotent _ _, wider, ?_, all, content⟩
    rintro rfl
    exact absurd (List.suffix_nil.mp suffix) (by simp)
  have some_content : strip (line ++ ' ' :: '#' :: after) ≠ [] := List.ne_nil_of_mem extended.mem_mark
  have marks_same : isMarker ((line ++ ' ' :: '#' :: after).dropWhile isSpace) =
      isMarker (line.dropWhile isSpace) := by
    rw [dropWhile_visible visible, isMarker_gap]
  unfold cleanLine Marks
  rw [kept]
  simp only [if_neg some_content, marks_same, indentOf_visible visible]
  exact ⟨fun marks => if_pos marks,
    fun plain => ⟨quote, _, _, known, if_neg plain, rfl, extended⟩⟩

/-! Documents that differ in one line. -/

/-- The line is part of the body of a block scalar. -/
def InBlock (before line : List Char) : Prop :=
  inBody (openHeader (cleanLines before)) (indentOf line) = true

private theorem near_append {header : Option ℕ} (front : List Line) {lines lines' : List Line}
    (near : Near (front.foldl follow header) lines lines') :
    Near header (front ++ lines) (front ++ lines') := by
  induction front generalizing header with
  | nil => exact near
  | cons line front ih => exact .later line (ih near)

private theorem parse_near {document document' : List Char} {value : PyVal}
    (near : Near none (cleanLines document) (cleanLines document'))
    (parsed : parse text document = .ok value) : parse text document' = .ok value := by
  unfold parse at parsed ⊢
  have same_length := near_length near
  cases first : cleanLines document with
  | nil =>
    have first' : cleanLines document' = [] := by
      rw [first] at same_length
      exact List.length_eq_zero_iff.mp same_length
    rw [first] at parsed
    rw [first']
    exact parsed
  | cons line lines =>
    cases first' : cleanLines document' with
    | nil =>
      rw [first, first'] at same_length
      exact nomatch same_length
    | cons line' lines' =>
      rw [first, first'] at near same_length
      rw [first] at parsed
      obtain ⟨_, at_head, same_indent, -⟩ := (near_head near).1 line' rfl
      cases at_head
      simp only [same_length] at parsed ⊢
      rw [← same_indent]
      cases reads : parseBlock text (3 * (line :: lines).length + 3) (line :: lines) line.1 with
      | error stop =>
        rw [reads] at parsed
        exact nomatch parsed
      | ok read =>
        obtain ⟨_, rest', reads', near_rest, -⟩ :=
          (transfers text _).block near (fun _ _ => rfl) (show _ = Except.ok (read.1, read.2) from reads)
        rw [reads] at parsed
        rw [reads']
        rcases done : read.2 with - | ⟨line, rest⟩
        · have done' := near_length near_rest
          rw [done] at done'
          rw [List.length_eq_zero_iff.mp done']
          simp only [bind, Except.bind, done] at parsed ⊢
          exact parsed
        · simp only [bind, Except.bind, done] at parsed
          exact nomatch parsed

/-- Such a line keeps its meaning whatever comment is put behind it. -/
def Steadfast (line : List Char) : Prop :=
  openQuote line = none ∨ Marks line ∨ Unread (strip line) ∨ Steady (strip line)

private theorem quoted_of_open {line : List Char} (opened : openQuote line ≠ none) :
    ∃ c ∈ line, isQuote c = true := by
  by_contra unquoted
  push Not at unquoted
  apply opened
  have plain : ∀ rest : List Char, (∀ c ∈ rest, isQuote c = false) →
      rest.foldl Legible.turn none = none := by
    intro rest none_there
    induction rest with
    | nil => rfl
    | cons c rest ih =>
      have here : Legible.turn none c = none := by simp [Legible.turn, none_there c]
      rw [List.foldl_cons, here]
      exact ih fun d there => none_there d (List.mem_cons_of_mem c there)
  exact plain line fun c there => by simpa using unquoted c there

private theorem not_dash_of_open {line : List Char} (opened : openQuote line ≠ none) :
    strip line ≠ ['-'] := by
  intro dash
  obtain ⟨c, there, quote⟩ := quoted_of_open opened
  have solid : isSpace c = false := by
    simp only [isQuote, decide_eq_true_eq] at quote
    rcases quote with rfl | rfl <;> decide
  have kept : c ∈ strip line := TextLines.mem_strip there solid
  rw [dash, List.mem_singleton] at kept
  subst kept
  exact absurd quote (by decide)

private theorem alike_of_open {line content : List Char} {tail : List Char}
    (visible : strip line ≠ []) (opened : openQuote line ≠ none)
    (extended : Extended tail (strip line) content)
    (unchanged : Unread (strip line) ∨ Steady (strip line)) : Alike (strip line) content :=
  ⟨visible, not_dash_of_open opened, TextLines.bare_strip line, ⟨tail, extended⟩, unchanged⟩

private theorem ne_nil_of_visible {line : List Char} (visible : strip line ≠ []) : line ≠ [] := by
  rintro rfl
  exact visible rfl

private theorem commented_unbroken {line comment : List Char} (unbroken : Unbroken line)
    (unbroken_comment : Unbroken comment) : Unbroken (commented line comment) := by
  intro c there
  rcases List.mem_append.mp there with front | back
  · exact unbroken c front
  · simp only [List.mem_cons] at back
    rcases back with rfl | rfl | rfl | back
    · decide
    · decide
    · decide
    · exact unbroken_comment c back

/-- A comment behind a steadfast line outside block scalars changes nothing. -/
theorem parse_steadfast {before after line : List Char} {value : PyVal}
    (steadfast : Steadfast line) (unmarked : '#' ∉ line) (visible : strip line ≠ [])
    (unbroken : Unbroken line) (between : Between before after) (outside : ¬ InBlock before line)
    (comment : List Char) (unbroken_comment : Unbroken comment)
    (parsed : parse text (before ++ line ++ after) = .ok value) :
    parse text (before ++ commented line comment ++ after) = .ok value := by
  have lines := cleanLines_between between (ne_nil_of_visible visible) unbroken
  have lines' := cleanLines_between between (by simp [commented])
    (commented_unbroken unbroken unbroken_comment)
  have of_same (same : cleanLine (commented line comment) = cleanLine line) :
      parse text (before ++ commented line comment ++ after) = .ok value := by
    rw [same, ← lines] at lines'
    unfold parse at parsed ⊢
    rw [lines']
    exact parsed
  by_cases closed : openQuote line = none
  · exact of_same (cleanLine_closed unmarked visible closed comment)
  obtain ⟨dropped, kept⟩ := cleanLine_open unmarked visible closed comment
  by_cases marks : Marks line
  · exact of_same ((dropped marks).trans ((cleanLine_plain unmarked visible).1 marks).symm)
  have unchanged := (steadfast.resolve_left closed).resolve_left marks
  obtain ⟨quote, content, tail, -, clean, -, extended⟩ := kept marks
  rw [(cleanLine_plain unmarked visible).2 marks] at lines
  rw [clean] at lines'
  apply parse_near ?_ parsed
  rw [lines, lines']
  apply near_append
  exact .here _ (by simpa [InBlock, openHeader] using outside) (alike_of_open visible closed extended unchanged)

/-! Scalars with a comment in them. -/

/-- No numeral has a hash in it. -/
structure HashFree (text : YamlText) : Prop where
  decimal : text.decimal '#' = none
  float : ∀ s : String, '#' ∈ s.toList → text.parseFloat s = none

private theorem word_none {token : List Char} (there : '#' ∈ token) : word token = none := by
  have other {w : List Char} (plain : '#' ∉ w) : token ≠ w := fun same => plain (same ▸ there)
  unfold word
  rw [if_neg, if_neg, if_neg, if_neg, if_neg]
  · exact other (by decide)
  · exact other (by decide)
  · rintro (same | same) <;> exact other (by decide) same
  · rintro (same | same) <;> exact other (by decide) same
  · rintro (same | same | same | same) <;> exact other (by decide) same

/-- A text that ends in a hash is a text. -/
private theorem scalar_hash (free : HashFree text) {token : List Char}
    (bare : TextLines.Bare isSpace token) (last : token.getLast? = some '#') :
    scalar text token = .str (String.ofList token) := by
  have there : '#' ∈ token := List.mem_of_getLast? last
  have solid : strip token = token := TextLines.strip_of_bare bare
  have unquoted : looksQuoted token = false := by
    unfold looksQuoted
    rw [last]
    by_contra quoted
    simp only [Bool.not_eq_false, Bool.and_eq_true, decide_eq_true_eq] at quoted
    rw [quoted.1.2] at quoted
    exact absurd quoted.2 (by decide)
  have no_flow : looksFlow token = false := by
    simp [looksFlow, last]
  have no_int : int text token = none :=
    int_none (solid.symm ▸ there) (by decide) free.decimal
  have no_float : text.parseFloat (String.ofList token) = none :=
    free.float _ (by simpa using there)
  simp [scalar, scalarWithin, solid, word_none there, unquoted, no_flow, no_int, no_float]

private theorem mem_of_mem_strip {s : List Char} {c : Char} (there : c ∈ strip s) : c ∈ s := by
  have kept := (List.rdropWhile_prefix isSpace (l := s.dropWhile isSpace)).subset there
  exact (List.dropWhile_suffix isSpace).subset kept

private theorem word_not_str {token : List Char} {s : String} : word token ≠ some (.str s) := by
  unfold word
  split_ifs <;> exact nofun

/-- What a scalar that is a text consists of. -/
private theorem mem_of_scalar {token : List Char} {s : String} (reads : scalar text token = .str s)
    {c : Char} (there : c ∈ s.toList) : c ∈ token := by
  unfold scalar scalarWithin at reads
  simp only at reads
  split at reads
  · rename_i value named
    subst reads
    exact absurd named word_not_str
  split at reads
  · cases reads
    rw [String.toList_ofList] at there
    exact mem_of_mem_strip (List.mem_of_mem_tail (List.dropLast_subset _ there))
  split at reads
  · split at reads <;> cases reads
  split at reads
  · cases reads
  split at reads
  · cases reads
  · cases reads
    rw [String.toList_ofList] at there
    exact mem_of_mem_strip there

/-! Documents of one line. -/

/-- An item's mapping is a list of its own. -/
private def wrapped (content : List Char) (value : PyVal) : PyVal :=
  if isItem content then .list [value] else value

private theorem all_deeper {indent : ℕ} {lines : List Line} (deep : ∀ line ∈ lines, indent < line.1) :
    deeper indent lines = lines ∧ shallower indent lines = [] := by
  constructor
  · apply List.takeWhile_eq_self_iff.mpr
    simpa using deep
  · apply List.dropWhile_eq_nil_iff.mpr
    simpa using deep

private theorem parse_entry_line {document content entry : List Char} {indent : ℕ} {body : List Line}
    {value : PyVal} (clean : cleanLines document = (indent, content) :: body)
    (entry_text : entryText content = some entry) (is_entry : isEntry entry = true)
    (deep : ∀ line ∈ body, indent + 2 < line.1)
    (reads : ∀ fuel, EntryReads text fuel body (entryIndent (indent, content)) entry value []) :
    parse text document = .ok (wrapped content (mapping [(keyOf entry, value)])) := by
  have entries (fuel outer : ℕ) (indented : entryIndent (indent, content) = outer) :
      parseMap text (fuel + 2) ((outer, entry) :: body) outer [] = .ok ([(keyOf entry, value)], []) := by
    rw [parseMap_entry is_entry (indented ▸ reads (fuel + 1)), parseMap_stop (by simp)]
    rfl
  have block (fuel : ℕ) : parseBlock text (fuel + 4) ((indent, content) :: body) indent =
      .ok (wrapped content (mapping [(keyOf entry, value)]), []) := by
    rcases entryText_cases entry_text with ⟨item, starts, rfl⟩ | ⟨line, rfl⟩
    · obtain ⟨inner, outer⟩ := all_deeper fun line there => Nat.lt_of_add_right_lt (deep line there)
      have read := entries fuel (indent + 2) (by simp [entryIndent, item])
      rw [wrapped, if_pos item]
      apply parseBlock_list ⟨_, rfl, item⟩
      rw [parseList_entry item starts (inner.symm ▸ read), outer, parseList_stop (by simp)]
      rfl
    · rw [wrapped, if_neg (by simp [line])]
      apply parseBlock_map
      · rintro other ⟨⟩
        exact line
      · exact entries (fuel + 1) indent (by simp [entryIndent, line])
  unfold parse
  rw [clean]
  simp only
  have fuel : 3 * ((indent, content) :: body).length + 3 = 3 * body.length + 2 + 4 := by
    rw [List.length_cons]
    omega
  rw [fuel, block]
  rfl

private theorem parse_scalar_line {document content : List Char} {indent : ℕ}
    (clean : cleanLines document = [(indent, content)]) (item : isItem content = true)
    (plain : startsEntry (itemText content) = false) :
    parse text document = .ok (.list [scalar text (itemText content)]) := by
  unfold parse
  rw [clean]
  have block : parseBlock text 6 [(indent, content)] indent =
      .ok (.list [scalar text (itemText content)], []) := by
    apply parseBlock_list ⟨_, rfl, item⟩
    rw [parseList_scalar item plain, parseList_stop (by simp)]
    rfl
  show (parseBlock text 6 [(indent, content)] indent >>= _) = _
  rw [block]
  rfl

private theorem wrapped_inj {content content' : List Char} (kind : isItem content' = isItem content)
    {value value' : PyVal} {key : String}
    (same : wrapped content' (mapping [(key, value')]) = wrapped content (mapping [(key, value)])) :
    value' = value := by
  unfold wrapped at same
  rw [kind] at same
  split at same <;> simpa [mapping] using same

private theorem mem_of_entryText {content entry : List Char} (entry_text : entryText content = some entry)
    {c : Char} (there : c ∈ entry) : c ∈ content := by
  rcases entryText_cases entry_text with ⟨-, -, rfl⟩ | ⟨-, rfl⟩
  · exact List.mem_of_mem_drop (mem_of_mem_strip there)
  · exact there

private theorem mem_of_restOf {entry : List Char} {c : Char} (there : c ∈ restOf entry) : c ∈ entry :=
  (List.dropWhile_suffix _).subset (List.mem_of_mem_tail (mem_of_mem_strip there))

/-- An entry goes on being one behind a comment, under the same key. -/
private theorem entry_extended {tail content content' entry : List Char}
    (extended : Extended tail content content') (bare : TextLines.Bare isSpace content)
    (some_text : content ≠ []) (dashed : content ≠ ['-']) (entry_text : entryText content = some entry)
    (is_entry : isEntry entry = true) :
    ∃ entry', entryText content' = some entry' ∧ Extended tail entry entry' ∧
      isEntry entry' = true ∧ keyOf entry' = keyOf entry := by
  obtain ⟨no_item, colon⟩ := isItem_of_isEntry is_entry
  have stays {entry' : List Char} (longer : Extended tail entry entry') :
      isEntry entry' = true ∧ keyOf entry' = keyOf entry := by
    have same := longer.isItem (List.ne_nil_of_mem colon) (by rintro rfl; simp at colon)
    refine ⟨?_, longer.keyOf colon⟩
    simp [isEntry, same, no_item, longer.mem colon]
  have kind := extended.isItem some_text dashed
  rcases entryText_cases entry_text with ⟨item, starts, rfl⟩ | ⟨line, rfl⟩
  · obtain ⟨visible, longer⟩ := extended.itemText bare item
    refine ⟨itemText content', ?_, longer, stays longer⟩
    simp [entryText, kind, item, startsEntry_extended longer visible starts]
  · refine ⟨content', ?_, extended, stays extended⟩
    simp [entryText, kind, line]

private theorem last_hash {s s' : List Char} (extended : Extended [] s s') : s'.getLast? = some '#' := by
  obtain ⟨-, gap, -, -, rfl⟩ := extended
  simp

private theorem startsEntry_bare {item item' : List Char} (extended : Extended [] item item')
    (some_text : item ≠ []) (plain : startsEntry item = false) : startsEntry item' = false := by
  have same_head := extended.head some_text
  obtain ⟨-, gap, -, blanks, rfl⟩ := extended
  have no_colon : ':' ∉ gap := fun there => absurd (blanks ':' there) (by decide)
  unfold startsEntry at plain ⊢
  rw [same_head]
  simpa [no_colon] using plain

/-! The comments that show what a line means. -/

theorem cleanLines_alone {line : List Char} (some_text : line ≠ []) (unbroken : Unbroken line) :
    cleanLines line = (cleanLine line).toList := by
  have between : Between [] [] := ⟨by simp, by simp⟩
  have lines := cleanLines_between between some_text unbroken
  simpa [cleanLines, splitlines, TextLines.splitLines] using lines

private theorem plain_alone {line : List Char} (unmarked : '#' ∉ line) (visible : strip line ≠ [])
    (unbroken : Unbroken line) (plain : ¬ Marks line) :
    cleanLines line = [(indentOf line, strip line)] := by
  rw [cleanLines_alone (ne_nil_of_visible visible) unbroken, (cleanLine_plain unmarked visible).2 plain]
  rfl

private theorem commented_alone {line content : List Char} (unbroken : Unbroken line)
    (clean : cleanLine (commented line []) = some (indentOf line, content)) :
    cleanLines (commented line []) = [(indentOf line, content)] := by
  rw [cleanLines_alone (by simp [commented]) (commented_unbroken unbroken (by simp [Unbroken])), clean]
  rfl

private theorem kept_hash {line : List Char} (unmarked : '#' ∉ line) (visible : strip line ≠ [])
    (opened : openQuote line ≠ none) (plain : ¬ Marks line) :
    ∃ content, cleanLine (commented line []) = some (indentOf line, content) ∧
      Extended [] (strip line) content := by
  obtain ⟨quote, content, tail, known, clean, same, extended⟩ :=
    (cleanLine_open unmarked visible opened []).2 plain
  rw [strippedFrom_cons known _ (by decide)] at same
  have empty : tail = [] := same
  exact ⟨content, clean, empty ▸ extended⟩

private theorem kept_dash {line : List Char} (unmarked : '#' ∉ line) (visible : strip line ≠ [])
    (opened : openQuote line ≠ none) (plain : ¬ Marks line) :
    ∃ content, cleanLine (commented line ['-']) = some (indentOf line, content) ∧
      Extended [' ', '-'] (strip line) content := by
  obtain ⟨quote, content, tail, known, clean, same, extended⟩ :=
    (cleanLine_open unmarked visible opened ['-']).2 plain
  rw [strippedFrom_cons known _ (by decide), strippedFrom_cons (known_turn known _) _ (by decide)] at same
  have dash : tail = [' ', '-'] := same
  exact ⟨content, clean, dash ▸ extended⟩

/-- A comment behind the line changes the value of no document that parses. -/
def Harmless (text : YamlText) (line : List Char) : Prop :=
  ∀ before after comment value, Between before after → Unbroken comment → ¬ InBlock before line →
    parse text (before ++ line ++ after) = .ok value →
      parse text (before ++ commented line comment ++ after) = .ok value

/-- A harmless line alone in a document, with nothing but a mark behind it. -/
private theorem harmless_alone {line : List Char} {value : PyVal} (harmless : Harmless text line)
    (parsed : parse text line = .ok value) : parse text (commented line []) = .ok value := by
  have same := harmless [] [] [] value ⟨by simp, by simp⟩ nofun
    (by simp [InBlock, openHeader, cleanLines, splitlines, TextLines.splitLines, inBody])
  simp only [List.nil_append, List.append_nil] at same
  exact same parsed

private theorem scalar_harmful (free : HashFree text) {line : List Char} (visible : strip line ≠ [])
    (unmarked : '#' ∉ line) (unbroken : Unbroken line) (opened : openQuote line ≠ none)
    (dashed : strip line ≠ ['-']) (plain : ¬ Marks line) (no_entry : entryText (strip line) = none) :
    ¬ Harmless text line := by
  intro harmless
  have item : isItem (strip line) = true ∧ startsEntry (itemText (strip line)) = false := by
    unfold entryText at no_entry
    split at no_entry
    · rename_i item
      split at no_entry
      · exact nomatch no_entry
      · rename_i starts
        exact ⟨item, by simpa using starts⟩
    · exact nomatch no_entry
  obtain ⟨content, clean, extended⟩ := kept_hash unmarked visible opened plain
  obtain ⟨some_item, longer⟩ := extended.itemText (TextLines.bare_strip line) item.1
  have lines := plain_alone unmarked visible unbroken plain
  have lines' := commented_alone unbroken clean
  have same := harmless_alone harmless (parse_scalar_line lines item.1 item.2)
  rw [parse_scalar_line lines' ((extended.isItem visible dashed).trans item.1)
    (startsEntry_bare longer some_item item.2)] at same
  have reads : scalar text (itemText (strip line)) = .str (String.ofList (itemText content)) := by
    have bare : TextLines.Bare isSpace (itemText content) := TextLines.bare_strip _
    rw [scalar_hash free bare (last_hash longer)] at same
    simpa using same.symm
  have there := mem_of_scalar reads (c := '#') (by simpa using longer.mem_mark)
  exact unmarked (mem_of_mem_strip (List.mem_of_mem_drop (mem_of_mem_strip there)))

private theorem entry_harmful (free : HashFree text) {line entry : List Char}
    (visible : strip line ≠ []) (unmarked : '#' ∉ line) (unbroken : Unbroken line)
    (opened : openQuote line ≠ none) (dashed : strip line ≠ ['-']) (plain : ¬ Marks line)
    (entry_text : entryText (strip line) = some entry) (is_entry : isEntry entry = true)
    (no_header : blockScalarKind (restOf entry) = none) : ¬ Harmless text line := by
  intro harmless
  obtain ⟨content, clean, extended⟩ := kept_hash unmarked visible opened plain
  obtain ⟨entry', entry_text', longer, is_entry', key⟩ :=
    entry_extended extended (TextLines.bare_strip line) visible dashed entry_text is_entry
  have colon := (isItem_of_isEntry is_entry).2
  have no_header' : blockScalarKind (restOf entry') = none := by
    rw [longer.blockScalarKind colon, no_header]
    rfl
  have hash : (restOf entry').getLast? = some '#' := by
    rcases longer.restOf colon with ⟨-, mark⟩ | ⟨-, rest⟩
    · rw [mark]
      rfl
    · exact last_hash rest
  have lines := plain_alone unmarked visible unbroken plain
  have lines' := commented_alone unbroken clean
  have some_rest : restOf entry' ≠ [] := by
    intro empty
    rw [empty] at hash
    exact nomatch hash
  have reads' (fuel : ℕ) : EntryReads text fuel [] (entryIndent (indentOf line, content)) entry'
      (scalar text (restOf entry')) [] := .plain no_header' some_rest
  have parsed' := parse_entry_line lines' entry_text' is_entry' (by simp) reads'
  have differs {value : PyVal} (parsed : parse text line =
      .ok (wrapped (strip line) (mapping [(keyOf entry, value)]))) :
      value = .str (String.ofList (restOf entry')) := by
    have same := harmless_alone harmless parsed
    rw [parsed', key, scalar_hash free (restOf_bare entry') hash] at same
    exact (wrapped_inj (extended.isItem visible dashed) (Except.ok.inj same)).symm
  by_cases empty : restOf entry = []
  · exact nomatch differs (parse_entry_line lines entry_text is_entry (by simp)
      fun fuel => .bare empty (by simp))
  · have reads := differs (parse_entry_line lines entry_text is_entry (by simp)
      fun fuel => .plain no_header empty)
    have there := mem_of_scalar reads (c := '#') (by simpa using List.mem_of_getLast? hash)
    exact unmarked (mem_of_mem_strip (mem_of_entryText entry_text (mem_of_restOf there)))

/-- The body of a block scalar below a header. -/
private def bodyLine (indent : ℕ) : List Char := DumpedText.rendered (indent, ['x'])

private theorem cleanLine_bodyLine (indent : ℕ) : cleanLine (bodyLine indent) = some (indent, ['x']) := by
  apply DumpedText.cleanLine_rendered
  refine ⟨⟨by simp, ⟨?_, ?_⟩, ?_⟩, rfl, rfl⟩ <;>
    · rintro c there
      simp only [List.head?_cons, List.getLast?_singleton, Option.mem_def, Option.some.injEq,
        List.mem_singleton] at there
      subst there
      decide

private theorem between_body (indent : ℕ) : Between [] ('\n' :: bodyLine indent) := by
  refine ⟨by simp, ?_⟩
  rintro c ⟨⟩
  decide

private theorem cleanLines_below {line : List Char} (some_text : line ≠ []) (unbroken : Unbroken line)
    (indent : ℕ) : cleanLines ([] ++ line ++ '\n' :: bodyLine indent) =
      (cleanLine line).toList ++ [(indent, ['x'])] := by
  have unbroken_body : ∀ c ∈ bodyLine indent, isLineBreak c = false := by
    intro c there
    rcases List.mem_append.mp there with front | back
    · rw [List.eq_of_mem_replicate front]
      decide
    · rw [List.mem_singleton.mp back]
      decide
  have body : splitlines (bodyLine indent) = [bodyLine indent] :=
    TextLines.splitLines_last (by simp [bodyLine, DumpedText.rendered]) isLineBreak_of_isCrLf unbroken_body
  have rest : splitlines ('\n' :: bodyLine indent) = [] :: [bodyLine indent] := by
    rw [← body]
    have empty : ∀ c ∈ ([] : List Char), isLineBreak c = false := by simp
    exact TextLines.splitLines_line rfl not_isCrLf_newline isLineBreak_of_isCrLf empty _
  rw [cleanLines_between (between_body indent) some_text unbroken, rest, List.tail_cons,
    List.filterMap_cons_some (cleanLine_bodyLine indent)]
  rfl

private theorem reads_body (text : YamlText) {fuel indent outer : ℕ} {entry : List Char} {block : Bool × Bool}
    (header : blockScalarKind (restOf entry) = some block) (deep : outer < indent) :
    EntryReads text fuel [(indent, ['x'])] outer entry
      (.str (String.ofList (parseBlockScalar [(indent, ['x'])] outer block).1)) [] := by
  have below : shallower outer [(indent, ['x'])] = [] := by simp [shallower, deep]
  have reads : EntryReads text fuel [(indent, ['x'])] outer entry
      (.str (String.ofList (parseBlockScalar [(indent, ['x'])] outer block).1))
      (shallower outer [(indent, ['x'])]) := .block block header
  rwa [below] at reads

private theorem header_harmful {line entry : List Char} (visible : strip line ≠ [])
    (unmarked : '#' ∉ line) (unbroken : Unbroken line) (opened : openQuote line ≠ none)
    (dashed : strip line ≠ ['-']) (plain : ¬ Marks line)
    (entry_text : entryText (strip line) = some entry) (is_entry : isEntry entry = true)
    (header : blockScalarKind (restOf entry) = some (false, false)) : ¬ Harmless text line := by
  intro harmless
  obtain ⟨content, clean, extended⟩ := kept_dash unmarked visible opened plain
  obtain ⟨entry', entry_text', longer, is_entry', key⟩ :=
    entry_extended extended (TextLines.bare_strip line) visible dashed entry_text is_entry
  have header' : blockScalarKind (restOf entry') = some (false, true) := by
    rw [longer.blockScalarKind (isItem_of_isEntry is_entry).2, header]
    rfl
  have unbroken_dash : Unbroken ['-'] := by
    rintro c there
    rw [List.mem_singleton.mp there]
    decide
  have lines : cleanLines ([] ++ line ++ '\n' :: bodyLine (indentOf line + 3)) =
      (indentOf line, strip line) :: [(indentOf line + 3, ['x'])] := by
    rw [cleanLines_below (ne_nil_of_visible visible) unbroken, (cleanLine_plain unmarked visible).2 plain]
    rfl
  have lines' : cleanLines ([] ++ commented line ['-'] ++ '\n' :: bodyLine (indentOf line + 3)) =
      (indentOf line, content) :: [(indentOf line + 3, ['x'])] := by
    rw [cleanLines_below (by simp [commented]) (commented_unbroken unbroken unbroken_dash), clean]
    rfl
  have deep : ∀ below ∈ [(indentOf line + 3, ['x'])], indentOf line + 2 < below.1 := by
    intro below there
    rw [List.mem_singleton.mp there]
    exact Nat.lt_succ_self _
  have within (shown : List Char) : entryIndent (indentOf line, shown) < indentOf line + 3 := by
    unfold entryIndent
    split <;> dsimp only <;> omega
  have parsed := parse_entry_line lines entry_text is_entry deep
    fun _ => reads_body text header (within (strip line))
  have parsed' := parse_entry_line lines' entry_text' is_entry' deep
    fun _ => reads_body text header' (within content)
  have same := harmless [] _ ['-'] _ (between_body _) unbroken_dash
    (by simp [InBlock, openHeader, cleanLines, splitlines, TextLines.splitLines, inBody]) parsed
  rw [parsed', key] at same
  have values := wrapped_inj (extended.isItem visible dashed) (Except.ok.inj same)
  simp [parseBlockScalar, within] at values

/-- A comment is harmless behind exactly these lines: no quote is open at the end, or the line is
a mark of the document, or it is read by no document that parses, or it is the header of a folded
or chomped block scalar. -/
theorem comment_law_iff (free : HashFree text) (line : List Char) (visible : strip line ≠ [])
    (unmarked : '#' ∉ line) (unbroken : Unbroken line) :
    Harmless text line ↔ Steadfast line := by
  constructor
  · intro harmless
    by_contra fickle
    simp only [Steadfast, not_or] at fickle
    obtain ⟨opened, plain, read, unsteady⟩ := fickle
    have dashed := not_dash_of_open opened
    rcases entry_text : entryText (strip line) with - | entry
    · exact scalar_harmful free visible unmarked unbroken opened dashed plain entry_text harmless
    have is_entry : isEntry entry = true := by
      by_contra unread
      exact read ⟨entry, entry_text, by simpa using unread⟩
    rcases header : blockScalarKind (restOf entry) with - | ⟨folded, chomped⟩
    · exact entry_harmful free visible unmarked unbroken opened dashed plain entry_text is_entry header
        harmless
    cases folded with
    | true => exact unsteady ⟨entry, true, chomped, entry_text, header, .inl rfl⟩
    | false =>
      cases chomped with
      | true => exact unsteady ⟨entry, false, true, entry_text, header, .inr rfl⟩
      | false =>
        exact header_harmful visible unmarked unbroken opened dashed plain entry_text is_entry header
          harmless
  · intro steadfast before after comment value between unbroken_comment outside parsed
    exact parse_steadfast steadfast unmarked visible unbroken between outside comment unbroken_comment
      parsed

private theorem hashFree_ascii : HashFree YamlText.ascii := ⟨by decide, fun _ _ => rfl⟩

/-- `name: "it's"`. -/
def quotedLine : List Char := ['n', 'a', 'm', 'e', ':', ' ', '"', 'i', 't', '\'', 's', '"']

private theorem unbroken_of_all {line : List Char}
    (all : line.all (fun c => !isLineBreak c) = true) : Unbroken line := by
  intro c there
  simpa using List.all_eq_true.mp all c there

theorem comment_law_quoted : Harmless YamlText.ascii quotedLine :=
  (comment_law_iff hashFree_ascii quotedLine (by decide) (by decide)
    (unbroken_of_all (by decide))).mpr (.inl (by decide))

/-- `name: it's`. -/
def openLine : List Char := ['n', 'a', 'm', 'e', ':', ' ', 'i', 't', '\'', 's']

def named (value : List Char) : PyVal :=
  .dict [(.str (String.ofList ['n', 'a', 'm', 'e']), .str (String.ofList value))]

/-- After an apostrophe the comment is part of the value. -/
theorem comment_kept :
    (strip openLine ≠ [] ∧ '#' ∉ openLine ∧ Unbroken openLine ∧ ¬ InBlock [] openLine) ∧
      parse YamlText.ascii openLine = .ok (named ['i', 't', '\'', 's']) ∧
        parse YamlText.ascii (commented openLine ['w', 'h', 'o']) =
          .ok (named ['i', 't', '\'', 's', ' ', '#', ' ', 'w', 'h', 'o']) ∧
          ¬ Harmless YamlText.ascii openLine := by
  have kept : parse YamlText.ascii openLine = .ok (named ['i', 't', '\'', 's']) := rfl
  have longer : parse YamlText.ascii (commented openLine ['w', 'h', 'o']) =
      .ok (named ['i', 't', '\'', 's', ' ', '#', ' ', 'w', 'h', 'o']) := rfl
  have outside : ¬ InBlock [] openLine := by
    unfold InBlock
    decide
  refine ⟨⟨by decide, by decide, unbroken_of_all (by decide), outside⟩, kept, longer, ?_⟩
  intro harmless
  have same := harmless [] [] ['w', 'h', 'o'] _ ⟨by simp, by simp⟩ (unbroken_of_all (by decide)) outside
    (show parse YamlText.ascii ([] ++ openLine ++ []) = _ from kept)
  rw [List.nil_append, List.append_nil, longer] at same
  simp [named] at same

end DroidOs.Util.CommentLaw
