/- GID: DroidOs/Util/LineRoles
   generality: I
   source: src/droidos/util/miniyaml.py
   digest: What a line of a document can be: an entry, an item, or a part of a block scalar. -/

import DroidOs.Util.MiniYaml

set_option autoImplicit false
set_option relaxedAutoImplicit false

namespace DroidOs.Util.LineRoles

open DroidOs.Lib DroidOs.Core.Values DroidOs.Util.Characters DroidOs.Util.MiniYaml

/-! Entries and items. -/

/-- The text after the dash of an item. -/
def itemText (content : List Char) : List Char := strip (content.drop 2)

/-- The item starts a mapping. -/
def startsEntry (item : List Char) : Bool := decide (':' ∈ item) && !item.head?.any isQuote

/-- What is read as an entry of a mapping: a line, or the text of an item that starts one. -/
def entryText (content : List Char) : Option (List Char) :=
  if isItem content then
    if startsEntry (itemText content) then some (itemText content) else none
  else some content

def keyOf (entry : List Char) : String := String.ofList (strip (entry.takeWhile fun c => c ≠ ':'))

def restOf (entry : List Char) : List Char := strip (entry.dropWhile fun c => c ≠ ':').tail

/-- A mapping takes the text as an entry. -/
def isEntry (entry : List Char) : Bool := !isItem entry && decide (':' ∈ entry)

/-- The indentation of the mapping that the line is an entry of. -/
def entryIndent (line : Line) : Nat := if isItem line.2 then line.1 + 2 else line.1

/-! Block scalars. -/

/-- The indentation that the body of a block scalar exceeds, where the line is its header. -/
def headerIndent (line : Line) : Option Nat :=
  (entryText line.2).bind fun entry => (blockScalarKind (restOf entry)).map fun _ => entryIndent line

/-- A line of this indentation is in the body of the block scalar that is open. -/
def inBody (header : Option Nat) (indent : Nat) : Bool := header.any fun outer => outer < indent

/-- The header of the block scalar that is open after one more line. -/
def follow (header : Option Nat) (line : Line) : Option Nat :=
  if inBody header line.1 then header else headerIndent line

/-- The header of the block scalar that is open after these lines. -/
def openHeader (lines : List Line) : Option Nat := lines.foldl follow none

/-- The lines start outside the block scalar. -/
def Outside (header : Option Nat) (lines : List Line) : Prop :=
  ∀ line ∈ lines.head?, inBody header line.1 = false

/-- The block scalar that is open, if any, has a header that is no less indented. -/
def Deep (indent : Nat) (header : Option Nat) : Prop := ∀ outer ∈ header, indent ≤ outer

theorem isItem_of_isEntry {entry : List Char} (is_entry : isEntry entry = true) :
    isItem entry = false ∧ ':' ∈ entry := by
  simpa [isEntry] using is_entry

/-- An entry is the text of an item or a line of its own. -/
theorem entryText_cases {content entry : List Char} (entry_text : entryText content = some entry) :
    (isItem content = true ∧ startsEntry (itemText content) = true ∧ itemText content = entry) ∨
      (isItem content = false ∧ content = entry) := by
  unfold entryText at entry_text
  split at entry_text
  · rename_i item
    split at entry_text
    · rename_i starts
      exact .inl ⟨item, starts, Option.some.inj entry_text⟩
    · cases entry_text
  · rename_i line
    exact .inr ⟨by simpa using line, Option.some.inj entry_text⟩

theorem entryText_of_isEntry {entry : List Char} (is_entry : isEntry entry = true) :
    entryText entry = some entry := by
  simp [entryText, (isItem_of_isEntry is_entry).1]

theorem headerIndent_entry {indent : Nat} {entry : List Char} (is_entry : isEntry entry = true) :
    headerIndent (indent, entry) = (blockScalarKind (restOf entry)).map fun _ => indent := by
  simp [headerIndent, entryText_of_isEntry is_entry, entryIndent, (isItem_of_isEntry is_entry).1]

theorem headerIndent_le {line : Line} {outer : Nat} (opens : headerIndent line = some outer) :
    line.1 ≤ outer := by
  obtain ⟨entry, -, opens⟩ := Option.bind_eq_some_iff.mp opens
  obtain ⟨block, -, rfl⟩ := Option.map_eq_some_iff.mp opens
  unfold entryIndent
  split <;> omega

theorem Deep.follow {indent : Nat} {header : Option Nat} {line : Line} (deep : Deep indent header)
    (within : indent ≤ line.1) : Deep indent (follow header line) := by
  intro outer opens
  unfold LineRoles.follow at opens
  split at opens
  · exact deep outer opens
  · exact within.trans (headerIndent_le opens)

/-- A line that is no deeper than every header that may be open is outside. -/
theorem outside_of_le {indent : Nat} {header : Option Nat} {lines : List Line}
    (deep : Deep indent header) (le : ∀ line ∈ lines.head?, line.1 ≤ indent) :
    Outside header lines := by
  intro line first
  cases header with
  | none => rfl
  | some outer =>
    have open_le := deep outer rfl
    have line_le := le line first
    simp only [inBody, Option.any_some, decide_eq_false_iff_not]
    omega

variable (text : YamlText)

/-! What one step of the parser does. -/

def deeper (indent : Nat) (lines : List Line) : List Line := lines.takeWhile fun line => indent < line.1

def shallower (indent : Nat) (lines : List Line) : List Line :=
  lines.dropWhile fun line => indent < line.1

theorem shallower_le (indent : Nat) (lines : List Line) :
    ∀ line ∈ (shallower indent lines).head?, line.1 ≤ indent := by
  intro line first
  have stops := List.head?_dropWhile_not (fun line : Line => decide (indent < line.1)) lines
  unfold shallower at first
  rw [Option.mem_def.mp first] at stops
  simpa using stops

/-- The value of an entry, and the lines left below it. -/
inductive EntryReads (fuel : Nat) (lines : List Line) (indent : Nat) (entry : List Char) :
    PyVal → List Line → Prop
  | block (block : Bool × Bool) (header : blockScalarKind (restOf entry) = some block) :
      EntryReads fuel lines indent entry
        (.str (String.ofList (parseBlockScalar lines indent block).1)) (shallower indent lines)
  | nested (child : Line) (value : PyVal) (below : List Line) (empty : restOf entry = [])
      (first : lines.head? = some child) (deep : indent < child.1)
      (reads : parseBlock text fuel lines child.1 = .ok (value, below)) :
      EntryReads fuel lines indent entry value below
  | bare (empty : restOf entry = []) (flat : ∀ child ∈ lines.head?, ¬ indent < child.1) :
      EntryReads fuel lines indent entry .none lines
  | plain (no_header : blockScalarKind (restOf entry) = none) (some_rest : restOf entry ≠ []) :
      EntryReads fuel lines indent entry (scalar text (restOf entry)) lines

theorem blockScalarKind_nil : blockScalarKind [] = none := rfl

variable {text}

theorem parseMap_entry {fuel indent : Nat} {content : List Char} {lines below : List Line}
    {value : PyVal} (entry : isEntry content = true)
    (reads : EntryReads text fuel lines indent content value below) (result : Entries) :
    parseMap text (fuel + 1) ((indent, content) :: lines) indent result =
      parseMap text fuel below indent (Dict.set (keyOf content) value result) := by
  simp only [isEntry, Bool.and_eq_true, Bool.not_eq_true', decide_eq_true_eq] at entry
  have key : String.ofList (strip (content.takeWhile fun c => c ≠ ':')) = keyOf content := rfl
  have rest : strip (content.dropWhile fun c => c ≠ ':').tail = restOf content := rfl
  rw [parseMap, if_neg (Nat.lt_irrefl indent), if_neg (Nat.lt_irrefl indent), entry.1,
    if_neg Bool.false_ne_true, if_neg (not_not.mpr entry.2)]
  simp only [key, rest]
  cases reads with
  | block block header =>
    rw [header]
    rfl
  | nested child value below empty first deep reads =>
    rw [empty, blockScalarKind_nil]
    simp only [if_true, first, if_pos deep, reads]
    rfl
  | bare empty flat =>
    rw [empty, blockScalarKind_nil]
    simp only [if_true]
    cases first : lines.head? with
    | none => rfl
    | some child => simp only [if_neg (flat child first)]
  | plain no_header some_rest =>
    rw [no_header]
    simp only [if_neg some_rest]

theorem parseMap_stop {fuel indent : Nat} {lines : List Line}
    (stops : ∀ line ∈ lines.head?, line.1 < indent) (result : Entries) :
    parseMap text (fuel + 1) lines indent result = .ok (result, lines) := by
  rcases lines with - | ⟨⟨current, content⟩, lines⟩
  · rfl
  · rw [parseMap, if_pos (stops _ rfl)]

/-- A mapping ends at the end of the lines or above a line that is less indented, and else takes
an entry. -/
theorem parseMap_cases {fuel indent : Nat} {lines rest : List Line} {result entries : Entries}
    (parsed : parseMap text (fuel + 1) lines indent result = .ok (entries, rest)) :
    (entries = result ∧ rest = lines ∧ ∀ line ∈ lines.head?, line.1 < indent) ∨
      ∃ content lines' value below, lines = (indent, content) :: lines' ∧
        isEntry content = true ∧ EntryReads text fuel lines' indent content value below ∧
          parseMap text fuel below indent (Dict.set (keyOf content) value result) =
            .ok (entries, rest) := by
  rcases lines with - | ⟨⟨current, content⟩, lines⟩
  · cases parsed
    exact .inl ⟨rfl, rfl, by simp⟩
  by_cases ended : current < indent
  · rw [parseMap, if_pos ended] at parsed
    cases parsed
    exact .inl ⟨rfl, rfl, by simpa using ended⟩
  right
  by_cases deep : indent < current
  · rw [parseMap, if_neg ended, if_pos deep] at parsed
    exact nomatch parsed
  obtain rfl : current = indent := by omega
  by_cases item : isItem content = true
  · rw [parseMap, if_neg ended, if_neg deep, if_pos item] at parsed
    exact nomatch parsed
  by_cases colon : ':' ∉ content
  · rw [parseMap, if_neg ended, if_neg deep, if_neg item, if_pos colon] at parsed
    exact nomatch parsed
  have entry : isEntry content = true := by
    simp only [isEntry, Bool.and_eq_true, Bool.not_eq_true', decide_eq_true_eq]
    exact ⟨by simpa using item, not_not.mp colon⟩
  have taken {value : PyVal} {below : List Line}
      (reads : EntryReads text fuel lines current content value below) :
      ∃ content' lines' value below, (current, content) :: lines = (current, content') :: lines' ∧
        isEntry content' = true ∧ EntryReads text fuel lines' current content' value below ∧
          parseMap text fuel below current (Dict.set (keyOf content') value result) =
            .ok (entries, rest) := by
    rw [parseMap_entry entry reads] at parsed
    exact ⟨content, lines, value, below, rfl, entry, reads, parsed⟩
  cases header : blockScalarKind (restOf content) with
  | some block => exact taken (.block block header)
  | none =>
    by_cases empty : restOf content = []
    · rcases first : lines.head? with - | child
      · exact taken (.bare empty (by simp [first]))
      by_cases deep : current < child.1
      · cases nested : parseBlock text fuel lines child.1 with
        | ok read => exact taken (.nested child read.1 read.2 empty first deep nested)
        | error stop =>
          have fails : parseMap text (fuel + 1) ((current, content) :: lines) current result =
              .error stop := by
            have rest : strip (content.dropWhile fun c => c ≠ ':').tail = restOf content := rfl
            rw [parseMap, if_neg ended, if_neg ended, if_neg item, if_neg colon]
            simp only [rest]
            rw [empty, blockScalarKind_nil]
            simp only [if_true, first, if_pos deep, nested]
            rfl
          exact nomatch fails.symm.trans parsed
      · exact taken (.bare empty (by simpa [first] using deep))
    · exact taken (.plain header empty)

theorem parseList_stop {fuel indent : Nat} {lines : List Line} {result : List PyVal}
    (stops : ∀ line ∈ lines.head?, line.1 < indent ∨ (isItem line.2 = false ∧ line.1 = indent)) :
    parseList text (fuel + 1) lines indent result = .ok (result, lines) := by
  rcases lines with - | ⟨⟨current, content⟩, lines⟩
  · rfl
  · rw [parseList, if_pos (stops _ rfl)]

theorem parseList_entry {fuel indent : Nat} {content : List Char} {lines left : List Line}
    {entries : Entries} (item : isItem content = true) (starts : startsEntry (itemText content) = true)
    (reads : parseMap text fuel ((indent + 2, itemText content) :: deeper indent lines) (indent + 2) [] =
      .ok (entries, left)) (result : List PyVal) :
    parseList text (fuel + 1) ((indent, content) :: lines) indent result =
      parseList text fuel (shallower indent lines) indent (result ++ [mapping entries]) := by
  simp only [startsEntry, Bool.and_eq_true, decide_eq_true_eq, Bool.not_eq_true'] at starts
  have text_eq : strip (content.drop 2) = itemText content := rfl
  rw [parseList, if_neg (by simp [item]), if_neg (Nat.lt_irrefl indent)]
  simp only [text_eq]
  rw [if_pos starts]
  show (parseMap text fuel ((indent + 2, itemText content) :: deeper indent lines) (indent + 2) [] >>=
    fun read => parseList text fuel (shallower indent lines) indent (result ++ [mapping read.1])) = _
  rw [reads]
  rfl

theorem parseList_scalar {fuel indent : Nat} {content : List Char} (item : isItem content = true)
    (plain : startsEntry (itemText content) = false) (lines : List Line) (result : List PyVal) :
    parseList text (fuel + 1) ((indent, content) :: lines) indent result =
      parseList text fuel lines indent (result ++ [scalar text (itemText content)]) := by
  have other : ¬ (':' ∈ itemText content ∧ (itemText content).head?.any isQuote = false) := by
    rintro ⟨colon, unquoted⟩
    simp [startsEntry, colon, unquoted] at plain
  have text_eq : strip (content.drop 2) = itemText content := rfl
  rw [parseList, if_neg (by simp [item]), if_neg (Nat.lt_irrefl indent)]
  simp only [text_eq]
  rw [if_neg other]

/-- A list ends as a mapping does or at a line of its own that is no item, and else takes an item. -/
theorem parseList_cases {fuel indent : Nat} {lines rest : List Line} {result items : List PyVal}
    (parsed : parseList text (fuel + 1) lines indent result = .ok (items, rest)) :
    (items = result ∧ rest = lines ∧
      ∀ line ∈ lines.head?, line.1 < indent ∨ (isItem line.2 = false ∧ line.1 = indent)) ∨
      ∃ content lines', lines = (indent, content) :: lines' ∧ isItem content = true ∧
        ((startsEntry (itemText content) = true ∧ ∃ entries left,
          parseMap text fuel ((indent + 2, itemText content) :: deeper indent lines') (indent + 2) [] =
            .ok (entries, left) ∧
          parseList text fuel (shallower indent lines') indent (result ++ [mapping entries]) =
            .ok (items, rest)) ∨
        (startsEntry (itemText content) = false ∧
          parseList text fuel lines' indent (result ++ [scalar text (itemText content)]) =
            .ok (items, rest))) := by
  by_cases stops : ∀ line ∈ lines.head?, line.1 < indent ∨ (isItem line.2 = false ∧ line.1 = indent)
  · rw [parseList_stop stops] at parsed
    cases parsed
    exact .inl ⟨rfl, rfl, stops⟩
  right
  rcases lines with - | ⟨⟨current, content⟩, lines⟩
  · simp at stops
  simp only [List.head?_cons, Option.mem_def, Option.some.injEq, forall_eq'] at stops
  by_cases deep : indent < current
  · rw [parseList, if_neg stops, if_pos deep] at parsed
    exact nomatch parsed
  obtain rfl : current = indent := by omega
  have item : isItem content = true := by simpa using stops
  refine ⟨content, lines, rfl, item, ?_⟩
  cases starts : startsEntry (itemText content) with
  | false =>
    rw [parseList_scalar item starts] at parsed
    exact .inr ⟨rfl, parsed⟩
  | true =>
    left
    refine ⟨rfl, ?_⟩
    cases reads : parseMap text fuel ((current + 2, itemText content) :: deeper current lines)
        (current + 2) [] with
    | ok read =>
      rw [parseList_entry item starts reads] at parsed
      exact ⟨read.1, read.2, rfl, parsed⟩
    | error stop =>
      have fails : parseList text (fuel + 1) ((current, content) :: lines) current result =
          .error stop := by
        simp only [startsEntry, Bool.and_eq_true, decide_eq_true_eq, Bool.not_eq_true'] at starts
        have text_eq : strip (content.drop 2) = itemText content := rfl
        rw [parseList, if_neg stops, if_neg deep]
        simp only [text_eq]
        rw [if_pos starts]
        show (parseMap text fuel ((current + 2, itemText content) :: deeper current lines)
          (current + 2) [] >>= fun read =>
            parseList text fuel (shallower current lines) current (result ++ [mapping read.1])) = _
        rw [reads]
        rfl
      exact nomatch fails.symm.trans parsed

theorem parseBlock_list {fuel indent : Nat} {lines rest : List Line} {items : List PyVal}
    (item : ∃ line ∈ lines.head?, isItem line.2 = true)
    (reads : parseList text fuel lines indent [] = .ok (items, rest)) :
    parseBlock text (fuel + 1) lines indent = .ok (.list items, rest) := by
  obtain ⟨line, first, marked⟩ := item
  have any : (lines.head?.any fun line => isItem line.2) = true := by
    rw [Option.mem_def.mp first]
    exact marked
  rw [parseBlock, if_pos any, reads]
  rfl

theorem parseBlock_map {fuel indent : Nat} {lines rest : List Line} {entries : Entries}
    (no_item : ∀ line ∈ lines.head?, isItem line.2 = false)
    (reads : parseMap text fuel lines indent [] = .ok (entries, rest)) :
    parseBlock text (fuel + 1) lines indent = .ok (mapping entries, rest) := by
  have none_there : ¬ (lines.head?.any fun line => isItem line.2) = true := by
    rw [Option.any_eq_true]
    rintro ⟨line, first, marked⟩
    rw [no_item line first] at marked
    exact nomatch marked
  rw [parseBlock, if_neg none_there, reads]
  rfl

theorem parseBlock_cases {fuel indent : Nat} {lines rest : List Line} {value : PyVal}
    (parsed : parseBlock text (fuel + 1) lines indent = .ok (value, rest)) :
    ((∃ line ∈ lines.head?, isItem line.2 = true) ∧ ∃ items, value = .list items ∧
      parseList text fuel lines indent [] = .ok (items, rest)) ∨
    ((∀ line ∈ lines.head?, isItem line.2 = false) ∧ ∃ entries, value = mapping entries ∧
      parseMap text fuel lines indent [] = .ok (entries, rest)) := by
  rw [parseBlock] at parsed
  split at parsed
  · rename_i item
    left
    cases reads : parseList text fuel lines indent [] with
    | ok read =>
      rw [reads] at parsed
      cases parsed
      obtain ⟨line, first, marked⟩ := (Option.any_eq_true _ _).mp item
      exact ⟨⟨line, first, marked⟩, read.1, rfl, rfl⟩
    | error stop =>
      rw [reads] at parsed
      exact nomatch parsed
  · rename_i no_item
    right
    cases reads : parseMap text fuel lines indent [] with
    | ok read =>
      rw [reads] at parsed
      cases parsed
      refine ⟨fun line first => ?_, read.1, rfl, rfl⟩
      rw [Option.mem_def.mp first] at no_item
      simpa using no_item
    | error stop =>
      rw [reads] at parsed
      exact nomatch parsed

end DroidOs.Util.LineRoles
