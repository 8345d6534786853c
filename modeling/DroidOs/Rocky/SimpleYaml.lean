/- GID: DroidOs/Rocky/SimpleYaml
   generality: I
   source: rocky/policy.py
   digest: Rocky's own reader of its configuration files, and the files it reads to their end. -/

import DroidOs.Rocky.Policy
import DroidOs.Util.MiniYaml

set_option autoImplicit false
set_option relaxedAutoImplicit false

namespace DroidOs.Rocky.SimpleYaml

open DroidOs.Lib DroidOs.Core.Values
open DroidOs.Util.Characters (isSpace strip splitlines)
open DroidOs.Util.MiniYaml (Line Entries mapping indentOf isItem inside looksQuoted)

/-! The reader. -/

def cleanLine (raw : List Char) : Option Line :=
  if strip raw = [] ∨ (raw.dropWhile isSpace).head? = some '#' then none
  else some (indentOf raw, strip raw)

/-- The lines that are neither blank nor comments. -/
def linesOf (document : List Char) : List Line := (splitlines document).filterMap cleanLine

def keyText (content : List Char) : List Char := strip (content.takeWhile fun c => c ≠ ':')

/-- What follows the first colon. -/
def valueText (content : List Char) : List Char := strip (content.dropWhile fun c => c ≠ ':').tail

variable (text : PyText)

/-- `_scalar`. -/
def scalar (token : List Char) : PyVal :=
  if looksQuoted token then .str (String.ofList (inside token))
  else
    let low := text.lower (String.ofList token)
    if low ∈ ["true", "yes"] then .bool true
    else if low ∈ ["false", "no"] then .bool false
    else if low ∈ ["null", "~", ""] then .none
    else .str (String.ofList token)

/-- The loop over the items of a list. -/
def parseItems (indent : Nat) : List Line → List PyVal × List Line
  | [] => ([], [])
  | (current, content) :: lines =>
    if current = indent ∧ isItem content = true then
      let (items, rest) := parseItems indent lines
      (scalar text (strip (content.drop 2)) :: items, rest)
    else ([], (current, content) :: lines)

mutual

/-- `_parse_block`, with fuel for the lines. -/
def parseBlock : Nat → List Line → Nat → PyVal × List Line
  | 0, lines, _ => (.none, lines)
  | fuel + 1, lines, indent =>
    if lines.head?.any fun line => isItem line.2 then
      let (items, rest) := parseItems text indent lines
      (.list items, rest)
    else
      let (entries, rest) := parseEntries fuel lines indent []
      (mapping entries, rest)

/-- The loop over the entries of a mapping, with the entries read so far. -/
def parseEntries : Nat → List Line → Nat → Entries → Entries × List Line
  | 0, lines, _, result => (result, lines)
  | _ + 1, [], _, result => (result, [])
  | fuel + 1, (current, content) :: lines, indent, result =>
    if current = indent ∧ isItem content = false then
      let key := String.ofList (keyText content)
      if valueText content ≠ [] then
        parseEntries fuel lines indent (Dict.set key (scalar text (valueText content)) result)
      else match lines.head? with
        | some child =>
          if indent < child.1 then
            let (value, below) := parseBlock fuel lines child.1
            parseEntries fuel below indent (Dict.set key value result)
          else parseEntries fuel lines indent (Dict.set key .none result)
        | none => parseEntries fuel lines indent (Dict.set key .none result)
    else (result, (current, content) :: lines)

end

/-- The value of the first block and the lines that are left. -/
def parseLines : List Line → PyVal × List Line
  | [] => (.dict [], [])
  | line :: lines => parseBlock text (2 * (line :: lines).length + 2) (line :: lines) line.1

/-- `_parse_simple_yaml`: what is left is dropped, and so is a value that is not a mapping. -/
def parseSimpleYaml (document : List Char) : PyVal :=
  match (parseLines text (linesOf document)).1 with
  | .dict entries => .dict entries
  | _ => .dict []

/-- Every line of the document goes into the mapping that is returned; the reader rejects none. -/
def FailsClosed (document : List Char) : Prop :=
  ∃ entries, parseLines text (linesOf document) = (.dict entries, [])

/-! Well nested lines. -/

/-- The lines of a mapping at this indentation: entries, of which those without a value may have a
list or a deeper mapping right below them. -/
inductive WellNested : Nat → List Line → Prop
  | done (indent : Nat) : WellNested indent []
  | entry {indent : Nat} {content : List Char} {lines : List Line} (plain : isItem content = false)
      (rest : WellNested indent lines) : WellNested indent ((indent, content) :: lines)
  | items {indent deeper : Nat} {content : List Char} {below lines : List Line}
      (plain : isItem content = false) (open_ : valueText content = []) (deep : indent < deeper)
      (some : below ≠ []) (all : ∀ line ∈ below, line.1 = deeper ∧ isItem line.2 = true)
      (rest : WellNested indent lines) : WellNested indent ((indent, content) :: (below ++ lines))
  | nested {indent deeper : Nat} {content : List Char} {below lines : List Line}
      (plain : isItem content = false) (open_ : valueText content = []) (deep : indent < deeper)
      (some : below ≠ []) (block : WellNested deeper below) (rest : WellNested indent lines) :
      WellNested indent ((indent, content) :: (below ++ lines))

variable {text}

/-- The items that are read are the items at the head. -/
private theorem parseItems_spec (indent : Nat) (lines : List Line) : ∃ below,
    lines = below ++ (parseItems text indent lines).2 ∧
      ∀ line ∈ below, line.1 = indent ∧ isItem line.2 = true := by
  induction lines with
  | nil => exact ⟨[], rfl, by simp⟩
  | cons line lines ih =>
    obtain ⟨current, content⟩ := line
    rw [parseItems]
    by_cases item : current = indent ∧ isItem content = true
    · rw [if_pos item]
      obtain ⟨below, split, all⟩ := ih
      refine ⟨(current, content) :: below, congrArg _ split, ?_⟩
      exact List.forall_mem_cons.mpr ⟨item, all⟩
    · rw [if_neg item]
      exact ⟨[], rfl, by simp⟩

/-- Lines that may stand below a key. -/
def Below (indent : Nat) (below : List Line) : Prop :=
  (∀ line ∈ below, line.1 = indent ∧ isItem line.2 = true) ∨ WellNested indent below

private theorem WellNested.parent {indent deeper : Nat} {content : List Char} {below lines : List Line}
    (plain : isItem content = false) (open_ : valueText content = []) (deep : indent < deeper)
    (block : Below deeper below) (rest : WellNested indent lines) :
    WellNested indent ((indent, content) :: (below ++ lines)) := by
  by_cases empty : below = []
  · rw [empty]
    exact .entry plain rest
  · rcases block with all | block
    · exact .items plain open_ deep empty all rest
    · exact .nested plain open_ deep empty block rest

private theorem parseBlock_consumed {fuel : Nat}
    (entries : ∀ lines indent result, ∃ front,
      lines = front ++ (parseEntries text fuel lines indent result).2 ∧ WellNested indent front)
    (lines : List Line) (indent : Nat) : ∃ below,
      lines = below ++ (parseBlock text (fuel + 1) lines indent).2 ∧ Below indent below := by
  rw [parseBlock]
  by_cases items : (lines.head?.any fun line => isItem line.2) = true
  · rw [if_pos items]
    obtain ⟨below, split, all⟩ := @parseItems_spec text indent lines
    exact ⟨below, split, Or.inl all⟩
  · rw [if_neg items]
    obtain ⟨below, split, block⟩ := entries lines indent []
    exact ⟨below, split, Or.inr block⟩

private theorem parseEntries_consumed_step {fuel : Nat}
    (entries : ∀ lines indent result, ∃ front,
      lines = front ++ (parseEntries text fuel lines indent result).2 ∧ WellNested indent front)
    (block : ∀ lines indent, ∃ below,
      lines = below ++ (parseBlock text fuel lines indent).2 ∧ Below indent below)
    (lines : List Line) (indent : Nat) (result : Entries) : ∃ front,
      lines = front ++ (parseEntries text (fuel + 1) lines indent result).2 ∧ WellNested indent front := by
  cases lines with
  | nil => exact ⟨[], by rw [parseEntries]; rfl, .done indent⟩
  | cons line lines =>
    obtain ⟨current, content⟩ := line
    by_cases here : current = indent ∧ isItem content = false
    · obtain ⟨rfl, plain⟩ := here
      have alone (result : Entries) : ∃ front, (current, content) :: lines =
          front ++ (parseEntries text fuel lines current result).2 ∧ WellNested current front := by
        obtain ⟨front, split, nested⟩ := entries lines current result
        exact ⟨(current, content) :: front, congrArg _ split, .entry plain nested⟩
      rw [parseEntries, if_pos ⟨rfl, plain⟩]
      dsimp only
      by_cases open_ : valueText content = []
      · rw [if_neg (not_not.mpr open_)]
        cases under : lines.head? with
        | none => exact alone _
        | some child =>
          dsimp only
          by_cases deep : current < child.1
          · rw [if_pos deep]
            obtain ⟨below, split, nested⟩ := block lines child.1
            obtain ⟨front, split', nested'⟩ := entries (parseBlock text fuel lines child.1).2 current
              (Dict.set (String.ofList (keyText content)) (parseBlock text fuel lines child.1).1 result)
            refine ⟨(current, content) :: (below ++ front), ?_, .parent plain open_ deep nested nested'⟩
            rw [List.cons_append, List.append_assoc, ← split', ← split]
          · rw [if_neg deep]
            exact alone _
      · rw [if_pos open_]
        exact alone _
    · rw [parseEntries, if_neg here]
      exact ⟨[], rfl, .done indent⟩

/-- What the reader consumes is well nested, however much fuel it has. -/
private theorem consumed (fuel : Nat) :
    (∀ lines indent result, ∃ front,
      lines = front ++ (parseEntries text fuel lines indent result).2 ∧ WellNested indent front) ∧
    ∀ lines indent, ∃ below,
      lines = below ++ (parseBlock text fuel lines indent).2 ∧ Below indent below := by
  induction fuel with
  | zero =>
    refine ⟨fun lines indent result => ⟨[], ?_, .done indent⟩, fun lines indent => ⟨[], ?_, Or.inl (by simp)⟩⟩
    · rw [parseEntries]
      rfl
    · rw [parseBlock]
      rfl
  | succ fuel ih => exact ⟨parseEntries_consumed_step ih.1 ih.2, parseBlock_consumed ih.1⟩

/-! Well nested lines are read to their end. -/

private theorem parseItems_all {indent : Nat} {below rest : List Line}
    (all : ∀ line ∈ below, line.1 = indent ∧ isItem line.2 = true)
    (stops : ∀ line ∈ rest.head?, line.1 < indent) : (parseItems text indent (below ++ rest)).2 = rest := by
  induction below with
  | nil =>
    cases rest with
    | nil => rfl
    | cons line rest =>
      have away : ¬ (line.1 = indent ∧ isItem line.2 = true) := fun here =>
        absurd (stops line rfl) (by omega)
      rw [List.nil_append, parseItems, if_neg away]
  | cons line below ih =>
    obtain ⟨here, others⟩ := List.forall_mem_cons.mp all
    rw [List.cons_append, parseItems, if_pos here]
    exact ih others

private theorem WellNested.head {indent : Nat} {lines : List Line} (nested : WellNested indent lines) :
    ∀ line ∈ lines.head?, line.1 = indent ∧ isItem line.2 = false := by
  cases nested with
  | done => simp
  | entry plain | items plain | nested plain =>
    intro line first
    cases first
    exact ⟨rfl, plain⟩

/-- Below an entry and what is nested after it, nothing is deeper. -/
private theorem head_append_le {indent : Nat} {lines rest : List Line} (nested : WellNested indent lines)
    (stops : ∀ line ∈ rest.head?, line.1 < indent) : ∀ line ∈ (lines ++ rest).head?, line.1 ≤ indent := by
  intro line first
  cases lines with
  | nil => exact (stops line first).le
  | cons head lines => exact (nested.head line first).1.le

/-- An entry with nothing deeper below it. -/
private theorem parseEntries_alone {fuel indent : Nat} {content : List Char} {lines : List Line}
    {result : Entries} (plain : isItem content = false) (shallow : ∀ line ∈ lines.head?, line.1 ≤ indent) :
    ∃ value, parseEntries text (fuel + 1) ((indent, content) :: lines) indent result =
      parseEntries text fuel lines indent (Dict.set (String.ofList (keyText content)) value result) := by
  rw [parseEntries, if_pos ⟨rfl, plain⟩]
  dsimp only
  by_cases open_ : valueText content = []
  · rw [if_neg (not_not.mpr open_)]
    cases under : lines.head? with
    | none => exact ⟨.none, rfl⟩
    | some child =>
      dsimp only
      rw [if_neg (not_lt.mpr (shallow child under))]
      exact ⟨.none, rfl⟩
  · rw [if_pos open_]
    exact ⟨_, rfl⟩

/-- An entry with a block below it. -/
private theorem parseEntries_parent {fuel indent : Nat} {content : List Char} {lines : List Line}
    {child : Line} {result : Entries} (plain : isItem content = false) (open_ : valueText content = [])
    (under : lines.head? = some child) (deep : indent < child.1) :
    ∃ value, parseEntries text (fuel + 1) ((indent, content) :: lines) indent result =
      parseEntries text fuel (parseBlock text fuel lines child.1).2 indent
        (Dict.set (String.ofList (keyText content)) value result) := by
  rw [parseEntries, if_pos ⟨rfl, plain⟩]
  dsimp only
  rw [if_neg (not_not.mpr open_), under]
  dsimp only
  rw [if_pos deep]
  exact ⟨_, rfl⟩

/-- With fuel for two steps a line, the loop ends where the well nested lines do. -/
private theorem parseEntries_all {indent : Nat} {front : List Line} (nested : WellNested indent front) :
    ∀ {fuel : Nat} {rest : List Line} {result : Entries}, 2 * front.length + 1 ≤ fuel →
      (∀ line ∈ rest.head?, line.1 < indent) →
        (parseEntries text fuel (front ++ rest) indent result).2 = rest := by
  induction nested with
  | done indent =>
    intro fuel rest result enough stops
    obtain ⟨fuel, rfl⟩ := Nat.exists_eq_add_of_le' enough
    cases rest with
    | nil => rw [List.nil_append, List.length_nil, parseEntries]
    | cons line rest =>
      have away : ¬ (line.1 = indent ∧ isItem line.2 = false) := fun here =>
        absurd (stops line rfl) (by omega)
      rw [List.nil_append, List.length_nil, parseEntries, if_neg away]
  | entry plain nested ih =>
    intro fuel rest result enough stops
    rw [List.length_cons] at enough
    obtain ⟨fuel, rfl⟩ : ∃ k, fuel = k + 1 := ⟨fuel - 1, by omega⟩
    rw [List.cons_append]
    obtain ⟨value, step⟩ := @parseEntries_alone text fuel _ _ _ result plain (head_append_le nested stops)
    rw [step]
    exact ih (by omega) stops
  | @items indent deeper content below lines plain open_ deep some all nested ih =>
    intro fuel rest result enough stops
    rw [List.length_cons, List.length_append] at enough
    obtain ⟨fuel, rfl⟩ : ∃ k, fuel = k + 2 := ⟨fuel - 2, by omega⟩
    obtain ⟨child, below, rfl⟩ := List.exists_cons_of_ne_nil some
    obtain ⟨here, item⟩ := all child List.mem_cons_self
    have stops' : ∀ line ∈ (lines ++ rest).head?, line.1 < deeper := fun line first =>
      (head_append_le nested stops line first).trans_lt deep
    rw [List.cons_append, List.append_assoc]
    obtain ⟨value, step⟩ := @parseEntries_parent text (fuel + 1) indent content
      (child :: below ++ (lines ++ rest)) child result plain open_ rfl (by omega)
    have block : (parseBlock text (fuel + 1) (child :: below ++ (lines ++ rest)) child.1).2 = lines ++ rest := by
      have isItems : ((child :: below ++ (lines ++ rest)).head?.any fun line => isItem line.2) = true := item
      rw [parseBlock, if_pos isItems, here]
      exact parseItems_all all stops'
    rw [step, block]
    exact ih (by omega) stops
  | @nested indent deeper content below lines plain open_ deep some block nested ihBlock ih =>
    intro fuel rest result enough stops
    rw [List.length_cons, List.length_append] at enough
    obtain ⟨fuel, rfl⟩ : ∃ k, fuel = k + 2 := ⟨fuel - 2, by omega⟩
    obtain ⟨child, below, rfl⟩ := List.exists_cons_of_ne_nil some
    obtain ⟨here, notItem⟩ := block.head child rfl
    have stops' : ∀ line ∈ (lines ++ rest).head?, line.1 < deeper := fun line first =>
      (head_append_le nested stops line first).trans_lt deep
    rw [List.cons_append, List.append_assoc]
    obtain ⟨value, step⟩ := @parseEntries_parent text (fuel + 1) indent content
      (child :: below ++ (lines ++ rest)) child result plain open_ rfl (by omega)
    have read : (parseBlock text (fuel + 1) (child :: below ++ (lines ++ rest)) child.1).2 = lines ++ rest := by
      have noItems : ¬ ((child :: below ++ (lines ++ rest)).head?.any fun line => isItem line.2) = true := by
        simp [notItem]
      rw [parseBlock, if_neg noItems, here]
      exact ihBlock (by omega) stops'
    rw [step, read]
    exact ih (by omega) stops

/-- A document is read to its end exactly when its lines are well nested. -/
theorem fails_closed_iff (text : PyText) (document : List Char) : FailsClosed text document ↔
    ∀ first ∈ (linesOf document).head?, WellNested first.1 (linesOf document) := by
  unfold FailsClosed
  cases linesOf document with
  | nil => exact iff_of_true ⟨[], rfl⟩ (by simp)
  | cons first lines =>
    rw [parseLines, parseBlock]
    by_cases items : ((first :: lines).head?.any fun line => isItem line.2) = true
    · rw [if_pos items]
      refine iff_of_false (fun ⟨entries, read⟩ => ?_) fun nested => ?_
      · cases congrArg Prod.fst read
      · have plain := ((nested first rfl).head first rfl).2
        have item : isItem first.2 = true := items
        rw [plain] at item
        cases item
    · rw [if_neg items]
      obtain ⟨front, split, nested⟩ :=
        (@consumed text (2 * (first :: lines).length + 1)).1 (first :: lines) first.1 []
      constructor
      · rintro ⟨entries, read⟩ _ ⟨⟩
        rw [congrArg Prod.snd read, List.append_nil] at split
        exact split ▸ nested
      · intro whole
        have all := @parseEntries_all text _ _ (whole first rfl) (2 * (first :: lines).length + 1) [] []
          le_rfl (by simp)
        rw [List.append_nil] at all
        exact ⟨_, Prod.ext rfl all⟩

/-- A registry with one item a column too far to the left. -/
def shiftedRegistry : List Char :=
  "debian_read_only_commands:\n  - ls\n - cat\nforbidden_patterns:\n  - rm -rf /\n".toList

/-- Its forbidden patterns are gone. -/
theorem patterns_dropped : ¬ FailsClosed .ascii shiftedRegistry ∧
    (Policy.entries (parseSimpleYaml .ascii shiftedRegistry) "forbidden_patterns").toOption.map
      List.length = some 0 := by
  constructor
  · rintro ⟨entries, read⟩
    have left : (parseLines .ascii (linesOf shiftedRegistry)).2.isEmpty = false := by decide +kernel
    rw [read] at left
    cases left
  · decide +kernel

end DroidOs.Rocky.SimpleYaml
