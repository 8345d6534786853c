/- GID: DroidOs/Util/TidyLines
   generality: I
   source: src/droidos/util/miniyaml.py
   digest: Lines of which the parser drops none, and how tidiness splits. -/

import DroidOs.Util.LineRoles

set_option autoImplicit false
set_option relaxedAutoImplicit false

namespace DroidOs.Util.TidyLines

open DroidOs.Lib DroidOs.Core.Values DroidOs.Util.Characters DroidOs.Util.MiniYaml
  DroidOs.Util.LineRoles

/-! Tidy documents. -/

/-- An entry of the mapping, further down these lines, has the key. -/
def repeats : Option ℕ → ℕ → String → List Line → Bool
  | _, _, _, [] => false
  | header, indent, key, line :: rest =>
    if line.1 < indent then false
    else (!inBody header line.1 && decide (line.1 = indent) && decide (keyOf line.2 = key)) ||
      repeats (follow header line) indent key rest

/-- The block of an item has a line that is one column deeper than the item. -/
def outdented (line : Line) (rest : List Line) : Bool :=
  isItem line.2 && (deeper line.1 rest).any fun other => other.1 = line.1 + 1

/-- The entry that the line starts is neither repeated nor cut short. -/
def tidyEntry (header : Option ℕ) (line : Line) (rest : List Line) : Bool :=
  match entryText line.2 with
  | none => true
  | some entry => !repeats header (entryIndent line) (keyOf entry) rest && !outdented line rest

/-- No mapping repeats a key and no item has an outdented line, block scalars left aside.
`header` is the block scalar that is open before the lines. -/
def tidy : Option ℕ → List Line → Bool
  | _, [] => true
  | header, line :: rest =>
    (inBody header line.1 || tidyEntry (follow header line) line rest) && tidy (follow header line) rest

variable {header : Option ℕ} {indent : ℕ} {lines rest : List Line}

private theorem repeats_deep (key : String) (deep : ∀ line ∈ lines, indent < line.1) :
    repeats header indent key (lines ++ rest) = repeats (lines.foldl follow header) indent key rest := by
  induction lines generalizing header with
  | nil => rfl
  | cons line lines ih =>
    have here := deep line List.mem_cons_self
    rw [List.cons_append, repeats, if_neg (by omega), List.foldl_cons,
      ← ih fun other there => deep other (List.mem_cons_of_mem line there)]
    simp [Nat.ne_of_gt here]

theorem repeats_stop (key : String) (stops : ∀ line ∈ rest.head?, line.1 < indent) :
    repeats header indent key (lines ++ rest) = repeats header indent key lines := by
  induction lines generalizing header with
  | nil =>
    cases rest with
    | nil => rfl
    | cons line rest => simp [repeats, stops line rfl]
  | cons line lines ih => rw [List.cons_append, repeats, repeats, ih]

private theorem deeper_stop (stops : ∀ line ∈ rest.head?, line.1 ≤ indent) :
    deeper indent (lines ++ rest) = deeper indent lines := by
  unfold deeper
  induction lines with
  | nil =>
    cases rest with
    | nil => rfl
    | cons line rest =>
      have here := stops line rfl
      rw [List.nil_append, List.takeWhile_cons_of_neg (by simpa using here), List.takeWhile_nil]
  | cons line lines ih => rw [List.cons_append, List.takeWhile_cons, List.takeWhile_cons, ih]

private theorem le_entryIndent (line : Line) : line.1 ≤ entryIndent line := by
  unfold entryIndent
  split <;> omega

private theorem tidyEntry_stop {line : Line} (stops : ∀ other ∈ rest.head?, other.1 < line.1) :
    tidyEntry header line (lines ++ rest) = tidyEntry header line lines := by
  have le := le_entryIndent line
  have inner : deeper line.1 (lines ++ rest) = deeper line.1 lines :=
    deeper_stop fun other first => Nat.le_of_lt (stops other first)
  unfold tidyEntry outdented
  cases entryText line.2 with
  | none => rfl
  | some entry =>
    simp only [inner, repeats_stop (keyOf entry) fun other first => (stops other first).trans_le le]

/-- What is deeper than the line after it is tidy by itself. -/
theorem tidy_append (deep : ∀ line ∈ lines, indent < line.1)
    (stops : ∀ line ∈ rest.head?, line.1 ≤ indent) :
    tidy header (lines ++ rest) = (tidy header lines && tidy (lines.foldl follow header) rest) := by
  induction lines generalizing header with
  | nil => rfl
  | cons line lines ih =>
    have here := deep line List.mem_cons_self
    have alone : tidyEntry (follow header line) line (lines ++ rest) =
        tidyEntry (follow header line) line lines :=
      tidyEntry_stop fun other first => (stops other first).trans_lt here
    rw [List.cons_append, tidy, tidy, alone,
      ih fun other there => deep other (List.mem_cons_of_mem line there), List.foldl_cons,
      Bool.and_assoc]

private theorem follow_body {line : Line} (deep : indent < line.1) :
    follow (some indent) line = some indent := by
  simp [follow, inBody, deep]

theorem tidy_body (deep : ∀ line ∈ lines, indent < line.1) :
    tidy (some indent) lines = true ∧ lines.foldl follow (some indent) = some indent := by
  induction lines with
  | nil => exact ⟨rfl, rfl⟩
  | cons line lines ih =>
    have here := deep line List.mem_cons_self
    obtain ⟨all, stays⟩ := ih fun other there => deep other (List.mem_cons_of_mem line there)
    rw [tidy, List.foldl_cons, follow_body here]
    refine ⟨?_, stays⟩
    simp [inBody, here, all]

theorem deep_foldl (deep : Deep indent header) (within : ∀ line ∈ lines, indent ≤ line.1) :
    Deep indent (lines.foldl follow header) := by
  induction lines generalizing header with
  | nil => exact deep
  | cons line lines ih =>
    exact ih (deep.follow (within line List.mem_cons_self))
      fun other there => within other (List.mem_cons_of_mem line there)

/-- An entry at the head of the lines that its mapping takes. -/
theorem tidy_entry {content : List Char} {below : List Line} (is_entry : isEntry content = true)
    (outside : inBody header indent = false) (deep : ∀ line ∈ lines, indent < line.1)
    (stops : ∀ line ∈ below.head?, line.1 ≤ indent) :
    tidy header ((indent, content) :: (lines ++ below)) = true ↔
      repeats (lines.foldl follow (follow header (indent, content))) indent (keyOf content) below = false ∧
        tidy (follow header (indent, content)) lines = true ∧
          tidy (lines.foldl follow (follow header (indent, content))) below = true := by
  have plain := (isItem_of_isEntry is_entry).1
  rw [tidy, tidy_append deep stops, tidyEntry, entryText_of_isEntry is_entry]
  simp [outside, outdented, plain, entryIndent, repeats_deep _ deep]

theorem repeats_entry {content : List Char} {below : List Line} (key : String)
    (outside : inBody header indent = false) (deep : ∀ line ∈ lines, indent < line.1) :
    repeats header indent key ((indent, content) :: (lines ++ below)) = false ↔
      keyOf content ≠ key ∧
        repeats (lines.foldl follow (follow header (indent, content))) indent key below = false := by
  rw [repeats, if_neg (Nat.lt_irrefl indent), repeats_deep key deep]
  simp [outside]

private theorem deeper_append (deep : ∀ line ∈ lines, indent < line.1)
    (stops : ∀ line ∈ rest.head?, line.1 ≤ indent) : deeper indent (lines ++ rest) = lines := by
  rw [deeper_stop stops]
  apply List.takeWhile_eq_self_iff.mpr
  simpa using deep

private theorem outdented_iff {content : List Char} {left below : List Line} (item : isItem content = true)
    (within : ∀ line ∈ lines, indent + 2 ≤ line.1) (deep : ∀ line ∈ left, indent < line.1)
    (cut : ∀ line ∈ left.head?, line.1 < indent + 2) (stops : ∀ line ∈ below.head?, line.1 ≤ indent) :
    outdented (indent, content) ((lines ++ left) ++ below) = false ↔ left = [] := by
  have block : ∀ line ∈ lines ++ left, indent < line.1 := by
    intro line there
    rcases List.mem_append.mp there with there | there
    · have at_least := within line there
      omega
    · exact deep line there
  unfold outdented
  rw [item, Bool.true_and, deeper_append block stops, List.any_append]
  have none_within : (lines.any fun other => other.1 = indent + 1) = false := by
    rw [List.any_eq_false]
    intro line there
    have at_least := within line there
    simp only [decide_eq_true_eq]
    omega
  rw [none_within, Bool.false_or]
  cases left with
  | nil => simp
  | cons line left =>
    have above := deep line List.mem_cons_self
    have under := cut line rfl
    have one_deeper : line.1 = indent + 1 := by omega
    simp [one_deeper]

/-- An item that starts a mapping, above the lines of its block. The mapping takes the lines before
`left`. -/
theorem tidy_item {content : List Char} {left below : List Line} (item : isItem content = true)
    (starts : startsEntry (itemText content) = true) (is_entry : isEntry (itemText content) = true)
    (outside : inBody header indent = false) (within : ∀ line ∈ lines, indent + 2 ≤ line.1)
    (deep : ∀ line ∈ left, indent < line.1) (cut : ∀ line ∈ left.head?, line.1 < indent + 2)
    (stops : ∀ line ∈ below.head?, line.1 ≤ indent) :
    tidy header ((indent, content) :: ((lines ++ left) ++ below)) = true ↔
      left = [] ∧ tidy none ((indent + 2, itemText content) :: lines) = true ∧
        tidy (lines.foldl follow (follow header (indent, content))) below = true := by
  have text : entryText content = some (itemText content) := by simp [entryText, item, starts]
  have same : follow none (indent + 2, itemText content) = follow header (indent, content) := by
    have opens : headerIndent (indent, content) =
        (blockScalarKind (restOf (itemText content))).map fun _ => indent + 2 := by
      simp [headerIndent, text, entryIndent, item]
    rw [follow, follow, outside, opens, ← headerIndent_entry is_entry]
    rfl
  have plain := (isItem_of_isEntry is_entry).1
  have kept := outdented_iff item within deep cut stops
  by_cases whole : left = []
  · subst whole
    have block : ∀ line ∈ lines, indent < line.1 := fun line there => Nat.lt_of_succ_lt (within line there)
    have ends : ∀ line ∈ below.head?, line.1 < indent + 2 := fun line first => by
      have le := stops line first
      omega
    rw [List.append_nil] at kept ⊢
    rw [tidy, tidy, tidyEntry, tidyEntry, text, entryText_of_isEntry is_entry, same,
      tidy_append block stops]
    have alone : repeats (follow header (indent, content)) (indent + 2) (keyOf (itemText content))
        (lines ++ below) = repeats (follow header (indent, content)) (indent + 2)
          (keyOf (itemText content)) lines := repeats_stop _ ends
    simp only [entryIndent, item, plain, if_true, Bool.false_eq_true, if_false, alone, kept.mpr rfl,
      outside]
    simp [inBody, outdented, plain, and_assoc]
  · have cut_short : outdented (indent, content) ((lines ++ left) ++ below) = true := by
      rw [← Bool.not_eq_false, kept]
      exact whole
    rw [tidy, outside, tidyEntry, text]
    simp only [cut_short, whole, Bool.not_true, Bool.and_false, Bool.or_false, Bool.false_and,
      Bool.false_eq_true, false_and]

end DroidOs.Util.TidyLines
