/- GID: DroidOs/Util/Legible
   generality: I
   source: src/droidos/util/miniyaml.py
   digest: The documents whose written text the parser can tell apart from other documents. -/

import DroidOs.Util.MiniYaml

set_option autoImplicit false
set_option relaxedAutoImplicit false

namespace DroidOs.Util.Legible

open DroidOs.Lib DroidOs.Core.Values DroidOs.Util.Characters DroidOs.Util.MiniYaml

/-! Comments. -/

/-- The quote that is open after one more character. -/
def turn (quote : Option Char) (c : Char) : Option Char :=
  match quote with
  | none => if isQuote c then some c else none
  | some q => if c = q then none else some q

private def commentFrom : Option Char → Bool → List Char → Bool
  | _, _, [] => false
  | quote, afterBlank, c :: cs =>
    (decide (c = '#') && quote.isNone && afterBlank) ||
      commentFrom (turn quote c) (decide (c = ' ' ∨ c = '\t')) cs

/-- A `#` outside quotes that starts the text or follows a blank. -/
def hasComment (line : List Char) : Bool := commentFrom none true line

private def blankBefore (before : Option Char) : Bool :=
  decide (before = none ∨ before = some ' ' ∨ before = some '\t')

private theorem stripComment_from (quote before : Option Char) {line : List Char}
    (known : quote = none ∨ quote = some '\'' ∨ quote = some '"')
    (clear : commentFrom quote (blankBefore before) line = false) :
    stripComment (decide (quote = some '\'')) (decide (quote = some '"')) before line = line := by
  induction line generalizing quote before with
  | nil => rfl
  | cons c cs ih =>
    simp only [commentFrom, Bool.or_eq_false_iff] at clear
    obtain ⟨here, later⟩ := clear
    have blank : decide (c = ' ' ∨ c = '\t') = blankBefore (some c) := by simp [blankBefore]
    rw [blank] at later
    have next (open_quote : turn quote c = none ∨ turn quote c = some '\'' ∨ turn quote c = some '"') :
        stripComment (decide (turn quote c = some '\'')) (decide (turn quote c = some '"')) (some c) cs =
          cs := ih _ _ open_quote later
    by_cases single : c = '\''
    · subst single
      rcases known with rfl | rfl | rfl <;> simpa [stripComment, turn, isQuote] using next
    · by_cases double : c = '"'
      · subst double
        rcases known with rfl | rfl | rfl <;> simpa [stripComment, turn, isQuote] using next
      · have kept : turn quote c = quote := by
          rcases known with rfl | rfl | rfl <;> simp [turn, isQuote, single, double]
        rw [kept] at next
        have uncut : ¬ (c = '#' ∧ decide (quote = some '\'') = false ∧ decide (quote = some '"') = false ∧
            (before = none ∨ before = some ' ' ∨ before = some '\t')) := by
          rintro ⟨mark, not_single, not_double, after⟩
          rcases known with rfl | rfl | rfl
          · simp [mark, blankBefore, after] at here
          · simp at not_single
          · simp at not_double
        rw [stripComment, if_neg fun both => single both.1, if_neg fun both => double both.1,
          if_neg uncut, next known]

/-- A line without a comment is kept whole. -/
theorem stripComment_eq {line : List Char} (clear : hasComment line = false) :
    stripComment false false none line = line :=
  stripComment_from none none (.inl rfl) clear

private theorem commentFrom_append {line rest : List Char} (unmarked : '#' ∉ rest)
    (quote : Option Char) (afterBlank : Bool) :
    commentFrom quote afterBlank (line ++ rest) = commentFrom quote afterBlank line := by
  induction line generalizing quote afterBlank with
  | nil =>
    induction rest generalizing quote afterBlank with
    | nil => rfl
    | cons c cs ih =>
      have other : c ≠ '#' := fun same => unmarked (by simp [same])
      have later : commentFrom (turn quote c) (decide (c = ' ' ∨ c = '\t')) cs = false :=
        ih (fun there => unmarked (List.mem_cons_of_mem _ there)) _ _
      have here : commentFrom quote afterBlank (c :: cs) = false := by
        rw [commentFrom, later]
        simp [other]
      exact here
  | cons c cs ih => rw [List.cons_append, commentFrom, commentFrom, ih]

theorem hasComment_append {line rest : List Char} (unmarked : '#' ∉ rest) :
    hasComment (line ++ rest) = hasComment line := commentFrom_append unmarked none true

theorem hasComment_of_unmarked {line : List Char} (unmarked : '#' ∉ line) : hasComment line = false :=
  show hasComment ([] ++ line) = false from hasComment_append unmarked

private theorem commentFrom_left {line rest : List Char} {quote : Option Char} {afterBlank : Bool}
    (clear : commentFrom quote afterBlank (line ++ rest) = false) :
    commentFrom quote afterBlank line = false := by
  induction line generalizing quote afterBlank with
  | nil => rfl
  | cons c cs ih =>
    rw [List.cons_append, commentFrom, Bool.or_eq_false_iff] at clear
    rw [commentFrom, clear.1, ih clear.2, Bool.or_false]

/-- What comes before a text without comment has none. -/
theorem hasComment_left {line rest : List Char} (clear : hasComment (line ++ rest) = false) :
    hasComment line = false := commentFrom_left clear

theorem hasComment_pad (indent : Nat) (line : List Char) :
    hasComment (pad indent ++ line) = hasComment line := by
  induction indent with
  | zero => rfl
  | succ indent ih => exact ih

theorem hasComment_item (line : List Char) : hasComment (['-', ' '] ++ line) = hasComment line := rfl

/-! Texts. -/

variable (text : YamlText)

/-- An unquoted text of no other meaning: no other scalar, and no header of a block. -/
def isPlain (inMapping : Bool) (s : List Char) : Bool :=
  (word s).isNone && !looksQuoted s && !looksFlow s && (int text s).isNone &&
    (text.parseFloat (String.ofList s)).isNone && !(inMapping && s.head?.any fun c => c = '|' ∨ c = '>')

def isUnbroken (s : List Char) : Bool := s.all fun c => !isLineBreak c

/-- A text the scalar parser reads back, as the value of a key or as an item. -/
def legibleText (inMapping : Bool) (s : List Char) : Bool :=
  isUnbroken s && (quotes s || isPlain text inMapping s)

/-- A key the parser reads back. A first key stands behind the mark of an item. -/
def legibleKey (first : Bool) (key : List Char) : Bool :=
  decide (':' ∉ key) && isUnbroken key && decide (strip key = key) && !isItem key &&
    (if first then !key.head?.any isQuote else !isMarker key)

/-- No comment starts in the line of an entry. -/
def clearEntry (key : List Char) : PyVal → Bool
  | .str s =>
    if quotes s.toList then !hasComment (key ++ [':', ' ', '"'] ++ s.toList ++ ['"'])
    else !hasComment key
  | _ => !hasComment key

/-! A list in a list is written as Python prints it, on one line. -/

def legiblePrinted (s : List Char) : Bool :=
  (s.all fun c => text.printable c && !isLineBreak c && decide (c ∉ ['\\', ':', '#'])) &&
    !(decide ('\'' ∈ s) && decide ('"' ∈ s))

mutual

/-- An item of a printed list: its own items cannot be told apart, so it has one at most. -/
def legibleFlow : PyVal → Bool
  | .none | .bool _ => true
  | .int n => text.prints n
  | .float _ => false
  | .str s => legiblePrinted text s.toList
  | .list items => decide (items.length ≤ 1) && legibleFlows items
  | .dict items => items.isEmpty

def legibleFlows : List PyVal → Bool
  | [] => true
  | item :: items => legibleFlow item && legibleFlows items

end

/-- What is written on the line of its key or of its item. -/
def legibleLeaf (inMapping : Bool) : PyVal → Bool
  | .none | .bool _ => true
  | .int n => text.prints n
  | .float _ => false
  | .str s => legibleText text inMapping s.toList
  | .list items => items.isEmpty || (!inMapping && legibleFlows text items)
  | .dict items => items.isEmpty

def clearItem : PyVal → Bool
  | .str s => !quotes s.toList || !hasComment (['"'] ++ s.toList ++ ['"'])
  | _ => true

mutual

/-- A document whose block is read back. -/
def legible : PyVal → Bool
  | .dict entries => legibleEntries false entries
  | .list items => legibleItems items
  | _ => true

def legibleEntries (first : Bool) : List (PyVal × PyVal) → Bool
  | [] => true
  | (.str key, value) :: entries =>
    legibleKey first key.toList && clearEntry key.toList value &&
      (if nested value then legible value else legibleLeaf text true value) &&
      legibleEntries false entries
  | _ :: _ => false

def legibleItems : List PyVal → Bool
  | [] => true
  | .dict entries :: items => legibleEntries true entries && legibleItems items
  | item :: items => legibleLeaf text false item && clearItem item && legibleItems items

end

/-! The documents of interest: no floats, and text keys that are present and distinct. -/

def keyName : PyVal → String
  | .str key => key
  | _ => ""

mutual

def built : PyVal → Bool
  | .float _ => false
  | .list items => builtItems items
  | .dict entries => decide (entries.map fun e => keyName e.1).Nodup && builtEntries entries
  | _ => true

def builtItems : List PyVal → Bool
  | [] => true
  | item :: items => built item && builtItems items

def builtEntries : List (PyVal × PyVal) → Bool
  | [] => true
  | (key, value) :: entries => decide (keyName key ≠ "") && built value && builtEntries entries

end

end DroidOs.Util.Legible
