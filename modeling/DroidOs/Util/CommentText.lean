/- GID: DroidOs/Util/CommentText
   generality: I
   source: src/droidos/util/miniyaml.py
   digest: What a comment behind a line leaves of the line, as an entry and as an item. -/

import DroidOs.Util.Legible
import DroidOs.Util.LineRoles

set_option autoImplicit false
set_option relaxedAutoImplicit false

namespace DroidOs.Util.CommentText

open DroidOs.Lib DroidOs.Core.Values DroidOs.Util.Characters DroidOs.Util.MiniYaml
  DroidOs.Util.Legible DroidOs.Util.LineRoles

/-! What comment stripping leaves of a line. -/

/-- The quote that is open at the end of a line. -/
def openQuote (line : List Char) : Option Char := line.foldl turn none

/-- The text of a line with a comment behind it. -/
def commented (line comment : List Char) : List Char := line ++ ' ' :: '#' :: ' ' :: comment

def Known (quote : Option Char) : Prop := quote = none ∨ quote = some '\'' ∨ quote = some '"'

theorem known_turn {quote : Option Char} (known : Known quote) (c : Char) :
    Known (turn quote c) := by
  rcases known with rfl | rfl | rfl
  · by_cases single : c = '\''
    · subst single
      exact .inr (.inl rfl)
    by_cases double : c = '"'
    · subst double
      exact .inr (.inr rfl)
    · left
      simp [turn, isQuote, single, double]
  · simp only [turn]
    split
    · exact .inl rfl
    · exact .inr (.inl rfl)
  · simp only [turn]
    split
    · exact .inl rfl
    · exact .inr (.inr rfl)

private theorem known_line {quote : Option Char} (known : Known quote) (line : List Char) :
    Known (line.foldl turn quote) := by
  induction line generalizing quote with
  | nil => exact known
  | cons c line ih => exact ih (known_turn known c)

def strippedFrom (quote before : Option Char) (line : List Char) : List Char :=
  stripComment (decide (quote = some '\'')) (decide (quote = some '"')) before line

theorem strippedFrom_cons {quote : Option Char} (known : Known quote) (before : Option Char)
    {c : Char} (other : c ≠ '#') (line : List Char) :
    strippedFrom quote before (c :: line) = c :: strippedFrom (turn quote c) (some c) line := by
  unfold strippedFrom
  by_cases single : c = '\''
  · subst single
    rcases known with rfl | rfl | rfl <;> simp [stripComment, turn, isQuote]
  by_cases double : c = '"'
  · subst double
    rcases known with rfl | rfl | rfl <;> simp [stripComment, turn, isQuote]
  · have kept : turn quote c = quote := by
      rcases known with rfl | rfl | rfl <;> simp [turn, isQuote, single, double]
    rw [stripComment, if_neg fun both => single both.1, if_neg fun both => double both.1,
      if_neg fun mark => other mark.1, kept]

private theorem strippedFrom_past {quote : Option Char} (known : Known quote) (before : Option Char)
    {line : List Char} (unmarked : '#' ∉ line) (rest : List Char) :
    ∃ last, strippedFrom quote before (line ++ rest) =
      line ++ strippedFrom (line.foldl turn quote) last rest := by
  induction line generalizing quote before with
  | nil => exact ⟨before, rfl⟩
  | cons c line ih =>
    have other : c ≠ '#' := fun same => unmarked (by simp [same])
    obtain ⟨last, later⟩ := ih (known_turn known c) (some c)
      fun there => unmarked (List.mem_cons_of_mem _ there)
    exact ⟨last, by rw [List.cons_append, strippedFrom_cons known before other, later]; rfl⟩

theorem stripComment_closed {line : List Char} (unmarked : '#' ∉ line)
    (closed : openQuote line = none) (comment : List Char) :
    stripComment false false none (commented line comment) = line ++ [' '] := by
  obtain ⟨last, past⟩ := strippedFrom_past (.inl rfl) none unmarked (' ' :: '#' :: ' ' :: comment)
  unfold openQuote at closed
  rw [closed] at past
  exact past

/-- Behind an open quote the comment's mark is text. -/
theorem stripComment_open {line : List Char} (unmarked : '#' ∉ line)
    (opened : openQuote line ≠ none) (comment : List Char) :
    ∃ quote, stripComment false false none (commented line comment) =
      line ++ ' ' :: '#' :: strippedFrom quote (some '#') (' ' :: comment) ∧ Known quote := by
  obtain ⟨last, past⟩ := strippedFrom_past (.inl rfl) none unmarked (' ' :: '#' :: ' ' :: comment)
  have known : Known (openQuote line) := known_line (.inl rfl) line
  refine ⟨openQuote line, past.trans ?_, known⟩
  unfold openQuote at opened known ⊢
  rcases known with shut | single | double
  · exact absurd shut opened
  · rw [single]
    rfl
  · rw [double]
    rfl

/-! Extended texts. -/

/-- The text with a mark behind a gap, and a tail that does not end in a blank. -/
structure Extended (tail s s' : List Char) : Prop where
  trimmed : tail.rdropWhile isSpace = tail
  extends_by : ∃ gap, gap ≠ [] ∧ (∀ c ∈ gap, isSpace c = true) ∧ s' = s ++ gap ++ '#' :: tail

variable {tail s s' : List Char}

theorem mark_solid : isSpace '#' = false := by decide

theorem Extended.strip (extended : Extended tail s s') (visible : strip s ≠ []) :
    Extended tail (strip s) (strip s') := by
  obtain ⟨trimmed, gap, some_gap, blanks, rfl⟩ := extended
  obtain ⟨wider, all, suffix, same⟩ := TextLines.strip_extended visible blanks mark_solid tail
  refine ⟨trimmed, wider, ?_, all, same.trans (by rw [trimmed]; rfl)⟩
  rintro rfl
  exact some_gap (List.suffix_nil.mp suffix)

theorem Extended.strip_blank (extended : Extended tail s s') (blank : Characters.strip s = []) :
    Characters.strip s' = '#' :: tail := by
  obtain ⟨trimmed, gap, -, blanks, rfl⟩ := extended
  have all : ∀ c ∈ s ++ gap, isSpace c = true := by
    intro c there
    rcases List.mem_append.mp there with front | back
    · by_contra solid
      have kept : c ∈ Characters.strip s := TextLines.mem_strip front (by simpa using solid)
      rw [blank] at kept
      exact nomatch kept
    · exact blanks c back
  have same : Characters.strip (s ++ gap ++ '#' :: tail) = '#' :: tail.rdropWhile isSpace :=
    TextLines.strip_gap all mark_solid tail
  rw [same, trimmed]

theorem Extended.drop (extended : Extended tail s s') {n : ℕ} (long : n ≤ s.length) :
    Extended tail (s.drop n) (s'.drop n) := by
  obtain ⟨trimmed, gap, some_gap, blanks, rfl⟩ := extended
  refine ⟨trimmed, gap, some_gap, blanks, ?_⟩
  rw [List.append_assoc, List.drop_append_of_le_length long, List.append_assoc]

theorem Extended.mem_mark (extended : Extended tail s s') : '#' ∈ s' := by
  obtain ⟨-, gap, -, -, rfl⟩ := extended
  simp

theorem Extended.mem (extended : Extended tail s s') {c : Char} (there : c ∈ s) : c ∈ s' := by
  obtain ⟨-, gap, -, -, rfl⟩ := extended
  simp [there]

theorem Extended.head (extended : Extended tail s s') (some_text : s ≠ []) : s'.head? = s.head? := by
  obtain ⟨-, gap, -, -, rfl⟩ := extended
  cases s with
  | nil => exact absurd rfl some_text
  | cons c s => rfl

/-- A line that is more than a dash is an item with a comment behind it if it is one without. -/
theorem Extended.isItem (extended : Extended tail s s') (some_text : s ≠ []) (dashed : s ≠ ['-']) :
    isItem s' = isItem s := by
  obtain ⟨-, gap, some_gap, blanks, rfl⟩ := extended
  rcases s with - | ⟨a, - | ⟨b, s⟩⟩
  · exact absurd rfl some_text
  · have other : a ≠ '-' := fun same => dashed (by rw [same])
    simp [MiniYaml.isItem, List.isPrefixOf, other.symm]
  · simp [MiniYaml.isItem, List.isPrefixOf]

/-! Entries with a comment behind them. -/

theorem Extended.keyOf (extended : Extended tail s s') (colon : ':' ∈ s) : keyOf s' = keyOf s := by
  obtain ⟨-, gap, -, -, rfl⟩ := extended
  have same : (s ++ gap ++ '#' :: tail).takeWhile (fun c => c ≠ ':') =
      s.takeWhile fun c => c ≠ ':' := by
    rw [List.append_assoc, List.takeWhile_append, if_neg]
    intro whole
    have all := List.takeWhile_eq_self_iff.mp
      (List.IsPrefix.eq_of_length (List.takeWhile_prefix _) whole)
    simpa using all ':' colon
  unfold LineRoles.keyOf
  rw [same]

private theorem after_colon (extended : Extended tail s s') (colon : ':' ∈ s) :
    Extended tail (s.dropWhile fun c => c ≠ ':').tail (s'.dropWhile fun c => c ≠ ':').tail := by
  obtain ⟨trimmed, gap, some_gap, blanks, rfl⟩ := extended
  refine ⟨trimmed, gap, some_gap, blanks, ?_⟩
  have reached : s.dropWhile (fun c => c ≠ ':') ≠ [] := by
    intro none_left
    have all := List.dropWhile_eq_nil_iff.mp none_left ':' colon
    simp at all
  rw [List.append_assoc, List.dropWhile_append, if_neg (by simpa using reached),
    List.tail_append_of_ne_nil reached, List.append_assoc]

/-- What follows the key is extended too, or it is the comment alone. -/
theorem Extended.restOf (extended : Extended tail s s') (colon : ':' ∈ s) :
    (restOf s = [] ∧ restOf s' = '#' :: tail) ∨
      (restOf s ≠ [] ∧ Extended tail (restOf s) (restOf s')) := by
  have after := after_colon extended colon
  by_cases blank : LineRoles.restOf s = []
  · exact .inl ⟨blank, after.strip_blank blank⟩
  · exact .inr ⟨blank, after.strip blank⟩

theorem restOf_bare (s : List Char) : TextLines.Bare isSpace (restOf s) := TextLines.bare_strip _

private theorem strip_restOf (s : List Char) : Characters.strip (restOf s) = restOf s :=
  TextLines.strip_of_bare (restOf_bare s)

/-- A comment behind a header can only chomp its block. -/
theorem Extended.blockScalarKind (extended : Extended tail s s') (colon : ':' ∈ s) :
    blockScalarKind (LineRoles.restOf s') = (blockScalarKind (LineRoles.restOf s)).map
      fun block => (block.1, block.2 || decide ('-' ∈ tail)) := by
  unfold MiniYaml.blockScalarKind
  rw [strip_restOf, strip_restOf]
  rcases extended.restOf colon with ⟨empty, mark⟩ | ⟨some_rest, longer⟩
  · rw [empty, mark]
    rfl
  · obtain ⟨-, gap, -, blanks, same⟩ := longer
    have no_dash : '-' ∉ gap := fun there => absurd (blanks '-' there) (by decide)
    rw [same]
    rcases shown : LineRoles.restOf s with - | ⟨c, rest⟩
    · exact absurd shown some_rest
    · by_cases bar : c = '|'
      · subst bar
        simp [no_dash, Bool.decide_or]
      by_cases fold : c = '>'
      · subst fold
        simp [no_dash, Bool.decide_or]
      · simp only [List.cons_append]
        split
        · simp_all
        · simp_all
        · split
          · simp_all
          · simp_all
          · rfl

/-- The text of an item is extended as the line is. -/
theorem Extended.itemText (extended : Extended tail s s') (bare : TextLines.Bare isSpace s)
    (item : MiniYaml.isItem s = true) :
    LineRoles.itemText s ≠ [] ∧ Extended tail (LineRoles.itemText s) (LineRoles.itemText s') := by
  rcases s with - | ⟨a, - | ⟨b, - | ⟨c, rest⟩⟩⟩
  · exact nomatch item
  · simp [MiniYaml.isItem, List.isPrefixOf] at item
  · simp only [MiniYaml.isItem, List.isPrefixOf, Bool.and_eq_true, beq_iff_eq] at item
    have last := bare.2 b rfl
    rw [← item.2.1] at last
    exact absurd last (by decide)
  · have visible : Characters.strip ((a :: b :: c :: rest).drop 2) ≠ [] := by
      have some_text : c :: rest ≠ [] := List.cons_ne_nil c rest
      have last := List.getLast?_eq_some_getLast some_text
      have solid := bare.2 ((c :: rest).getLast some_text) (by
        rw [List.getLast?_cons_cons, List.getLast?_cons_cons, last]
        rfl)
      exact List.ne_nil_of_mem (TextLines.mem_strip (List.getLast_mem some_text) solid)
    exact ⟨visible, (extended.drop (by simp)).strip visible⟩

end DroidOs.Util.CommentText
