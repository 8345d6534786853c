/- GID: DroidOs/Lib/TextLines
   generality: G
   digest: Cutting blanks off a text, and texts made of lines. -/

import Mathlib.Data.List.DropRight
import Mathlib.Data.List.TakeWhile

set_option autoImplicit false
set_option relaxedAutoImplicit false

namespace DroidOs.Lib.TextLines

variable {α : Type}

/-! Blanks around a text. -/

/-- The text without the blanks at its ends. -/
def strip (blank : α → Bool) (l : List α) : List α := (l.dropWhile blank).rdropWhile blank

/-- Neither end of the text is a blank. -/
def Bare (blank : α → Bool) (l : List α) : Prop :=
  (∀ a ∈ l.head?, blank a = false) ∧ ∀ a ∈ l.getLast?, blank a = false

instance (blank : α → Bool) (l : List α) : Decidable (Bare blank l) := by
  unfold Bare
  infer_instance

variable {blank : α → Bool}

theorem dropWhile_of_head {l : List α} (head : ∀ a ∈ l.head?, blank a = false) :
    l.dropWhile blank = l := by
  cases l with
  | nil => rfl
  | cons a l => rw [List.dropWhile_cons_of_neg (by simp [head a rfl])]

theorem rdropWhile_of_last {l : List α} (last : ∀ a ∈ l.getLast?, blank a = false) :
    l.rdropWhile blank = l := by
  apply List.rdropWhile_eq_self_iff.mpr
  intro some_text
  have ends := last (l.getLast some_text) (List.getLast?_eq_some_getLast some_text)
  simp [ends]

theorem strip_of_bare {l : List α} (bare : Bare blank l) : strip blank l = l := by
  unfold strip
  rw [dropWhile_of_head bare.1, rdropWhile_of_last bare.2]

theorem strip_cons_blank {a : α} (space : blank a = true) (l : List α) :
    strip blank (a :: l) = strip blank l := by
  unfold strip
  rw [List.dropWhile_cons_of_pos space]

theorem strip_append_blanks {spaces : List α} (all : ∀ a ∈ spaces, blank a = true) (l : List α) :
    strip blank (spaces ++ l) = strip blank l := by
  unfold strip
  rw [List.dropWhile_append_of_pos all]

theorem bare_append {l m : List α} (front : l ≠ []) (back : m ≠ [])
    (head : ∀ a ∈ l.head?, blank a = false) (last : ∀ a ∈ m.getLast?, blank a = false) :
    Bare blank (l ++ m) := by
  constructor
  · intro a at_head
    rw [List.head?_append_of_ne_nil l front] at at_head
    exact head a at_head
  · intro a at_end
    rw [List.getLast?_append_of_ne_nil l back] at at_end
    exact last a at_end

private theorem head_rdropWhile {l : List α} {a : α} (first : a ∈ (l.rdropWhile blank).head?) :
    a ∈ l.head? := by
  obtain ⟨cut, whole⟩ := List.rdropWhile_prefix blank (l := l)
  rw [← whole]
  cases h : l.rdropWhile blank with
  | nil => simp [h] at first
  | cons b rest => simpa [h] using first

theorem bare_strip (l : List α) : Bare blank (strip blank l) := by
  constructor
  · intro a first
    have before := head_rdropWhile first
    rcases split : l.dropWhile blank with - | ⟨b, rest⟩
    · simp [split] at before
    · have stops := List.head?_dropWhile_not blank l
      simp only [split, List.head?_cons, Option.mem_def, Option.some.injEq] at before stops
      rw [← before]
      simpa using stops
  · intro a at_end
    have some_text : (l.dropWhile blank).rdropWhile blank ≠ [] := by
      intro empty
      simp [strip, empty] at at_end
    have stops := List.rdropWhile_last_not blank (l.dropWhile blank) some_text
    have it := List.getLast?_eq_some_getLast some_text
    simp only [strip, it, Option.mem_def, Option.some.injEq] at at_end
    rw [← at_end]
    simpa using stops

theorem strip_eq_self_iff {l : List α} : strip blank l = l ↔ Bare blank l :=
  ⟨fun same => same ▸ bare_strip l, strip_of_bare⟩

/-- A text ends in blanks where something is put behind it. -/
theorem dropWhile_eq_strip_append (blank : α → Bool) (l : List α) :
    ∃ gap, (∀ a ∈ gap, blank a = true) ∧ l.dropWhile blank = strip blank l ++ gap :=
  ⟨(l.dropWhile blank).rtakeWhile blank, fun _ there => List.mem_rtakeWhile_imp there,
    (List.rdropWhile_append_rtakeWhile).symm⟩

theorem mem_strip {l : List α} {a : α} (there : a ∈ l) (solid : blank a = false) :
    a ∈ strip blank l := by
  obtain ⟨gap, blanks, split⟩ := dropWhile_eq_strip_append blank l
  rw [← List.takeWhile_append_dropWhile (p := blank) (l := l), List.mem_append, split,
    List.mem_append] at there
  rcases there with front | visible | back
  · exact absurd (List.mem_takeWhile_imp front) (by simp [solid])
  · exact visible
  · exact absurd (blanks a back) (by simp [solid])

private theorem rdropWhile_mark {mark : α} (solid : blank mark = false) (l rest : List α) :
    (l ++ mark :: rest).rdropWhile blank = l ++ mark :: rest.rdropWhile blank := by
  induction rest using List.reverseRecOn with
  | nil =>
    rw [List.rdropWhile_nil, List.rdropWhile_concat_neg]
    simp [solid]
  | append_singleton rest a ih =>
    rw [← List.cons_append, ← List.append_assoc, List.rdropWhile_concat, List.rdropWhile_concat, ih]
    split <;> simp

theorem strip_gap {gap : List α} {mark : α} (blanks : ∀ a ∈ gap, blank a = true)
    (solid : blank mark = false) (rest : List α) :
    strip blank (gap ++ mark :: rest) = mark :: rest.rdropWhile blank := by
  rw [strip_append_blanks blanks, strip, List.dropWhile_cons_of_neg (by simp [solid])]
  exact rdropWhile_mark solid [] rest

/-- A text with visible characters that goes on after a gap keeps them, and the gap. -/
theorem strip_extended {l gap : List α} {mark : α} (visible : strip blank l ≠ [])
    (blanks : ∀ a ∈ gap, blank a = true) (solid : blank mark = false) (rest : List α) :
    ∃ wider, (∀ a ∈ wider, blank a = true) ∧ gap <:+ wider ∧
      strip blank (l ++ gap ++ mark :: rest) =
        strip blank l ++ wider ++ mark :: rest.rdropWhile blank := by
  obtain ⟨tail, tail_blank, split⟩ := dropWhile_eq_strip_append blank l
  have some_text : l.dropWhile blank ≠ [] := by
    rw [split]
    simp [visible]
  refine ⟨tail ++ gap, ?_, List.suffix_append _ _, ?_⟩
  · intro a there
    exact (List.mem_append.mp there).elim (tail_blank a) (blanks a)
  · have front : (l ++ gap ++ mark :: rest).dropWhile blank =
        l.dropWhile blank ++ gap ++ mark :: rest := by
      rw [List.append_assoc, List.dropWhile_append, if_neg (by simpa using some_text),
        List.append_assoc]
    rw [strip, front, rdropWhile_mark solid, split, List.append_assoc (strip blank l)]

/-! Lines. -/

variable (isBreak : α → Bool) (pair : α → α → Bool)

private def prepend (a : α) : List (List α) → List (List α)
  | [] => [[a]]
  | line :: rest => (a :: line) :: rest

/-- The lines of a text. Every break ends a line; of a pair of breaks that belong together
only the second one does. -/
def splitLines : List α → List (List α)
  | [] => []
  | a :: rest =>
    if rest.head?.any (pair a) then splitLines rest
    else if isBreak a then [] :: splitLines rest
    else prepend a (splitLines rest)

/-- The text of lines that each end with the break `stop`. -/
def joinLines (stop : α) (lines : List (List α)) : List α := lines.flatMap fun line => line ++ [stop]

variable {isBreak pair}

theorem splitLines_line {stop : α} (breaks : isBreak stop = true) (alone : ∀ a, pair stop a = false)
    (pairs : ∀ a b, pair a b = true → isBreak a = true) {line : List α}
    (unbroken : ∀ a ∈ line, isBreak a = false) (rest : List α) :
    splitLines isBreak pair (line ++ stop :: rest) = line :: splitLines isBreak pair rest := by
  induction line with
  | nil =>
    have single : rest.head?.any (pair stop) = false := by
      cases rest <;> simp [alone]
    simp [splitLines, single, breaks]
  | cons a line ih =>
    have inside := unbroken a List.mem_cons_self
    have no_pair (b : α) : pair a b = false := by
      by_contra paired
      exact absurd (pairs a b (by simpa using paired)) (by simp [inside])
    have single : (line ++ stop :: rest).head?.any (pair a) = false := by
      cases line <;> simp [no_pair]
    have later := ih fun b there => unbroken b (List.mem_cons_of_mem a there)
    rw [List.cons_append, splitLines, single, inside, later]
    rfl

/-- The lines of a text written line by line are the lines written. -/
theorem splitLines_joinLines {stop : α} (breaks : isBreak stop = true)
    (alone : ∀ a, pair stop a = false) (pairs : ∀ a b, pair a b = true → isBreak a = true)
    {lines : List (List α)} (unbroken : ∀ line ∈ lines, ∀ a ∈ line, isBreak a = false) :
    splitLines isBreak pair (joinLines stop lines) = lines := by
  induction lines with
  | nil => rfl
  | cons line lines ih =>
    have first := unbroken line List.mem_cons_self
    have later := ih fun l there => unbroken l (List.mem_cons_of_mem line there)
    have text : joinLines stop (line :: lines) = line ++ stop :: joinLines stop lines := by
      simp [joinLines]
    rw [text, splitLines_line breaks alone pairs first, later]

/-- The last line needs no break behind it. -/
theorem splitLines_last {line : List α} (some_text : line ≠ [])
    (pairs : ∀ a b, pair a b = true → isBreak a = true)
    (unbroken : ∀ a ∈ line, isBreak a = false) : splitLines isBreak pair line = [line] := by
  induction line with
  | nil => exact absurd rfl some_text
  | cons a line ih =>
    have inside := unbroken a List.mem_cons_self
    have single : line.head?.any (pair a) = false := by
      rw [Option.any_eq_false]
      intro b _
      by_contra paired
      exact absurd (pairs a b (by simpa using paired)) (by simp [inside])
    rw [splitLines, single, inside]
    cases line with
    | nil => rfl
    | cons b line =>
      rw [ih (by simp) fun c there => unbroken c (List.mem_cons_of_mem a there)]
      rfl

/-- Lines joined without a break behind the last one are read back as well. -/
theorem splitLines_unended {stop : α} (breaks : isBreak stop = true)
    (alone : ∀ a, pair stop a = false) (pairs : ∀ a b, pair a b = true → isBreak a = true)
    {lines : List (List α)} {last : List α} (some_text : last ≠ [])
    (unbroken : ∀ line ∈ lines ++ [last], ∀ a ∈ line, isBreak a = false) :
    splitLines isBreak pair (joinLines stop lines ++ last) = lines ++ [last] := by
  induction lines with
  | nil => exact splitLines_last some_text pairs (unbroken last (by simp))
  | cons line lines ih =>
    have first := unbroken line (by simp)
    have later := ih fun l there => unbroken l (List.mem_cons_of_mem line there)
    have text : joinLines stop (line :: lines) ++ last =
        line ++ stop :: (joinLines stop lines ++ last) := by
      simp [joinLines]
    rw [text, splitLines_line breaks alone pairs first, later, List.cons_append]

theorem joinLines_append (stop : α) (lines more : List (List α)) :
    joinLines stop (lines ++ more) = joinLines stop lines ++ joinLines stop more := by
  simp [joinLines]

/-! A line in the middle of a text. -/

theorem splitLines_ne_nil {l : List α} (some_text : l ≠ []) : splitLines isBreak pair l ≠ [] := by
  induction l with
  | nil => exact absurd rfl some_text
  | cons a rest ih =>
    rw [splitLines]
    split
    · rename_i paired
      apply ih
      rintro rfl
      simp at paired
    split
    · simp
    · unfold prepend
      split <;> simp

/-- What ends in a break is split apart from what follows, unless the break belongs to a pair. -/
theorem splitLines_append {l : List α} {stop : α} (breaks : isBreak stop = true) {rest : List α}
    (alone : rest.head?.any (pair stop) = false) :
    splitLines isBreak pair (l ++ stop :: rest) =
      splitLines isBreak pair (l ++ [stop]) ++ splitLines isBreak pair rest := by
  induction l with
  | nil => simp [splitLines, alone, breaks]
  | cons a l ih =>
    have same_head : (l ++ stop :: rest).head? = (l ++ [stop]).head? := by
      cases l <;> rfl
    rw [List.cons_append, List.cons_append, splitLines, splitLines, same_head, ih]
    split
    · rfl
    split
    · rfl
    · have some_line : splitLines isBreak pair (l ++ [stop]) ≠ [] := splitLines_ne_nil (by simp)
      cases first : splitLines isBreak pair (l ++ [stop]) with
      | nil => exact absurd first some_line
      | cons line lines => rfl

private theorem splitLines_break (pairs : ∀ a b, pair a b = true → isBreak b = true) {stop : α}
    (breaks : isBreak stop = true) (rest : List α) :
    ∃ lines, splitLines isBreak pair (stop :: rest) = [] :: lines := by
  induction rest generalizing stop with
  | nil => exact ⟨[], by simp [splitLines, breaks]⟩
  | cons a rest ih =>
    rw [splitLines]
    split
    · rename_i paired
      exact ih (pairs stop a (by simpa using paired))
    · exact ⟨_, rfl⟩

/-- A line is the first one of a text that goes on with a break, or not at all. -/
theorem splitLines_first (firsts : ∀ a b, pair a b = true → isBreak a = true)
    (seconds : ∀ a b, pair a b = true → isBreak b = true) {line rest : List α}
    (some_text : line ≠ []) (unbroken : ∀ a ∈ line, isBreak a = false)
    (ends : ∀ a ∈ rest.head?, isBreak a = true) :
    splitLines isBreak pair (line ++ rest) = line :: (splitLines isBreak pair rest).tail := by
  induction line with
  | nil => exact absurd rfl some_text
  | cons a line ih =>
    have inside := unbroken a List.mem_cons_self
    have single : (line ++ rest).head?.any (pair a) = false := by
      rw [Option.any_eq_false]
      intro b _
      by_contra paired
      exact absurd (firsts a b (by simpa using paired)) (by simp [inside])
    rw [List.cons_append, splitLines, single, inside]
    cases line with
    | nil =>
      cases rest with
      | nil => rfl
      | cons b rest =>
        obtain ⟨lines, first⟩ := splitLines_break seconds (ends b rfl) rest
        rw [List.nil_append, first]
        rfl
    | cons b line =>
      rw [ih (by simp) fun c there => unbroken c (List.mem_cons_of_mem a there)]
      rfl

end DroidOs.Lib.TextLines
