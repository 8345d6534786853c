/- GID: DroidOs/Lib/Regex
   generality: G
   digest: Backtracking regular expressions with captures, by the list of their matches in order. -/

import Mathlib.Computability.Language

set_option autoImplicit false
set_option relaxedAutoImplicit false

namespace DroidOs.Lib.Regex

/-- A place in a text, with the groups captured on the way there. -/
structure Cursor where
  before : List Char
  rest : List Char
  groups : List (List Char) := []

namespace Cursor

/-- The place behind some text. -/
def past (c : Cursor) (taken rest : List Char) : Cursor :=
  { c with before := taken.reverse ++ c.before, rest := rest }

theorem past_past (c : Cursor) (first second mid rest : List Char) :
    (c.past first mid).past second rest = c.past (first ++ second) rest := by
  simp [past]

end Cursor

inductive Pattern
  | empty
  | char (c : Char)
  /-- Any character but a line feed. -/
  | dot
  | boundary
  | seq (r s : Pattern)
  | alt (r s : Pattern)
  | star (greedy : Bool) (r : Pattern)
  | group (r : Pattern)

namespace Pattern

/-- The text of a literal. -/
def literal (s : String) : Pattern := s.toList.foldr (fun c r => .seq (.char c) r) .empty

def anyOf : List Pattern → Pattern
  | [] => .empty
  | [r] => r
  | r :: rs => .alt r (anyOf rs)

def oneOf (words : List String) : Pattern := anyOf (words.map literal)

def sequence (rs : List Pattern) : Pattern := rs.foldr .seq .empty

def optional (r : Pattern) : Pattern := .alt r .empty

def plus (greedy : Bool) (r : Pattern) : Pattern := .seq r (.star greedy r)

variable (isWord : Char → Bool) (same : Char → Char → Bool)

def atBoundary (at_ : Cursor) : Bool :=
  let inside := fun chars : List Char => (chars.head?.map isWord).getD false
  inside at_.before != inside at_.rest

/-- Repeat a matcher, trying once more first when greedy; an empty round ends it. -/
def repeats (greedy : Bool) (match_ : Cursor → List Cursor) : Nat → Cursor → List Cursor
  | 0, at_ => [at_]
  | fuel + 1, at_ =>
    let more := ((match_ at_).filter fun c => c.rest.length < at_.rest.length).flatMap
      (repeats greedy match_ fuel)
    if greedy then more ++ [at_] else at_ :: more

/-- The matches from a place on, in the order in which they are tried. -/
def run : Pattern → Cursor → List Cursor
  | .empty, at_ => [at_]
  | .char c, at_ => match at_.rest with
    | d :: rest =>
      if same c d then [{ at_ with before := d :: at_.before, rest := rest }] else []
    | [] => []
  | .dot, at_ => match at_.rest with
    | d :: rest =>
      if d = '\n' then [] else [{ at_ with before := d :: at_.before, rest := rest }]
    | [] => []
  | .boundary, at_ => if atBoundary isWord at_ then [at_] else []
  | .seq r s, at_ => (run r at_).flatMap (run s)
  | .alt r s, at_ => run r at_ ++ run s at_
  | .star greedy r, at_ => repeats greedy (run r) at_.rest.length at_
  | .group r, at_ => (run r { at_ with groups := [] }).map fun c =>
      let taken := (c.before.take (c.before.length - at_.before.length)).reverse
      { c with groups := at_.groups ++ taken :: c.groups }

/-- Every place of a text from a given one on. -/
def places : List Char → List Char → List Cursor
  | before, [] => [{ before := before, rest := [] }]
  | before, c :: rest => { before := before, rest := c :: rest } :: places (c :: before) rest

/-- The groups of the first match at the start of a text. -/
def matchStart (r : Pattern) (s : String) : Option (List String) :=
  ((run isWord same r { before := [], rest := s.toList }).head?).map fun c =>
    c.groups.map String.ofList

/-- The groups of the first match anywhere in a text. -/
def search (r : Pattern) (s : String) : Option (List String) :=
  (((places [] s.toList).flatMap (run isWord same r)).head?).map fun c =>
    c.groups.map String.ofList

/-- Whether some match takes the whole text. -/
def fullMatch (r : Pattern) (s : String) : Bool :=
  (run isWord same r { before := [], rest := s.toList }).any fun c => c.rest.isEmpty

/-- What is left from a place on without the matches that take something, from left to right. -/
def leavings (r : Pattern) : Nat → Cursor → List Char
  | 0, at_ => at_.rest
  | fuel + 1, at_ =>
    match (run isWord same r at_).find? fun c => c.rest.length < at_.rest.length with
    | some taken => leavings r fuel { taken with groups := [] }
    | none => match at_.rest with
      | [] => []
      | c :: rest => c :: leavings r fuel { before := c :: at_.before, rest := rest }

/-- The text without the matches of a pattern. -/
def remove (r : Pattern) (s : String) : String :=
  String.ofList (leavings isWord same r s.toList.length { before := [], rest := s.toList })

/-! What a pattern takes. -/

variable {isWord same} {c d : Cursor} {r s : Pattern}

theorem mem_run_seq : d ∈ run isWord same (.seq r s) c ↔
    ∃ mid ∈ run isWord same r c, d ∈ run isWord same s mid := by
  simp [run]

theorem mem_run_alt : d ∈ run isWord same (.alt r s) c ↔
    d ∈ run isWord same r c ∨ d ∈ run isWord same s c := by
  simp [run]

theorem mem_run_boundary : d ∈ run isWord same .boundary c ↔ atBoundary isWord c = true ∧ d = c := by
  simp [run, List.mem_ite_nil_right]

/-- Letter for letter, a pattern takes the texts of a language, whatever stands around them. -/
def Spells (isWord : Char → Bool) (r : Pattern) (texts : Language Char) : Prop :=
  ∀ c d, d ∈ run isWord (fun c d => c = d) r c ↔
    ∃ taken ∈ texts, ∃ rest, c.rest = taken ++ rest ∧ d = c.past taken rest

variable {L M : Language Char}

theorem spells_empty : Spells isWord .empty 1 := by
  intro c d
  constructor
  · intro taken
    refine ⟨[], rfl, c.rest, rfl, ?_⟩
    simpa [run, Cursor.past] using taken
  · rintro ⟨taken, nothing, rest, split, rfl⟩
    obtain rfl : taken = [] := nothing
    simp [run, Cursor.past, show rest = c.rest from split.symm]

theorem spells_char (letter : Char) : Spells isWord (.char letter) {[letter]} := by
  intro c d
  constructor
  · intro taken
    rcases cut : c.rest with _ | ⟨first, rest⟩
    · simp [run, cut] at taken
    · by_cases found : letter = first
      · subst found
        exact ⟨[letter], rfl, rest, rfl, by simpa [run, cut, Cursor.past] using taken⟩
      · simp [run, cut, found] at taken
  · rintro ⟨taken, single, rest, split, rfl⟩
    obtain rfl : taken = [letter] := single
    simp [run, split, Cursor.past]

theorem Spells.seq (first : Spells isWord r L) (second : Spells isWord s M) :
    Spells isWord (.seq r s) (L * M) := by
  intro c d
  rw [mem_run_seq]
  constructor
  · rintro ⟨mid, taken, next⟩
    obtain ⟨u, inside, after, cut, rfl⟩ := (first c mid).mp taken
    obtain ⟨v, inside', rest, cut', rfl⟩ := (second _ d).mp next
    refine ⟨u ++ v, Language.append_mem_mul inside inside', rest, ?_, c.past_past u v after rest⟩
    rw [cut, List.append_assoc, ← cut']
    rfl
  · rintro ⟨taken, product, rest, cut, rfl⟩
    obtain ⟨u, inside, v, inside', rfl⟩ := Language.mem_mul.mp product
    rw [List.append_assoc] at cut
    refine ⟨c.past u (v ++ rest), (first c _).mpr ⟨u, inside, v ++ rest, cut, rfl⟩, ?_⟩
    exact (second _ _).mpr ⟨v, inside', rest, rfl, (c.past_past u v _ rest).symm⟩

theorem Spells.alt (first : Spells isWord r L) (second : Spells isWord s M) :
    Spells isWord (.alt r s) (L + M) := by
  intro c d
  rw [mem_run_alt, first c d, second c d]
  simp only [Language.mem_add, or_and_right, exists_or]

theorem spells_literal (w : String) : Spells isWord (literal w) {w.toList} := by
  unfold literal
  induction w.toList with
  | nil => exact spells_empty
  | cons letter letters ih =>
    have both := (spells_char letter).seq ih
    rwa [show ({[letter]} : Language Char) * {letters} = {letter :: letters} from
      Set.image2_singleton] at both

theorem spells_optional (spells : Spells isWord r L) : Spells isWord (optional r) (L + 1) :=
  spells.alt spells_empty

/-! Searching. -/

theorem mem_places {before rest : List Char} :
    c ∈ places before rest ↔ ∃ skipped after, rest = skipped ++ after ∧
      c = { before := skipped.reverse ++ before, rest := after } := by
  induction rest generalizing before with
  | nil =>
    rw [places, List.mem_singleton]
    constructor
    · rintro rfl
      exact ⟨[], [], rfl, rfl⟩
    · rintro ⟨skipped, after, cut, rfl⟩
      obtain ⟨rfl, rfl⟩ := List.append_eq_nil_iff.mp cut.symm
      rfl
  | cons letter rest ih =>
    rw [places, List.mem_cons, ih]
    constructor
    · rintro (rfl | ⟨skipped, after, rfl, rfl⟩)
      · exact ⟨[], letter :: rest, rfl, rfl⟩
      · exact ⟨letter :: skipped, after, rfl, by simp⟩
    · rintro ⟨skipped, after, cut, rfl⟩
      rcases skipped with _ | ⟨first, skipped⟩
      · left
        rw [show after = letter :: rest from cut.symm]
        rfl
      · obtain ⟨rfl, rfl⟩ := List.cons.inj cut
        exact .inr ⟨skipped, after, rfl, by simp⟩

theorem search_isSome {t : String} : (search isWord same r t).isSome = true ↔
    ∃ c ∈ places [] t.toList, ∃ d, d ∈ run isWord same r c := by
  rw [search, Option.isSome_map, List.isSome_head?]
  constructor
  · intro some_match
    obtain ⟨d, found⟩ := List.exists_mem_of_ne_nil _ some_match
    obtain ⟨c, place, taken⟩ := List.mem_flatMap.mp found
    exact ⟨c, place, d, taken⟩
  · rintro ⟨c, place, d, taken⟩
    exact List.ne_nil_of_mem (List.mem_flatMap.mpr ⟨c, place, taken⟩)

/-- The character at one end of a text is a word character. -/
def wordChar (isWord : Char → Bool) (c : Option Char) : Bool := (c.map isWord).getD false

/-- A word stands in a text: no word character is next to it. -/
def StandsIn (isWord : Char → Bool) (w t : List Char) : Prop :=
  ∃ before after, t = before ++ w ++ after ∧
    wordChar isWord before.getLast? = false ∧ wordChar isWord after.head? = false

private theorem atBoundary_between {before after : List Char} :
    atBoundary isWord { before := before.reverse, rest := after } = true ↔
      wordChar isWord before.getLast? ≠ wordChar isWord after.head? := by
  simp [atBoundary, wordChar]

private theorem mem_run_bounded : d ∈ run isWord same (sequence [.boundary, r, .boundary]) c ↔
    atBoundary isWord c = true ∧ d ∈ run isWord same r c ∧ atBoundary isWord d = true := by
  show d ∈ run isWord same (.seq .boundary (.seq r (.seq .boundary .empty))) c ↔ _
  simp only [mem_run_seq, mem_run_boundary]
  constructor
  · rintro ⟨_, ⟨opens, rfl⟩, _, taken, _, ⟨closes, rfl⟩, rest⟩
    obtain rfl := List.mem_singleton.mp rest
    exact ⟨opens, taken, closes⟩
  · rintro ⟨opens, taken, closes⟩
    exact ⟨c, ⟨opens, rfl⟩, d, taken, d, ⟨closes, rfl⟩, by simp [run]⟩

/-- `\b…\b` around words finds the words that stand in a text. -/
theorem search_bounded (spells : Spells isWord r L)
    (starts : ∀ w ∈ L, wordChar isWord w.head? = true)
    (ends : ∀ w ∈ L, wordChar isWord w.getLast? = true) {t : String} :
    (search isWord (fun c d => c = d) (sequence [.boundary, r, .boundary]) t).isSome = true ↔
      ∃ w ∈ L, StandsIn isWord w t.toList := by
  have first : ∀ w ∈ L, ∀ after, wordChar isWord (w ++ after).head? = true := by
    intro w inside after
    have starts := starts w inside
    rcases w with _ | ⟨letter, letters⟩
    · cases starts
    · exact starts
  have last : ∀ w ∈ L, ∀ before, wordChar isWord (before ++ w).getLast? = true := by
    intro w inside before
    have ends := ends w inside
    rw [List.getLast?_append]
    cases end_ : w.getLast? with
    | none => rw [end_] at ends; cases ends
    | some letter => rwa [end_] at ends
  have opens : ∀ w ∈ L, ∀ before after : List Char,
      atBoundary isWord { before := before.reverse, rest := w ++ after } = true ↔
        wordChar isWord before.getLast? = false := by
    intro w inside before after
    rw [atBoundary_between, first w inside after, ne_eq, Bool.not_eq_true]
  have closes : ∀ w ∈ L, ∀ before after : List Char,
      atBoundary isWord { before := (before ++ w).reverse, rest := after } = true ↔
        wordChar isWord after.head? = false := by
    intro w inside before after
    rw [atBoundary_between, last w inside before, ne_comm, ne_eq, Bool.not_eq_true]
  rw [search_isSome]
  constructor
  · rintro ⟨c, place, d, taken⟩
    obtain ⟨skipped, after, cut, rfl⟩ := mem_places.mp place
    obtain ⟨opening, taken, closing⟩ := mem_run_bounded.mp taken
    obtain ⟨w, inside, rest, split, rfl⟩ := (spells _ d).mp taken
    obtain rfl : after = w ++ rest := split
    simp only [Cursor.past, List.append_nil, ← List.reverse_append] at opening closing
    refine ⟨w, inside, skipped, rest, ?_, (opens w inside skipped rest).mp opening,
      (closes w inside skipped rest).mp closing⟩
    rw [cut, List.append_assoc]
  · rintro ⟨w, inside, before, after, cut, opening, closing⟩
    refine ⟨{ before := before.reverse, rest := w ++ after }, mem_places.mpr
      ⟨before, w ++ after, by rw [cut, List.append_assoc], by rw [List.append_nil]⟩, _,
      mem_run_bounded.mpr ⟨(opens w inside before after).mpr opening,
        (spells _ _).mpr ⟨w, inside, after, rfl, rfl⟩, ?_⟩⟩
    have closing := (closes w inside before after).mpr closing
    rwa [List.reverse_append] at closing

end Pattern

end DroidOs.Lib.Regex
