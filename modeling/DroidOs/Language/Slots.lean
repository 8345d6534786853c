/- GID: DroidOs/Language/Slots
   generality: I
   source: src/droidos/language/offline_parser.py
   digest: What the rules take as a slot, by the words that open it. -/

import DroidOs.Core.Words
import DroidOs.Language.Rules
import Mathlib.Data.List.DropRight
import Mathlib.Data.List.TakeWhile

set_option autoImplicit false
set_option relaxedAutoImplicit false

namespace DroidOs.Language.Slots

open DroidOs.Lib.Regex DroidOs.Lib.Regex.Pattern
open DroidOs.Core.Values DroidOs.Core.Values.PyText DroidOs.Core.Words
open OfflineParser Rules

/-! The patterns before their slots. -/

def forgetOpening : List Pattern := [please, literal "forget ", Pattern.optional (literal "about ")]

def rememberOpening : List Pattern := [please, literal "remember ", Pattern.optional (literal "that ")]

def inspectVerbs : List String := ["inspect", "look at", "check"]

def inspectThereOpening : List Pattern :=
  [oneOf ["go to", "navigate to", "walk to", "drive to"], .char ' ', the, slot false] ++
    [literal " and ", oneOf inspectVerbs, .char ' ', the]

def inspectOpening : List Pattern := [oneOf inspectVerbs, .char ' ', the]

def moveVerbs : List String := ["go", "navigate", "walk", "drive", "move", "proceed", "head"]

def directions : List String := [" to", " toward", " towards", " back to"]

def navigateOpening : List Pattern :=
  [please, oneOf moveVerbs, Pattern.optional (oneOf directions), .char ' ', the]

theorem forgetPattern_eq : forgetPattern = sequence (forgetOpening ++ [slot true]) := rfl
theorem rememberPattern_eq : rememberPattern = sequence (rememberOpening ++ [slot true]) := rfl
theorem goAndInspect_eq : goAndInspect = sequence (inspectThereOpening ++ [slot true]) := rfl
theorem inspectPattern_eq : inspectPattern = sequence (inspectOpening ++ [slot true]) := rfl
theorem navigatePattern_eq : navigatePattern = sequence (navigateOpening ++ [slot true]) := rfl

variable {text : PyText}

/-- Where the words that open a slot end, if they stand at the beginning. -/
def atStart (text : PyText) (opening : List Pattern) (t : List Char) : List Cursor :=
  run text.isWord (fun c d => c = d) (sequence opening) { before := [], rest := t }

/-- Where they end, wherever they stand. -/
def within (text : PyText) (opening : List Pattern) (t : List Char) : List Cursor :=
  found text.isWord (fun c d => c = d) (sequence opening) t

/-- What a rule takes of a text, given the places at which its slot may begin. -/
def heard (matches_ : List Char → List Cursor) (t : String) : Option (List String) :=
  (((matches_ t.toList).filter Cursor.more).head?).map Cursor.slots

theorem start_heard (opening : List Pattern) {t : String} (line : '\n' ∉ t.toList) :
    start text (sequence (opening ++ [slot true])) t = heard (atStart text opening) t :=
  matchStart_slotted opening line

theorem find_heard (opening : List Pattern) {t : String} (line : '\n' ∉ t.toList) :
    find text (sequence (opening ++ [slot true])) t = heard (within text opening) t :=
  search_slotted opening line

/-! Opening words are plain. -/

/-- Small letters and blanks. -/
def Plainly (L : Language Char) : Prop := ∀ w ∈ L, ∀ c ∈ w, plain c = true

/-- Texts that end in a blank. -/
def Blankly (L : Language Char) : Prop := ∀ w ∈ L, w.getLast? = some ' '

variable {L M : Language Char}

theorem plainly_one : Plainly 1 := by
  rintro w nothing c inside
  obtain rfl : w = [] := nothing
  cases inside

theorem plainly_add (first : Plainly L) (second : Plainly M) : Plainly (L + M) := by
  rintro w (inside | inside)
  · exact first w inside
  · exact second w inside

theorem plainly_mul (first : Plainly L) (second : Plainly M) : Plainly (L * M) := by
  intro w inside c member
  obtain ⟨u, here, v, there, rfl⟩ := Language.mem_mul.mp inside
  rcases List.mem_append.mp member with left | right
  · exact first u here c left
  · exact second v there c right

theorem plainly_single {w : List Char} (letters : ∀ c ∈ w, plain c = true) : Plainly {w} := by
  rintro u same c inside
  obtain rfl : u = w := same
  exact letters c inside

theorem plainly_textsOf {ws : List String} (letters : ∀ w ∈ ws, ∀ c ∈ w.toList, plain c = true) :
    Plainly (textsOf ws) := by
  intro u inside c member
  obtain ⟨w, listed, rfl⟩ := mem_textsOf.mp inside
  exact letters w listed c member

theorem blankly_mul (second : Blankly M) : Blankly (L * M) := by
  intro w inside
  obtain ⟨u, -, v, there, rfl⟩ := Language.mem_mul.mp inside
  rw [List.getLast?_append, second v there]
  rfl

/-- A text that ends in the opening words of a slot: plain letters up to the blank at its end,
for at least five characters or from its beginning on. -/
def PlainTail (t : List Char) : Prop := ∃ front tail, t = front ++ tail ∧ (∀ c ∈ tail, plain c = true) ∧
  tail.getLast? = some ' ' ∧ (front = [] ∨ 5 ≤ tail.length)

/-- What a rule with a slot has to tell, by the places at which its slot may begin. -/
structure SlotRule (text : PyText) (captured : Nat) (matches_ : List Char → List Cursor) : Prop where
  grows : Grows text.isWord matches_
  tail : ∀ t, ∀ d ∈ matches_ t, d.rest = [] → PlainTail t
  suffix : ∀ t, ∀ d ∈ matches_ t, d.rest <:+ t
  groups : ∀ t, ∀ d ∈ matches_ t, d.groups.length = captured

private theorem slotRule_start {opening : List Pattern} (spells : Spells text.isWord (sequence opening) L)
    (plainly : Plainly L) (blankly : Blankly L) : SlotRule text 0 (atStart text opening) where
  grows := grows_run _
  tail := by
    intro t d taken nothing
    obtain ⟨w, inside, rest, cut, rfl⟩ := (spells _ d).mp taken
    obtain rfl : rest = [] := nothing
    rw [List.append_nil] at cut
    exact ⟨[], w, cut, plainly w inside, blankly w inside, .inl rfl⟩
  suffix := by
    intro t d taken
    obtain ⟨passed, cut, -⟩ := follows_run _ _ d taken
    exact ⟨passed, cut.symm⟩
  groups := fun t d taken => spells.captures _ d taken

theorem spells_please : Spells text.isWord please ({"please ".toList} + 1) := spells_optional (spells_literal _)

theorem spells_the : Spells text.isWord (sequence [.char ' ', the]) ({[' ']} * (({"the ".toList} + 1) * 1)) :=
  (spells_char ' ').seq ((spells_optional (spells_literal _)).seq spells_empty)

theorem plainly_the : Plainly ({[' ']} * (({"the ".toList} + 1) * 1)) :=
  plainly_mul (plainly_single (by decide))
    (plainly_mul (plainly_add (plainly_single (by decide)) plainly_one) plainly_one)

theorem blankly_the : Blankly ({[' ']} * (({"the ".toList} + 1) * 1)) := by
  intro w inside
  obtain ⟨_, rfl, v, there, rfl⟩ := Language.mem_mul.mp inside
  obtain ⟨_, rfl | rfl, _, rfl, rfl⟩ := Language.mem_mul.mp there
  all_goals rfl

theorem slotRule_forget : SlotRule text 0 (atStart text forgetOpening) := by
  have about : Spells text.isWord (sequence [literal "forget ", Pattern.optional (literal "about ")])
      ({"forget ".toList} * (({"about ".toList} + 1) * 1)) :=
    (spells_literal _).seq ((spells_optional (spells_literal _)).seq spells_empty)
  refine slotRule_start (spells_please.seq about) ?_ (blankly_mul ?_)
  · refine plainly_mul (plainly_add (plainly_single (by decide)) plainly_one) ?_
    exact plainly_mul (plainly_single (by decide))
      (plainly_mul (plainly_add (plainly_single (by decide)) plainly_one) plainly_one)
  · intro w inside
    obtain ⟨_, rfl, v, there, rfl⟩ := Language.mem_mul.mp inside
    obtain ⟨_, rfl | rfl, _, rfl, rfl⟩ := Language.mem_mul.mp there
    all_goals rfl

theorem slotRule_inspect : SlotRule text 0 (atStart text inspectOpening) :=
  slotRule_start ((spells_oneOf (by decide)).seq spells_the)
    (plainly_mul (plainly_textsOf (by decide)) plainly_the) (blankly_mul blankly_the)

theorem slotRule_navigate : SlotRule text 0 (atStart text navigateOpening) := by
  have verbs : Spells text.isWord (oneOf moveVerbs) (textsOf moveVerbs) := spells_oneOf (by decide)
  have toward : Spells text.isWord (Pattern.optional (oneOf directions)) (textsOf directions + 1) :=
    spells_optional (spells_oneOf (by decide))
  refine slotRule_start (spells_please.seq (verbs.seq (toward.seq spells_the))) ?_
    (blankly_mul (blankly_mul (blankly_mul blankly_the)))
  refine plainly_mul (plainly_add (plainly_single (by decide)) plainly_one) ?_
  refine plainly_mul (plainly_textsOf (by decide)) ?_
  exact plainly_mul (plainly_add (plainly_textsOf (by decide)) plainly_one) plainly_the

private theorem captures_inspectThere :
    Captures text.isWord (fun c d => c = d) 1 (sequence inspectThereOpening) := by
  have target : Spells text.isWord (sequence [literal " and ", oneOf inspectVerbs, .char ' ', the])
      ({" and ".toList} * (textsOf inspectVerbs * ({[' ']} * (({"the ".toList} + 1) * 1)))) :=
    (spells_literal _).seq ((spells_oneOf (by decide)).seq spells_the)
  have place : Captures text.isWord (fun c d => c = d) 1 (slot false) :=
    (captures_dot.seq (captures_dot.star false)).group
  have toward : Spells text.isWord (oneOf ["go to", "navigate to", "walk to", "drive to"])
      (textsOf ["go to", "navigate to", "walk to", "drive to"]) := spells_oneOf (by decide)
  have article : Spells text.isWord the ({"the ".toList} + 1) := spells_optional (spells_literal _)
  exact toward.captures.seq ((spells_char ' ').captures.seq (article.captures.seq (place.seq target.captures)))

theorem slotRule_inspectThere : SlotRule text 1 (within text inspectThereOpening) where
  grows := grows_found _
  tail := by
    intro t d taken nothing
    obtain ⟨c, place, taken⟩ := List.mem_flatMap.mp taken
    obtain ⟨skipped, after, cut, rfl⟩ := mem_places.mp place
    rw [inspectThereOpening, run_sequence_append] at taken
    obtain ⟨mid, first, taken⟩ := List.mem_flatMap.mp taken
    obtain ⟨passed, before, -⟩ := follows_run _ _ mid first
    have target : Spells text.isWord (sequence [literal " and ", oneOf inspectVerbs, .char ' ', the])
        ({" and ".toList} * (textsOf inspectVerbs * ({[' ']} * (({"the ".toList} + 1) * 1)))) :=
      (spells_literal _).seq ((spells_oneOf (by decide)).seq spells_the)
    obtain ⟨w, inside, rest, split, rfl⟩ := (target mid d).mp taken
    obtain rfl : rest = [] := nothing
    rw [List.append_nil] at split
    have plainly : Plainly ({" and ".toList} * (textsOf inspectVerbs * ({[' ']} * (({"the ".toList} + 1) * 1)))) :=
      plainly_mul (plainly_single (by decide)) (plainly_mul (plainly_textsOf (by decide)) plainly_the)
    have blankly : Blankly ({" and ".toList} * (textsOf inspectVerbs * ({[' ']} * (({"the ".toList} + 1) * 1)))) :=
      blankly_mul (blankly_mul blankly_the)
    refine ⟨skipped ++ passed, w, ?_, plainly w inside, blankly w inside, .inr ?_⟩
    · rw [cut, show after = passed ++ mid.rest from before, split, List.append_assoc]
    · obtain ⟨_, rfl, _, -, rfl⟩ := Language.mem_mul.mp inside
      rw [List.length_append]
      exact Nat.le_add_right 5 _
  suffix := by
    intro t d taken
    obtain ⟨c, place, taken⟩ := List.mem_flatMap.mp taken
    obtain ⟨skipped, after, cut, rfl⟩ := mem_places.mp place
    obtain ⟨passed, rest, -⟩ := follows_run _ _ d taken
    refine ⟨skipped ++ passed, ?_⟩
    rw [cut, show after = passed ++ d.rest from rest, List.append_assoc]
  groups := by
    intro t d taken
    obtain ⟨c, place, taken⟩ := List.mem_flatMap.mp taken
    obtain ⟨skipped, after, -, rfl⟩ := mem_places.mp place
    exact captures_inspectThere _ d taken

/-! Cleaning. -/

private theorem dropWhile_last {cs : List Char} {p : Char → Bool} {last : Char} (ends : cs.getLast? = some last)
    (kept : p last = false) : (cs.dropWhile p).getLast? = some last := by
  have whole := List.takeWhile_append_dropWhile (p := p) (l := cs)
  rcases rest : cs.dropWhile p with _ | ⟨c, rest'⟩
  · rw [rest, List.append_nil] at whole
    have inside : last ∈ cs.takeWhile p := by
      rw [whole]
      exact List.mem_of_getLast? ends
    have taken := List.all_eq_true.mp List.all_takeWhile last inside
    rw [kept] at taken
    cases taken
  · rw [← whole, rest, List.getLast?_append_of_ne_nil _ (List.cons_ne_nil c rest')] at ends
    exact ends

private theorem reverse_dropWhile_reverse {cs : List Char} {p : Char → Bool} {last : Char}
    (ends : cs.getLast? = some last) (kept : p last = false) : (cs.reverse.dropWhile p).reverse = cs := by
  rcases back : cs.reverse with _ | ⟨c, rest⟩
  · rw [List.reverse_eq_nil_iff.mp back] at ends
    cases ends
  · have first := congrArg List.head? back
    rw [List.head?_reverse, ends] at first
    obtain rfl := Option.some.inj first
    rw [List.dropWhile_cons_of_neg (by simp [kept]), ← back, List.reverse_reverse]

/-- The characters that end a slot only for its sentence. -/
def closers : List Char := " .?!,".toList

/-- Marks behind a slot are cleaned off with it. -/
theorem clean_marked {cs : List Char} {last : Char} (ends : cs.getLast? = some last)
    (visible : text.isSpace last = false) {tail : List Char} (closing : ∀ c ∈ tail, c ∈ closers)
    {mark : Char} (marked : tail.getLast? = some mark) (mark_visible : text.isSpace mark = false) :
    clean text (String.ofList (cs ++ tail)) = clean text (String.ofList cs) := by
  have last' := dropWhile_last ends visible
  have some_word : (cs.dropWhile text.isSpace).isEmpty = false := by
    cases rest : cs.dropWhile text.isSpace with
    | nil =>
      rw [rest] at last'
      cases last'
    | cons => rfl
  have edge : (cs.dropWhile text.isSpace ++ tail).getLast? = some mark := by
    rw [List.getLast?_append, marked]
    rfl
  have longer : text.strip (String.ofList (cs ++ tail)) = String.ofList (cs.dropWhile text.isSpace ++ tail) := by
    rw [PyText.strip, String.toList_ofList, List.dropWhile_append, if_neg (by rw [some_word]; exact Bool.false_ne_true),
      reverse_dropWhile_reverse edge mark_visible]
  have shorter : text.strip (String.ofList cs) = String.ofList (cs.dropWhile text.isSpace) := by
    rw [PyText.strip, String.toList_ofList, reverse_dropWhile_reverse last' visible]
  have gone : tail.reverse.dropWhile (fun c => decide (c ∈ " .?!,".toList)) = [] := by
    refine List.dropWhile_eq_nil_iff.mpr fun c inside => ?_
    exact decide_eq_true (closing c (List.mem_reverse.mp inside))
  have cut : rstrip " .?!," (String.ofList (cs.dropWhile text.isSpace ++ tail)) =
      rstrip " .?!," (String.ofList (cs.dropWhile text.isSpace)) := by
    simp only [rstrip, String.toList_ofList, List.reverse_append, List.dropWhile_append, gone, List.isEmpty_nil,
      if_true]
  rw [clean, clean, longer, shorter, cut]

/-- A slot that ends in a letter is cleaned of the blanks at its beginning and its article only. -/
theorem clean_word {cs : List Char} {last : Char} (ends : cs.getLast? = some last)
    (visible : text.isSpace last = false) (letter : last ∉ closers) :
    clean text (String.ofList cs) =
      dropArticle text (String.ofList (cs.dropWhile text.isSpace)) ["the ", "a ", "an "] := by
  have last' := dropWhile_last ends visible
  have first : text.strip (String.ofList cs) = String.ofList (cs.dropWhile text.isSpace) := by
    rw [PyText.strip, String.toList_ofList, reverse_dropWhile_reverse last' visible]
  have second : rstrip " .?!," (String.ofList (cs.dropWhile text.isSpace)) =
      String.ofList (cs.dropWhile text.isSpace) := by
    rw [rstrip, String.toList_ofList (l := cs.dropWhile text.isSpace),
      reverse_dropWhile_reverse last' (decide_eq_false letter)]
  have third : text.strip (String.ofList (cs.dropWhile text.isSpace)) = String.ofList (cs.dropWhile text.isSpace) := by
    rw [PyText.strip, String.toList_ofList, List.dropWhile_idempotent, reverse_dropWhile_reverse last' visible]
  rw [clean, first, second, third]

/-- A mark alone is no slot. -/
theorem clean_mark {mark : Char} (visible : text.isSpace mark = false) (closing : mark ∈ closers)
    (blankless : text.lower "" = "") : clean text (String.ofList [mark]) = "" := by
  have first : text.strip (String.ofList [mark]) = String.ofList [mark] := by
    simp [PyText.strip, visible]
  have second : rstrip " .?!," (String.ofList [mark]) = "" := by
    have gone : mark ∈ " .?!,".toList := closing
    rw [rstrip, String.toList_ofList (l := [mark]), List.reverse_singleton,
      List.dropWhile_cons_of_pos (p := fun c => decide (c ∈ " .?!,".toList)) (decide_eq_true gone)]
    rfl
  rw [clean, first, second]
  simp only [dropArticle]
  rw [show text.strip "" = "" from rfl, blankless]
  rfl

/-! What a mark changes in a slot. -/

/-- A text with single blanks that does not end in one. -/
structure Sentence (text : PyText) (n : List Char) : Prop where
  single : ∀ c ∈ n, c = ' ' ∨ text.isSpace c = false
  closed : n.getLast? ≠ some ' '

private theorem Sentence.last {n : List Char} (sentence : Sentence text n) {rest : List Char} (part : rest <:+ n)
    (some_left : rest ≠ []) : ∃ last, rest.getLast? = some last ∧ n.getLast? = some last ∧ text.isSpace last = false := by
  obtain ⟨front, rfl⟩ := part
  refine ⟨rest.getLast some_left, List.getLast?_eq_getLast_of_ne_nil some_left, ?_, ?_⟩
  · rw [List.getLast?_append_of_ne_nil _ some_left, List.getLast?_eq_getLast_of_ne_nil some_left]
  · have inside := List.mem_append_right front (List.getLast_mem some_left)
    rcases sentence.single _ inside with blank | visible
    · refine absurd ?_ sentence.closed
      rw [List.getLast?_append_of_ne_nil _ some_left, List.getLast?_eq_getLast_of_ne_nil some_left, blank]
    · exact visible

private theorem groupAt_last (groups : List (List Char)) (r : List Char) :
    groupAt ((groups ++ [r]).map String.ofList) groups.length = String.ofList r := by
  rw [groupAt, List.getD_eq_getElem?_getD, List.map_append, List.getElem?_append_right (by simp)]
  simp

private theorem clean_groupAt {r r' : List Char} (same : clean text (String.ofList r') = clean text (String.ofList r))
    (groups : List (List Char)) (k : Nat) : clean text (groupAt ((groups ++ [r']).map String.ofList) k) =
      clean text (groupAt ((groups ++ [r]).map String.ofList) k) := by
  induction groups generalizing k with
  | nil =>
    cases k with
    | zero => exact same
    | succ k => rfl
  | cons g groups ih =>
    cases k with
    | zero => rfl
    | succ k => exact ih k

private theorem head_filter {places : List Cursor} {d : Cursor} (first : places.head? = some d)
    (left : d.more = true) : (places.filter Cursor.more).head? = some d := by
  rcases places with _ | ⟨e, others⟩
  · cases first
  · obtain rfl := Option.some.inj first
    rw [List.filter_cons_of_pos left, List.head?_cons]

section

variable {captured : Nat} {matches_ : List Char → List Cursor} (rule : SlotRule text captured matches_)
  {t t' : String} {u : List Char} {m : Char} {d : Cursor} (outside : text.isWord m = false)
  (marked : t'.toList = u ++ [m])
include rule outside marked

private theorem SlotRule.heard_marked : heard matches_ t' = (matches_ u).head?.map fun d => (d.longer m).slots := by
  rw [heard, marked, head_marked rule.grows outside, Option.map_map]
  rfl

/-- Where the opening words do not stand in the text, they do not stand in it with the mark. -/
theorem SlotRule.passed (laws : text.Lawful) (ends : u = t.toList ∨ u = t.toList ++ [' '])
    (none_ : matches_ u = []) : heard matches_ t = none ∧ heard matches_ t' = none := by
  refine ⟨?_, by rw [rule.heard_marked outside marked, none_]; rfl⟩
  have nothing : matches_ t.toList = [] := by
    rcases ends with rfl | rfl
    · exact none_
    · have grown := rule.grows t.toList ' ' (laws.marks ' ' List.mem_cons_self)
      rw [none_] at grown
      exact List.map_eq_nil_iff.mp grown.symm
  rw [heard, nothing]
  rfl

variable (visible : text.isSpace m = false) (closing : m ∈ closers)
include visible closing

/-- Where the slot would begin at the end of the text, the mark becomes the slot. -/
theorem SlotRule.broken (blankless : text.lower "" = "") (first : (matches_ u).head? = some d) (nothing : d.rest = []) :
    ∃ groups, heard matches_ t' = some groups ∧ clean text (groupAt groups captured) = "" := by
  refine ⟨(d.longer m).slots, by rw [rule.heard_marked outside marked, first, Option.map_some], ?_⟩
  have count := rule.groups u d (List.mem_of_head? first)
  have slot : groupAt (d.longer m).slots captured = String.ofList [m] := by
    rw [Cursor.slots, ← count, Cursor.longer_rest, nothing]
    exact groupAt_last d.groups [m]
  rw [slot, clean_mark visible closing blankless]

variable (laws : text.Lawful) (sentence : Sentence text t.toList) (ends : u = t.toList ∨ u = t.toList ++ [' '])
include laws ends sentence

/-- Where something is left for the slot, the slot is the same with the mark. -/
theorem SlotRule.kept (first : (matches_ u).head? = some d) (left : d.more = true) :
    ∃ groups groups', heard matches_ t = some groups ∧ heard matches_ t' = some groups' ∧
      ∀ k, clean text (groupAt groups' k) = clean text (groupAt groups k) := by
  have longer : heard matches_ t' = some (d.longer m).slots := by
    rw [rule.heard_marked outside marked, first, Option.map_some]
  have here : ∃ e tail, heard matches_ t = some e.slots ∧ e ∈ matches_ t.toList ∧ e.rest ≠ [] ∧
      (d.longer m).slots = (e.groups ++ [e.rest ++ tail]).map String.ofList ∧ (∀ c ∈ tail, c ∈ closers) ∧
        tail.getLast? = some m := by
    rcases ends with rfl | rfl
    · refine ⟨d, [m], ?_, List.mem_of_head? first, ?_, rfl, ?_, rfl⟩
      · rw [heard, head_filter first left, Option.map_some]
      · intro nothing
        rw [Cursor.more_eq_false.mpr nothing] at left
        cases left
      · intro c inside
        rwa [List.mem_singleton.mp inside]
    · have tails : ∀ t, ∀ d ∈ matches_ t, d.rest = [] → t.getLast? = some ' ' := by
        intro t d taken nothing
        obtain ⟨front, tail, rfl, -, last, -⟩ := rule.tail t d taken nothing
        rw [List.getLast?_append, last]
        rfl
      obtain ⟨e, found, rfl⟩ := head_of_longer tails rule.grows (laws.marks ' ' List.mem_cons_self)
        sentence.closed first left
      have kept := List.mem_filter.mp (List.mem_of_head? found)
      refine ⟨e, [' ', m], by rw [heard, found, Option.map_some], kept.1, ?_, ?_, ?_, rfl⟩
      · intro nothing
        rw [Cursor.more_eq_false.mpr nothing] at kept
        cases kept.2
      · simp [Cursor.slots]
      · intro c inside
        simp only [List.mem_cons, List.not_mem_nil, or_false] at inside
        rcases inside with rfl | rfl
        · decide
        · exact closing
  obtain ⟨e, tail, found, taken, some_left, slots, closers_, last⟩ := here
  refine ⟨e.slots, _, found, longer, fun k => ?_⟩
  obtain ⟨letter, ends_letter, -, letter_visible⟩ := sentence.last (rule.suffix _ e taken) some_left
  rw [slots]
  exact clean_groupAt (clean_marked ends_letter letter_visible closers_ last visible) e.groups k

end

/-! Slots behind opening words that the text itself ends in. -/

private theorem dropArticle_ne_nil {s : String} {articles : List String}
    (longer : ∀ article ∈ articles, article.toList <+: (text.lower s).toList → article.length < s.length)
    (some_left : s ≠ "") : dropArticle text s articles ≠ "" := by
  induction articles with
  | nil => exact some_left
  | cons article articles ih =>
    rw [dropArticle]
    split
    case isTrue first =>
      have length := longer article List.mem_cons_self (List.isPrefixOf_iff_prefix.mp first)
      intro nothing
      have gone := congrArg String.toList nothing
      rw [String.toList_ofList, show ("" : String).toList = [] from rfl, List.drop_eq_nil_iff, String.length_toList] at gone
      omega
    case isFalse => exact ih fun other inside => longer other (List.mem_cons_of_mem article inside)

private theorem PlainTail.suffix {n rest : List Char} (tail : PlainTail (n ++ [' '])) (part : rest <:+ n)
    (short : rest.length ≤ 4) : ∀ c ∈ rest, plain c = true := by
  obtain ⟨front, letters, cut, plainly, last, long⟩ := tail
  obtain ⟨letters, rfl⟩ : ∃ before, letters = before ++ [' '] := by
    rcases List.eq_nil_or_concat letters with rfl | ⟨before, c, rfl⟩
    · cases last
    · rw [List.concat_eq_append, List.getLast?_concat] at last
      obtain rfl := Option.some.inj last
      exact ⟨before, List.concat_eq_append⟩
  rw [← List.append_assoc] at cut
  obtain rfl := (List.append_inj' cut rfl).1
  have inside : rest <:+ letters := by
    rcases long with rfl | long
    · exact part
    · refine List.suffix_of_suffix_length_le part (List.suffix_append front letters) ?_
      rw [List.length_append, List.length_singleton] at long
      omega
  intro c member
  exact plainly c (List.mem_append_left _ (inside.subset member))

/-- A text that ends in opening words, but for the blank behind them, has a word for every slot. -/
theorem SlotRule.slot_ne_nil {captured : Nat} {matches_ : List Char → List Cursor}
    (rule : SlotRule text captured matches_) (laws : text.Lawful) {t : String} (sentence : Sentence text t.toList)
    (tail : PlainTail (t.toList ++ [' '])) {groups : List String} (found : heard matches_ t = some groups) :
    clean text (groupAt groups captured) ≠ "" := by
  obtain ⟨e, first, rfl⟩ := Option.map_eq_some_iff.mp found
  obtain ⟨taken, left⟩ := List.mem_filter.mp (List.mem_of_head? first)
  have some_left : e.rest ≠ [] := by
    intro nothing
    rw [Cursor.more_eq_false.mpr nothing] at left
    cases left
  have part := rule.suffix _ e taken
  obtain ⟨last, ends, ends_text, visible⟩ := sentence.last part some_left
  have letter : last ∉ closers := by
    have small : plain last = true := by
      have single : [last] <:+ t.toList := by
        rw [← List.dropLast_append_getLast? last ends_text]
        exact List.suffix_append _ _
      exact tail.suffix single (by simp) last List.mem_cons_self
    have capital : ∀ c ∈ closers, c ≠ ' ' → plain c = false := by decide
    intro inside
    have blank : last ≠ ' ' := by
      rintro rfl
      rw [laws.blank] at visible
      cases visible
    rw [capital last inside blank] at small
    cases small
  have slot : groupAt e.slots captured = String.ofList e.rest := by
    rw [Cursor.slots, ← rule.groups _ e taken]
    exact groupAt_last e.groups e.rest
  rw [slot, clean_word ends visible letter]
  have last' := dropWhile_last ends visible
  have part' : e.rest.dropWhile text.isSpace <:+ t.toList := (List.dropWhile_suffix _).trans part
  refine dropArticle_ne_nil ?_ ?_
  · intro article listed begins
    have short : ∀ article ∈ ["the ", "a ", "an "], article.length ≤ 4 ∧ article.toList.getLast? = some ' ' := by decide
    obtain ⟨four, blank⟩ := short article listed
    by_contra longer
    rw [String.length_ofList] at longer
    have length : (e.rest.dropWhile text.isSpace).length ≤ 4 := by omega
    have plainly := tail.suffix part' length
    rw [laws.lower_plain _ (by rwa [String.toList_ofList]), String.toList_ofList] at begins
    have same := begins.eq_of_length_le (by rw [String.length_toList]; omega)
    rw [← same, blank] at last'
    obtain rfl := Option.some.inj last'
    rw [laws.blank] at visible
    cases visible
  · intro nothing
    rw [String.ofList_eq_empty_iff.mp nothing] at last'
    cases last'

end DroidOs.Language.Slots
