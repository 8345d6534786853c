/- GID: DroidOs/Core/Words
   generality: I
   source: the text functions that src/droidos/language/offline_parser.py calls
   digest: What `split` and `join` make of a text that grows at its end, and of words. -/

import DroidOs.Core.Values
import Mathlib.Data.List.Infix

set_option autoImplicit false
set_option relaxedAutoImplicit false

namespace DroidOs.Core.Words

/-- A property of a list's elements is decided at these elements, also where all characters could be
gone through. -/
scoped instance (priority := 1100) decidableOnList {α : Type} (l : List α) (p : α → Prop) [DecidablePred p] :
    Decidable (∀ a ∈ l, p a) :=
  List.decidableBAll p l

end DroidOs.Core.Words

open DroidOs.Core.Words

namespace DroidOs.Core.Values

namespace PyText

variable (text : PyText)

/-- `" ".join(s.split())`, on characters. -/
def normalChars (cs : List Char) : List Char := [' '].intercalate (text.splitChars [] cs)

theorem normalize_toList (s : String) : (text.normalize s).toList = text.normalChars s.toList := by
  have back : ((text.splitChars [] s.toList).map String.ofList).map String.toList =
      text.splitChars [] s.toList := by
    rw [List.map_map]
    exact (List.map_congr_left fun w _ => String.toList_ofList).trans (List.map_id _)
  rw [normalize, split, String.toList_intercalate, back]
  rfl

/-- No word is empty. -/
private theorem word_ne_nil (word cs : List Char) : [] ∉ text.splitChars word cs := by
  induction cs generalizing word with
  | nil =>
    unfold splitChars
    split <;> simp_all
  | cons c cs ih =>
    unfold splitChars
    split
    · split
      · exact ih []
      · next some =>
        intro inside
        rcases List.mem_cons.mp inside with nothing | inside
        · exact some (by simpa using nothing.symm)
        · exact ih [] inside
    · exact ih (c :: word)

private theorem intercalate_eq_nil {ws : List (List Char)} (words : [] ∉ ws) :
    [' '].intercalate ws = [] ↔ ws = [] := by
  rcases ws with _ | ⟨v, ws⟩
  · simp
  · refine iff_of_false (fun nothing => ?_) (List.cons_ne_nil v ws)
    have none : v = [] := by
      rcases ws with _ | ⟨u, ws⟩
      · simpa using nothing
      · rw [List.intercalate_cons_cons] at nothing
        exact (List.append_eq_nil_iff.mp (List.append_eq_nil_iff.mp nothing).1).1
    exact words (none ▸ List.mem_cons_self)

theorem normalChars_eq_nil {cs : List Char} : text.normalChars cs = [] ↔ text.splitChars [] cs = [] :=
  intercalate_eq_nil (word_ne_nil text [] cs)

/-! One character more. -/

/-- A text ends in the middle of a word, if its last character is no blank. -/
def midWord (cs : List Char) : Bool := (cs.getLast?.map fun c => !text.isSpace c).getD false

variable {text} {x : Char}

private theorem midWord_cons (c : Char) (cs : List Char) :
    text.midWord (c :: cs) = if cs.isEmpty then !text.isSpace c else text.midWord cs := by
  rcases cs with _ | ⟨d, cs⟩
  · rfl
  · simp [midWord, List.getLast?_cons_cons]

/-- A visible character continues the last word in the middle of it, and starts one elsewhere. -/
private theorem splitChars_push (visible : text.isSpace x = false) (word cs : List Char) : ∃ ws last,
    text.splitChars word cs = (if last.isEmpty then ws else ws ++ [last]) ∧
    text.splitChars word (cs ++ [x]) = ws ++ [last ++ [x]] ∧
    (last.isEmpty = if cs.isEmpty then word.isEmpty else !text.midWord cs) := by
  induction cs generalizing word with
  | nil =>
    refine ⟨[], word.reverse, ?_, ?_, ?_⟩
    · simp [splitChars]
    · simp [splitChars, visible]
    · simp
  | cons c cs ih =>
    by_cases blank : text.isSpace c = true
    · obtain ⟨ws, last, before, after, mid⟩ := ih []
      have mid' : last.isEmpty = !text.midWord (c :: cs) := by
        rw [mid, midWord_cons]
        cases cs <;> simp [blank]
      cases nothing : word.isEmpty with
      | true =>
        refine ⟨ws, last, ?_, ?_, ?_⟩
        · rw [splitChars, if_pos blank, if_pos nothing, before]
        · rw [List.cons_append, splitChars, if_pos blank, if_pos nothing, after]
        · rw [mid']
          rfl
      | false =>
        refine ⟨word.reverse :: ws, last, ?_, ?_, ?_⟩
        · rw [splitChars, if_pos blank, if_neg (by simp [nothing]), before]
          split <;> rfl
        · rw [List.cons_append, splitChars, if_pos blank, if_neg (by simp [nothing]), after]
          rfl
        · rw [mid']
          rfl
    · obtain ⟨ws, last, before, after, mid⟩ := ih (c :: word)
      refine ⟨ws, last, ?_, ?_, ?_⟩
      · rw [splitChars, if_neg blank, before]
      · rw [List.cons_append, splitChars, if_neg blank, after]
      · rw [mid, midWord_cons]
        cases cs <;> simp [Bool.eq_false_iff.mpr blank]

private theorem intercalate_concat (ws : List (List Char)) (w : List Char) (x : Char) :
    [' '].intercalate (ws ++ [w ++ [x]]) = [' '].intercalate (ws ++ [w]) ++ [x] := by
  induction ws with
  | nil => simp
  | cons v ws ih =>
    rw [List.cons_append, List.cons_append, List.intercalate_cons_of_ne_nil (by simp),
      List.intercalate_cons_of_ne_nil (by simp), ih, List.append_assoc, List.append_assoc, List.append_assoc]

private theorem intercalate_snoc {ws : List (List Char)} (some : ws ≠ []) (w : List Char) :
    [' '].intercalate (ws ++ [w]) = [' '].intercalate ws ++ ' ' :: w := by
  induction ws with
  | nil => exact absurd rfl some
  | cons v ws ih =>
    rcases ws with _ | ⟨u, ws⟩
    · simp
    · rw [List.cons_append, List.intercalate_cons_of_ne_nil (by simp), ih (by simp),
        List.intercalate_cons_cons]
      simp

/-- In the middle of a word a visible character is put behind the text. -/
theorem normalChars_push (visible : text.isSpace x = false) {cs : List Char} (mid : text.midWord cs = true) :
    text.normalChars (cs ++ [x]) = text.normalChars cs ++ [x] := by
  obtain ⟨ws, last, before, after, ends⟩ := splitChars_push visible [] cs
  have open_ : last.isEmpty = false := by
    rw [ends, mid]
    cases cs
    · cases mid
    · rfl
  rw [normalChars, after, intercalate_concat, normalChars, before, open_]
  rfl

/-- Elsewhere it becomes a word of its own. -/
theorem normalChars_push_word (visible : text.isSpace x = false) {cs : List Char}
    (mid : text.midWord cs = false) : text.normalChars (cs ++ [x]) =
      if text.normalChars cs = [] then [x] else text.normalChars cs ++ [' ', x] := by
  obtain ⟨ws, last, before, after, ends⟩ := splitChars_push visible [] cs
  have done : last = [] := by
    refine List.isEmpty_iff.mp ?_
    rw [ends, mid]
    cases cs <;> rfl
  subst done
  have before : text.splitChars [] cs = ws := before
  simp only [normalChars_eq_nil, before]
  rw [normalChars, after, normalChars, before]
  split
  case isTrue none =>
    subst none
    simp
  case isFalse some => exact intercalate_snoc some [x]

/-! Words. -/

/-- The words consist of the characters that are no blanks. -/
theorem mem_splitChars {word cs w : List Char} (inside : w ∈ text.splitChars word cs) :
    ∀ c ∈ w, c ∈ word ∨ c ∈ cs ∧ text.isSpace c = false := by
  induction cs generalizing word with
  | nil =>
    unfold splitChars at inside
    split at inside
    · cases inside
    · obtain rfl := List.mem_singleton.mp inside
      intro c member
      exact .inl (List.mem_reverse.mp member)
  | cons d cs ih =>
    unfold splitChars at inside
    split at inside
    case isTrue blank =>
      have behind (member : w ∈ text.splitChars [] cs) : ∀ c ∈ w, c ∈ word ∨ c ∈ d :: cs ∧ text.isSpace c = false := by
        intro c letter
        rcases ih member c letter with none | ⟨further, visible⟩
        · cases none
        · exact .inr ⟨List.mem_cons_of_mem d further, visible⟩
      split at inside
      · exact behind inside
      · rcases List.mem_cons.mp inside with rfl | member
        · intro c letter
          exact .inl (List.mem_reverse.mp letter)
        · exact behind member
    case isFalse visible =>
      intro c letter
      rcases ih inside c letter with here | ⟨further, visible'⟩
      · rcases List.mem_cons.mp here with rfl | before
        · exact .inr ⟨List.mem_cons_self, Bool.eq_false_iff.mpr visible⟩
        · exact .inl before
      · exact .inr ⟨List.mem_cons_of_mem d further, visible'⟩

theorem mem_intercalate {ws : List (List Char)} {c : Char} (inside : c ∈ [' '].intercalate ws) :
    c = ' ' ∨ ∃ w ∈ ws, c ∈ w := by
  induction ws with
  | nil => cases inside
  | cons w ws ih =>
    rcases ws with _ | ⟨v, ws⟩
    · exact .inr ⟨w, List.mem_cons_self, by simpa using inside⟩
    · rw [List.intercalate_cons_cons, List.mem_append, List.mem_append, List.mem_singleton] at inside
      rcases inside with (here | rfl) | later
      · exact .inr ⟨w, List.mem_cons_self, here⟩
      · exact .inl rfl
      · rcases ih later with blank | ⟨u, member, letter⟩
        · exact .inl blank
        · exact .inr ⟨u, List.mem_cons_of_mem w member, letter⟩

/-- A text with single blanks has no other blanks. -/
theorem mem_normalChars {cs : List Char} {c : Char} (inside : c ∈ text.normalChars cs) :
    c = ' ' ∨ c ∈ cs ∧ text.isSpace c = false := by
  rcases mem_intercalate inside with blank | ⟨w, word, letter⟩
  · exact .inl blank
  · rcases mem_splitChars word c letter with none | visible
    · cases none
    · exact .inr visible

private theorem splitChars_word {w : List Char} (visible : ∀ c ∈ w, text.isSpace c = false) (word cs : List Char) :
    text.splitChars word (w ++ cs) = text.splitChars (w.reverse ++ word) cs := by
  induction w generalizing word with
  | nil => rfl
  | cons c w ih =>
    rw [List.cons_append, splitChars, if_neg (Bool.eq_false_iff.mp (visible c List.mem_cons_self)),
      ih fun d inside => visible d (List.mem_cons_of_mem c inside), List.reverse_cons, List.append_assoc]
    rfl

/-- Words that are joined by single blanks are split into themselves. -/
theorem splitChars_intercalate (blank : text.isSpace ' ' = true) {ws : List (List Char)}
    (words : ∀ w ∈ ws, w ≠ [] ∧ ∀ c ∈ w, text.isSpace c = false) :
    text.splitChars [] ([' '].intercalate ws) = ws := by
  induction ws with
  | nil => rfl
  | cons w ws ih =>
    obtain ⟨some, visible⟩ := words w List.mem_cons_self
    rcases ws with _ | ⟨v, ws⟩
    · have only := splitChars_word visible [] []
      rw [List.append_nil] at only
      rw [List.intercalate_singleton, only, splitChars, if_neg (by simpa using some)]
      simp
    · rw [List.intercalate_cons_cons, List.append_assoc, splitChars_word visible, List.singleton_append, splitChars,
        if_pos blank, if_neg (by simpa using some), ih fun u member => words u (List.mem_cons_of_mem w member)]
      simp

/-- A word before a blank is the first of the words. -/
theorem splitChars_blank (blank : text.isSpace ' ' = true) {w : List Char} (some : w ≠ [])
    (visible : ∀ c ∈ w, text.isSpace c = false) (cs : List Char) :
    text.splitChars [] (w ++ ' ' :: cs) = w :: text.splitChars [] cs := by
  rw [splitChars_word visible, splitChars, if_pos blank, if_neg (by simpa using some)]
  simp

theorem normalChars_intercalate (blank : text.isSpace ' ' = true) {ws : List (List Char)}
    (words : ∀ w ∈ ws, w ≠ [] ∧ ∀ c ∈ w, text.isSpace c = false) :
    text.normalChars ([' '].intercalate ws) = [' '].intercalate ws := by
  rw [normalChars, splitChars_intercalate blank words]

private theorem splitChars_open {word : List Char} (some : word ≠ []) (cs : List Char) : ∃ w ws,
    text.splitChars word cs = (word.reverse ++ w) :: ws := by
  induction cs generalizing word with
  | nil =>
    refine ⟨[], [], ?_⟩
    rw [splitChars, if_neg (by simpa using some), List.append_nil]
  | cons c cs ih =>
    by_cases blank : text.isSpace c = true
    · refine ⟨[], text.splitChars [] cs, ?_⟩
      rw [splitChars, if_pos blank, if_neg (by simpa using some), List.append_nil]
    · obtain ⟨w, ws, split⟩ := ih (List.cons_ne_nil c word)
      refine ⟨c :: w, ws, ?_⟩
      rw [splitChars, if_neg blank, split, List.reverse_cons, List.append_assoc]
      rfl

/-- A text that begins with a word keeps its first character. -/
theorem normalChars_cons (visible : text.isSpace x = false) (cs : List Char) :
    ∃ rest, text.normalChars (x :: cs) = x :: rest := by
  obtain ⟨w, ws, split⟩ : ∃ w ws, text.splitChars [x] cs = ([x].reverse ++ w) :: ws :=
    splitChars_open (List.cons_ne_nil x []) cs
  have words : text.splitChars [] (x :: cs) = (x :: w) :: ws := by
    rw [splitChars, if_neg (Bool.eq_false_iff.mp visible), split]
    rfl
  rw [normalChars, words]
  rcases ws with _ | ⟨v, ws⟩
  · exact ⟨w, by simp⟩
  · exact ⟨w ++ [' '] ++ [' '].intercalate (v :: ws), by rw [List.intercalate_cons_cons]; rfl⟩

private theorem midWord_append (cs : List Char) {ds : List Char} (some : ds ≠ []) :
    text.midWord (cs ++ ds) = text.midWord ds := by
  simp [midWord, List.getLast?_append_of_ne_nil cs some]

/-- A text with single blanks ends in a word. -/
theorem midWord_normalChars {cs : List Char} (some : text.normalChars cs ≠ []) :
    text.midWord (text.normalChars cs) = true := by
  have words : ∀ w ∈ text.splitChars [] cs, w ≠ [] ∧ ∀ c ∈ w, text.isSpace c = false := by
    intro w member
    refine ⟨fun nothing => word_ne_nil text [] cs (nothing ▸ member), fun c letter => ?_⟩
    rcases mem_splitChars member c letter with none | ⟨-, visible⟩
    · cases none
    · exact visible
  have some : text.splitChars [] cs ≠ [] := fun none => some ((normalChars_eq_nil text).mpr none)
  rw [normalChars]
  generalize text.splitChars [] cs = ws at words some
  induction ws with
  | nil => exact absurd rfl some
  | cons w ws ih =>
    obtain ⟨letters, visible⟩ := words w List.mem_cons_self
    rcases ws with _ | ⟨v, ws⟩
    · rw [List.intercalate_singleton, midWord, List.getLast?_eq_getLast_of_ne_nil letters, Option.map_some,
        Option.getD_some, visible _ (List.getLast_mem letters)]
      rfl
    · have further : ∀ u ∈ v :: ws, u ≠ [] ∧ ∀ c ∈ u, text.isSpace c = false :=
        fun u member => words u (List.mem_cons_of_mem w member)
      have rest : [' '].intercalate (v :: ws) ≠ [] := by
        rw [Ne, intercalate_eq_nil fun inside => (further [] inside).1 rfl]
        exact List.cons_ne_nil v ws
      rw [List.intercalate_cons_cons, midWord_append _ rest]
      exact ih further (List.cons_ne_nil v ws)

/-- A text has the same words with single blanks. -/
theorem splitChars_normalChars (blank : text.isSpace ' ' = true) (cs : List Char) :
    text.splitChars [] (text.normalChars cs) = text.splitChars [] cs := by
  refine splitChars_intercalate blank fun w member => ⟨?_, fun c letter => ?_⟩
  · rintro rfl
    exact word_ne_nil text [] cs member
  · rcases mem_splitChars member c letter with none | ⟨-, visible⟩
    · cases none
    · exact visible

/-! Ends that are taken off. -/

theorem strip_eq_self {s : String} (first : ∀ c ∈ s.toList.head?, text.isSpace c = false)
    (last : ∀ c ∈ s.toList.getLast?, text.isSpace c = false) : text.strip s = s := by
  have keep {cs : List Char} (first : ∀ c ∈ cs.head?, text.isSpace c = false) : cs.dropWhile text.isSpace = cs := by
    rcases cs with _ | ⟨c, cs⟩
    · rfl
    · rw [List.dropWhile_cons_of_neg (by rw [first c rfl]; exact Bool.false_ne_true)]
  rw [strip, keep first, keep (by simpa using last), List.reverse_reverse, String.ofList_toList]

private theorem countP_dropWhile {p q : Char → Bool} (apart : ∀ c, q c = true → p c = false) (cs : List Char) :
    (cs.dropWhile p).countP q = cs.countP q := by
  have none : (cs.takeWhile p).countP q = 0 := by
    refine List.countP_eq_zero.mpr fun c inside counts => ?_
    have taken := List.all_eq_true.mp List.all_takeWhile c inside
    rw [apart c counts] at taken
    cases taken
  have whole := congrArg (List.countP q) (List.takeWhile_append_dropWhile (p := p) (l := cs))
  rw [List.countP_append, none, Nat.zero_add] at whole
  exact whole

theorem countP_strip {q : Char → Bool} (apart : ∀ c, q c = true → text.isSpace c = false) (s : String) :
    (text.strip s).toList.countP q = s.toList.countP q := by
  rw [strip, String.toList_ofList, List.countP_reverse, countP_dropWhile apart, List.countP_reverse,
    countP_dropWhile apart]

theorem countP_rstrip {q : Char → Bool} {chars : String} (apart : ∀ c, q c = true → c ∉ chars.toList) (s : String) :
    (rstrip chars s).toList.countP q = s.toList.countP q := by
  rw [rstrip, String.toList_ofList, List.countP_reverse, countP_dropWhile, List.countP_reverse]
  intro c counts
  exact decide_eq_false (apart c counts)

/-! Texts within texts. -/

theorem containsText_iff (needle s : String) : containsText needle s = true ↔ needle.toList <:+: s.toList := by
  rw [containsText, List.any_eq_true, List.infix_iff_prefix_suffix]
  simp only [List.mem_tails, List.isPrefixOf_iff_prefix]
  exact exists_congr fun suffix => and_comm

/-- One more character makes no room for a text that ends in another. -/
theorem infix_concat_iff {w : List Char} {last : Char} (ends : w.getLast? = some last) (other : last ≠ x)
    (t : List Char) : w <:+: t ++ [x] ↔ w <:+: t := by
  constructor
  · rintro ⟨before, after, same⟩
    rcases List.eq_nil_or_concat after with rfl | ⟨after, y, rfl⟩
    · rw [List.append_nil] at same
      have tail := congrArg List.getLast? same
      rw [List.getLast?_append, ends, List.getLast?_concat] at tail
      exact absurd (Option.some.inj tail) other
    · rw [List.concat_eq_append, ← List.append_assoc] at same
      exact ⟨before, after, (List.append_inj' same rfl).1⟩
  · rintro ⟨before, after, rfl⟩
    exact ⟨before, after ++ [x], by simp⟩

/-! What Python promises of its text functions. -/

/-- A small letter of the alphabet, or a blank. -/
def plain (c : Char) : Bool := c.isLower || c = ' '

/-- The laws of `str` and `re` that hold for every text, as far as the rules rely on them. -/
structure Lawful (text : PyText) : Prop where
  letters : ∀ c : Char, c.isAlpha = true → text.isWord c = true
  marks : ∀ c ∈ [' ', '.', '!', '?', ','], text.isWord c = false
  words : ∀ c, text.isWord c = true → text.isSpace c = false
  blank : text.isSpace ' ' = true
  line : text.isSpace '\n' = true
  visible : ∀ c ∈ ['.', '!'], text.isSpace c = false
  lower_strip : ∀ s, text.lower (text.strip s) = text.strip (text.lower s)
  lower_mark : ∀ s, ∀ mark ∈ [".", "!"], text.lower (s ++ mark) = text.lower s ++ mark
  lower_plain : ∀ s : String, (∀ c ∈ s.toList, plain c = true) → text.lower s = s
  /-- Behind a blank, the case of a letter does not depend on what is before the blank. -/
  lower_phrase : ∀ phrase s : String, (∀ c ∈ phrase.toList, plain c = true) →
    phrase.toList.getLast? = some ' ' → text.lower (phrase ++ s) = phrase ++ text.lower s
  same_refl : ∀ c, text.sameIgnoringCase c c = true
  same_letters : ∀ c d : Char, c.isAlpha = true → d.isAlpha = true →
    text.sameIgnoringCase c d = decide (c.toLower = d.toLower)
  same_word : ∀ c d, text.sameIgnoringCase c d = true → text.isWord c = text.isWord d
  /-- `str(s)`. -/
  str : ∀ s, text.str (.str s) = s

/-! Phrases. -/

/-- One or more words with single blanks between them. -/
def Phrase (text : PyText) (s : String) : Prop := ∃ words, words ≠ [] ∧
  (∀ w ∈ words, w ≠ [] ∧ ∀ c ∈ w, text.isSpace c = false) ∧ s.toList = [' '].intercalate words

section

variable {s : String} (laws : text.Lawful) (phrase : Phrase text s)
include laws phrase

theorem Phrase.normal : text.normalChars s.toList = s.toList := by
  obtain ⟨words, -, visible, joined⟩ := phrase
  rw [joined, normalChars_intercalate laws.blank visible]

theorem Phrase.ne_nil : s.toList ≠ [] := by
  obtain ⟨words, spoken, visible, joined⟩ := phrase
  intro nothing
  have none := splitChars_intercalate laws.blank visible
  rw [← joined, nothing] at none
  exact spoken none.symm

omit laws in
theorem Phrase.first : ∀ c ∈ s.toList.head?, text.isSpace c = false := by
  obtain ⟨words, spoken, visible, joined⟩ := phrase
  rcases words with _ | ⟨_ | ⟨c, w⟩, words⟩
  · exact absurd rfl spoken
  · exact absurd rfl (visible [] List.mem_cons_self).1
  · have first : s.toList.head? = some c := by
      rw [joined]
      cases words <;> simp
    intro d here
    obtain rfl : c = d := Option.some.inj (first.symm.trans here)
    exact (visible (c :: w) List.mem_cons_self).2 c List.mem_cons_self

theorem Phrase.last : ∀ c ∈ s.toList.getLast?, text.isSpace c = false := by
  intro c last
  have mid : text.midWord (text.normalChars s.toList) = true :=
    midWord_normalChars (by rw [phrase.normal laws]; exact phrase.ne_nil laws)
  rw [phrase.normal laws, midWord, last, Option.map_some, Option.getD_some] at mid
  simpa using mid

theorem Phrase.line : '\n' ∉ s.toList := by
  intro inside
  rw [← phrase.normal laws] at inside
  rcases mem_normalChars inside with blank | ⟨-, visible⟩
  · cases blank
  · rw [laws.line] at visible
    cases visible

theorem Phrase.strip_eq : text.strip s = s := strip_eq_self phrase.first (phrase.last laws)

end

private theorem upper_range {c : Char} (upper : c.isUpper = true) : 65 ≤ c.val.toNat ∧ c.val.toNat ≤ 90 := by
  have range := of_decide_eq_true upper
  exact ⟨UInt32.le_iff_toNat_le.mp range.1, UInt32.le_iff_toNat_le.mp range.2⟩

private theorem toLower_upper {c : Char} (upper : c.isUpper = true) : c.toLower.val.toNat = c.val.toNat + 32 := by
  obtain ⟨first, last⟩ := upper_range upper
  unfold Char.toLower
  rw [dif_pos (of_decide_eq_true upper), UInt32.toNat_add, show ('a'.val - 'A'.val).toNat = 32 from rfl]
  exact Nat.mod_eq_of_lt (by omega)

private theorem toLower_other {c : Char} (other : c.isUpper = false) : c.toLower = c := by
  unfold Char.toLower
  exact dif_neg (of_decide_eq_false other)

private theorem isSpace_toLower (c : Char) : PyText.ascii.isSpace c.toLower = PyText.ascii.isSpace c := by
  cases upper : c.isUpper with
  | true =>
    obtain ⟨first, last⟩ := upper_range upper
    show decide (_ ∈ [' ', '\t', '\n', '\r']) = decide (_ ∈ [' ', '\t', '\n', '\r'])
    simp only [List.mem_cons, List.not_mem_nil, Char.ext_iff, ← UInt32.toNat_inj, toLower_upper upper,
      decide_eq_decide]
    rw [show ' '.val.toNat = 32 from rfl, show '\t'.val.toNat = 9 from rfl,
      show '\n'.val.toNat = 10 from rfl, show '\r'.val.toNat = 13 from rfl, or_false, or_false]
    apply iff_of_false
    · omega
    · omega
  | false => rw [toLower_other upper]

private theorem toLower_plain {c : Char} (small : plain c = true) : c.toLower = c := by
  refine toLower_other (Bool.eq_false_iff.mpr fun upper => ?_)
  obtain ⟨first, last⟩ := upper_range upper
  rw [plain, Bool.or_eq_true] at small
  rcases small with lower | blank
  · have small := of_decide_eq_true (Bool.and_eq_true_iff.mp lower).1
    have above : 97 ≤ c.val.toNat := UInt32.le_iff_toNat_le.mp small
    omega
  · obtain rfl := of_decide_eq_true blank
    exact absurd first (by decide)

private theorem isWord_alpha {c : Char} (alpha : c.isAlpha = true) : PyText.ascii.isWord c = true := by
  simp [ascii, Char.isAlphanum, alpha]

private theorem isWord_toLower (c : Char) : PyText.ascii.isWord c.toLower = PyText.ascii.isWord c := by
  cases upper : c.isUpper with
  | true =>
    obtain ⟨first, last⟩ := upper_range upper
    have small : c.toLower.isLower = true := by
      refine Bool.and_eq_true_iff.mpr ⟨decide_eq_true ?_, decide_eq_true ?_⟩
      · exact UInt32.le_iff_toNat_le.mpr (by rw [toLower_upper upper]; exact Nat.add_le_add_right first 32)
      · exact UInt32.le_iff_toNat_le.mpr (by rw [toLower_upper upper]; exact Nat.add_le_add_right last 32)
    rw [isWord_alpha (show c.toLower.isAlpha = true from Bool.or_eq_true_iff.mpr (.inr small)),
      isWord_alpha (show c.isAlpha = true from Bool.or_eq_true_iff.mpr (.inl upper))]
  | false => rw [toLower_other upper]

private theorem ascii_lower (s : String) : PyText.ascii.lower s = String.ofList (s.toList.map Char.toLower) := rfl

/-- On ASCII texts blanks around a text do not matter for the case of its letters. -/
theorem ascii_lower_strip (s : String) :
    PyText.ascii.lower (PyText.ascii.strip s) = PyText.ascii.strip (PyText.ascii.lower s) := by
  have same : PyText.ascii.isSpace ∘ Char.toLower = PyText.ascii.isSpace := funext isSpace_toLower
  simp only [PyText.strip, ascii_lower, String.toList_ofList, ← List.map_reverse, List.dropWhile_map, same]

theorem ascii_lawful : PyText.ascii.Lawful where
  letters := fun c alpha => by simp [ascii, Char.isAlphanum, alpha]
  marks := by decide
  words := by
    intro c word
    by_contra blank
    have blank : c ∈ [' ', '\t', '\n', '\r'] := of_decide_eq_true (eq_true_of_ne_false blank)
    have none : ∀ c ∈ [' ', '\t', '\n', '\r'], PyText.ascii.isWord c = false := by decide
    rw [none c blank] at word
    cases word
  blank := rfl
  line := rfl
  visible := by decide
  lower_strip := ascii_lower_strip
  lower_mark := by
    intro s mark inside
    have fixed : mark.toList.map Char.toLower = mark.toList := by
      revert mark
      decide
    rw [ascii_lower, ascii_lower, String.toList_append, List.map_append, fixed, String.ofList_append,
      String.ofList_toList]
  lower_plain := by
    intro s small
    rw [ascii_lower, List.map_congr_left fun c inside => toLower_plain (small c inside), List.map_id' _,
      String.ofList_toList]
  lower_phrase := by
    intro phrase s small _
    rw [ascii_lower, ascii_lower, String.toList_append, List.map_append,
      List.map_congr_left fun c inside => toLower_plain (small c inside), List.map_id' _, String.ofList_append,
      String.ofList_toList]
  same_refl := fun c => decide_eq_true rfl
  same_letters := fun _ _ _ _ => rfl
  same_word := by
    intro c d same
    have same : c.toLower = d.toLower := of_decide_eq_true same
    rw [← isWord_toLower c, ← isWord_toLower d, same]
  str := fun _ => rfl

end PyText

end DroidOs.Core.Values
