/- GID: DroidOs/Language/Wording
   generality: I
   source: src/droidos/language/personality.py
   digest: The wording of an identity, and what a terse one leaves of a text. -/

import DroidOs.Core.Words
import Mathlib.Data.List.DropRight

set_option autoImplicit false
set_option relaxedAutoImplicit false

namespace DroidOs.Language.Wording

open DroidOs.Core.Values DroidOs.Core.Values.PyText

/-- An entry of `_FLAVOR`, without its tone. -/
structure Flavor where
  ack : String
  refusePrefix : String
  greeting : String

/-- `_FLAVOR`. -/
def flavors : List (String × Flavor) :=
  [("dry_literal", ⟨"", "", "Ready."⟩), ("cheerful", ⟨"On it!", "Sorry, ", "Hello! Standing by."⟩),
    ("formal", ⟨"Acknowledged.", "Regretfully, ", "At your service."⟩), ("terse", ⟨"", "", "Ready."⟩)]

/-- `Personality`, by what its methods read. -/
structure Personality where
  profile : PyVal := .str "dry_literal"
  verbosity : PyVal := .str "concise"

/-- `_FLAVOR.get(profile, _FLAVOR["dry_literal"])`. -/
def Personality.flavor (p : Personality) : Flavor :=
  ((flavors.find? fun entry => p.profile.isKey entry.1).map Prod.snd).getD ⟨"", "", "Ready."⟩

/-- `refuse`. -/
def Personality.refuse (p : Personality) (reason : String) : String := p.flavor.refusePrefix ++ reason

/-- `s.split(sep, 1)[0]`, on characters. -/
def cutAt (sep : List Char) : List Char → List Char
  | [] => []
  | c :: cs => if sep.isPrefixOf (c :: cs) then [] else c :: cutAt sep cs

variable (text : PyText)

/-- What `trim` keeps for a terse identity. -/
def firstSentence (s : String) : String :=
  let first := cutAt ['\n'] (text.strip s).toList
  rstrip "." (String.ofList (cutAt ['.', ' '] first)) ++ if first.isEmpty then "" else "."

/-- `trim`. -/
def Personality.trim (p : Personality) (s : String) : String :=
  if p.verbosity.isKey "verbose" then s
  else if p.verbosity.isKey "terse" then firstSentence text s
  else s

theorem Personality.trim_eq (p : Personality) (s : String) :
    p.trim text s = if p.verbosity.isKey "terse" then firstSentence text s else s := by
  rw [Personality.trim]
  split
  case isTrue verbose =>
    rw [if_neg]
    intro terse
    cases verbosity : p.verbosity with
    | str v =>
      rw [verbosity, PyVal.isKey, decide_eq_true_eq] at verbose terse
      exact absurd (verbose.symm.trans terse) (by decide)
    | _ =>
      rw [verbosity] at terse
      cases terse
  case isFalse => rfl

/-! Where a text is cut. -/

variable {text} {sep cs ds : List Char}

theorem cutAt_startsWith (sep cs : List Char) : cutAt sep cs <+: cs := by
  induction cs with
  | nil => exact List.prefix_refl _
  | cons c cs ih =>
    rw [cutAt]
    split
    · exact List.nil_prefix
    · exact (List.prefix_cons_inj c).mpr ih

/-- What is cut off at a text does not contain it. -/
theorem cutAt_free (some_sep : sep ≠ []) (cs : List Char) : ¬ sep <:+: cutAt sep cs := by
  induction cs with
  | nil => exact fun inside => some_sep (List.infix_nil.mp inside)
  | cons c cs ih =>
    rw [cutAt]
    split
    case isTrue => exact fun inside => some_sep (List.infix_nil.mp inside)
    case isFalse other =>
      intro inside
      rcases List.infix_cons_iff.mp inside with begins | later
      · refine other (List.isPrefixOf_iff_prefix.mpr (begins.trans ?_))
        exact (List.prefix_cons_inj c).mpr (cutAt_startsWith sep cs)
      · exact ih later

theorem cutAt_eq_self (free : ¬ sep <:+: cs) : cutAt sep cs = cs := by
  induction cs with
  | nil => rfl
  | cons c cs ih =>
    have other : ¬ sep.isPrefixOf (c :: cs) = true := fun begins =>
      free (List.isPrefixOf_iff_prefix.mp begins).isInfix
    rw [cutAt, if_neg other, ih fun later => free (List.infix_cons later)]

theorem cutAt_line_append (silent : '\n' ∉ cs) (ds : List Char) : cutAt ['\n'] (cs ++ ds) = cs ++ cutAt ['\n'] ds := by
  induction cs with
  | nil => rfl
  | cons c cs ih =>
    have other : ¬ ['\n'].isPrefixOf (c :: (cs ++ ds)) = true := by
      intro begins
      obtain rfl : '\n' = c := by simpa [List.isPrefixOf] using begins
      exact silent List.mem_cons_self
    rw [List.cons_append, cutAt, if_neg other, ih fun later => silent (List.mem_cons_of_mem c later), List.cons_append]

theorem cutAt_line_cut (inside : '\n' ∈ cs) (ds : List Char) : cutAt ['\n'] (cs ++ ds) = cutAt ['\n'] cs := by
  induction cs with
  | nil => cases inside
  | cons c cs ih =>
    rw [List.cons_append, cutAt, cutAt]
    by_cases line : '\n' = c
    · subst line
      rfl
    · have other (rest : List Char) : ¬ ['\n'].isPrefixOf (c :: rest) = true := by
        intro begins
        exact line (by simpa [List.isPrefixOf] using begins)
      rw [if_neg (other _), if_neg (other _), ih ((List.mem_cons.mp inside).resolve_left line)]

/-! The first sentence of a text. -/

/-- A full stop. -/
private def dot (c : Char) : Bool := decide (c ∈ ".".toList)

private theorem rdropWhile_cons (p : Char → Bool) (c : Char) (cs : List Char) : (c :: cs).rdropWhile p =
    if cs.rdropWhile p = [] then [c].rdropWhile p else c :: cs.rdropWhile p := by
  rw [List.rdropWhile, List.reverse_cons, List.dropWhile_append]
  by_cases nothing : cs.reverse.dropWhile p = []
  · simp [List.rdropWhile, nothing]
  · simp [List.rdropWhile, nothing]

/-- Behind a full stop and a blank nothing counts. -/
private theorem cutAt_sentence (cs ds : List Char) :
    (cutAt ['.', ' '] (cs ++ '.' :: ' ' :: ds)).rdropWhile dot = (cutAt ['.', ' '] (cs ++ ['.'])).rdropWhile dot := by
  induction cs with
  | nil => rfl
  | cons c cs ih =>
    have alike : ['.', ' '].isPrefixOf (c :: (cs ++ '.' :: ' ' :: ds)) = ['.', ' '].isPrefixOf (c :: (cs ++ ['.'])) := by
      rcases cs with _ | ⟨d, cs⟩
      · rfl
      · rfl
    rw [List.cons_append, List.cons_append, cutAt, cutAt, alike]
    split
    case isTrue => rfl
    case isFalse => rw [rdropWhile_cons, ih, ← rdropWhile_cons]

/-- A text without blanks around it is cut as it stands. -/
private theorem firstSentence_toList {s : String} (bare : text.strip s = s) : (firstSentence text s).toList =
    (cutAt ['.', ' '] (cutAt ['\n'] s.toList)).rdropWhile dot ++
      if (cutAt ['\n'] s.toList).isEmpty then [] else ['.'] := by
  rw [firstSentence, bare, String.toList_append]
  refine congrArg₂ _ ?_ ?_
  · refine String.toList_ofList.trans ?_
    rw [String.toList_ofList (l := cutAt ['.', ' '] (cutAt ['\n'] s.toList))]
    rfl
  · cases (cutAt ['\n'] s.toList).isEmpty <;> rfl

/-- What stands behind the first sentence does not matter. -/
theorem firstSentence_lead {s s' : String} (bare : text.strip s = s) (bare' : text.strip s' = s')
    (long : s.toList = cs ++ '.' :: ' ' :: ds) (short : s'.toList = cs ++ ['.']) :
    firstSentence text s = firstSentence text s' := by
  refine String.toList_inj.mp ?_
  rw [firstSentence_toList bare, firstSentence_toList bare', long, short]
  by_cases line : '\n' ∈ cs
  · rw [cutAt_line_cut line, cutAt_line_cut line]
  · have behind : cutAt ['\n'] ('.' :: ' ' :: ds) = '.' :: ' ' :: cutAt ['\n'] ds := rfl
    have dot_only : cutAt ['\n'] ['.'] = ['.'] := rfl
    rw [cutAt_line_append line, cutAt_line_append line, behind, dot_only, cutAt_sentence]
    simp

private theorem blank_infix_iff : ['.', ' '] <:+: cs ++ ['.'] ↔ ['.', ' '] <:+: cs :=
  infix_concat_iff rfl (show ' ' ≠ '.' by decide) cs

/-- A sentence is kept exactly if no line ends in it, no full stop stands before a blank, and it does
not end in two full stops. -/
theorem firstSentence_whole {s w : String} (bare : text.strip s = s) (ends : s.toList = w.toList ++ ['.']) :
    containsText w (firstSentence text s) = true ↔
      '\n' ∉ w.toList ∧ ¬ ['.', ' '] <:+: w.toList ∧ ¬ ['.', '.'] <:+ w.toList := by
  rw [containsText_iff, firstSentence_toList bare, ends]
  have letters (cs : List Char) (c : Char) (inside : c ∈ (cutAt ['.', ' '] cs).rdropWhile dot) : c ∈ cs :=
    (cutAt_startsWith _ cs).subset ((List.rdropWhile_prefix dot _).subset inside)
  constructor
  · intro inside
    have silent : '\n' ∉ w.toList := by
      intro line
      rcases List.mem_append.mp (inside.subset line) with here | here
      · have later := letters _ _ here
        obtain ⟨front, rest, split⟩ := List.append_of_mem later
        exact cutAt_free (List.cons_ne_nil '\n' []) _ ⟨front, rest, by rw [split]; simp⟩
      · split at here
        · cases here
        · exact absurd (List.mem_singleton.mp here) (by decide)
    have whole : cutAt ['\n'] (w.toList ++ ['.']) = w.toList ++ ['.'] := cutAt_line_append silent ['.']
    rw [whole, if_neg (by simp)] at inside
    have open_ : ¬ ['.', ' '] <:+: w.toList := by
      intro cut
      have within := cut.trans inside
      rw [blank_infix_iff] at within
      exact cutAt_free (List.cons_ne_nil _ _) _ (within.trans (List.rdropWhile_prefix dot _).isInfix)
    refine ⟨silent, open_, ?_⟩
    rintro ⟨front, dots⟩
    rw [cutAt_eq_self (by rwa [blank_infix_iff]), ← dots] at inside
    have length := inside.length_le
    have shorter := (List.rdropWhile_prefix dot front).length_le
    rw [show front ++ ['.', '.'] ++ ['.'] = front ++ ['.'] ++ ['.'] ++ ['.'] by simp,
      List.rdropWhile_concat_pos _ _ _ (by decide), List.rdropWhile_concat_pos _ _ _ (by decide),
      List.rdropWhile_concat_pos _ _ _ (by decide)] at length
    simp only [List.length_append, List.length_cons, List.length_nil] at length
    omega
  · rintro ⟨silent, open_, dots⟩
    have whole : cutAt ['\n'] (w.toList ++ ['.']) = w.toList ++ ['.'] := cutAt_line_append silent ['.']
    rw [whole, if_neg (by simp), cutAt_eq_self (by rwa [blank_infix_iff]),
      List.rdropWhile_concat_pos _ _ _ (by decide)]
    rcases List.eq_nil_or_concat w.toList with nothing | ⟨front, last, split⟩
    · rw [nothing]
      exact List.nil_infix
    · rw [split]
      by_cases stop : last = '.'
      · subst stop
        rw [List.concat_eq_append, List.rdropWhile_concat_pos _ _ _ (by decide)]
        have kept : front.rdropWhile dot = front := by
          refine List.rdropWhile_eq_self_iff.mpr fun some_left again => dots ?_
          have last' : front.getLast some_left = '.' := by simpa [dot] using again
          refine ⟨front.dropLast, ?_⟩
          rw [split, List.concat_eq_append, ← List.dropLast_append_getLast some_left, last']
          simp
        rw [kept]
      · rw [List.concat_eq_append, List.rdropWhile_concat_neg _ _ _ (by simpa [dot] using stop)]
        exact List.prefix_append _ _ |>.isInfix

end DroidOs.Language.Wording
