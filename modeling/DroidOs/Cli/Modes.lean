/- GID: DroidOs/Cli/Modes
   generality: I
   source: src/droidos/cli/droid.py, src/droidos/language/offline_parser.py
   digest: The modes of the command line, and when the mode for remembering stores what it is given. -/

import DroidOs.Core.Words
import DroidOs.Language.Rules

set_option autoImplicit false
set_option relaxedAutoImplicit false

namespace DroidOs.Cli.Modes

open DroidOs.Lib.Regex DroidOs.Lib.Regex.Pattern
open DroidOs.Core.Values DroidOs.Core.Values.PyText DroidOs.Core.Words
open DroidOs.Language.OfflineParser DroidOs.Language.Rules

variable (text : PyText)

/-- `MODES`. -/
def modes : List String := ["ask", "do", "explain", "remember", "forget"]

/-- `s.lower().startswith(word)`. -/
def beginsWith (word s : String) : Bool := word.toList.isPrefixOf (text.lower s).toList

/-- `_apply_mode`. -/
def applyMode (mode said : String) : String :=
  if mode ∈ ["remember", "forget"] ∧ beginsWith text mode said = false then mode ++ " " ++ said else said

/-- The text that `main` hands on, from the arguments that are no options. -/
def requested : List String → String
  | mode :: word :: words =>
    if mode ∈ modes then applyMode text mode (" ".intercalate (word :: words))
    else " ".intercalate (mode :: word :: words)
  | rest => " ".intercalate rest

theorem requested_remember (word : String) (words : List String) :
    requested text ("remember" :: word :: words) = applyMode text "remember" (" ".intercalate (word :: words)) := rfl

/-! What is to be stored. -/

/-- Without blanks around it and without full stops at its end. -/
def trimmed (s : String) : String := rstrip " ." (text.strip s)

/-- What may be stored for a text: the text, or what follows a leading "that", trimmed. -/
def MayStore (x stored : String) : Prop := stored = trimmed text x ∨
  ∃ that rest, Alike text.sameIgnoringCase "that ".toList that ∧ x.toList = that ++ rest ∧
    stored = trimmed text (String.ofList rest)

/-- What is said has the parser remember the text. -/
def Remembers (said x : String) : Prop := ∃ stored,
  meaning (parse text said) = ("memory.remember", .dict [(.str "text", .str stored)]) ∧ MayStore text x stored

variable {text} {x : String}

/-- A word character counts for as much in a trimmed text as in the text. -/
private theorem countP_trimmed (laws : text.Lawful) (s : String) :
    (trimmed text s).toList.countP text.isWord = s.toList.countP text.isWord := by
  have marks : ∀ c, text.isWord c = true → c ∉ " .".toList := by
    intro c word inside
    have mark : ∀ c ∈ " .".toList, c ∈ [' ', '.', '!', '?', ','] := by decide
    rw [laws.marks c (mark c inside)] at word
    cases word
  rw [trimmed, countP_rstrip marks, countP_strip laws.words]

/-! The rule that remembers. -/

/-- The pattern before its slot. -/
private def opening : List Pattern := [please, literal "remember ", optional (literal "that ")]

private theorem rememberPattern_eq : rememberPattern = Pattern.sequence (opening ++ [.group (plus true .dot)]) := rfl

private theorem startIgnoringCase_eq {raw : String} (line : '\n' ∉ raw.toList) :
    startIgnoringCase text rememberPattern raw =
      (((run text.isWord text.sameIgnoringCase (sequence opening) { before := [], rest := raw.toList }).filter
        Cursor.more).head?).map fun c => (c.groups ++ [c.rest]).map String.ofList := by
  rw [startIgnoringCase, matchStart, rememberPattern_eq, head_run_slotted opening line, Option.map_map]
  rfl

/-- Before the slot, the rule takes "remember " from the text and perhaps more. -/
private theorem opening_takes {c d : Cursor}
    (taken : d ∈ run text.isWord text.sameIgnoringCase (sequence opening) c) : ∃ polite verb that,
      Alike text.sameIgnoringCase "remember ".toList verb ∧ c.rest = polite ++ verb ++ that ++ d.rest ∧
        d.groups = c.groups := by
  obtain ⟨mid, first, taken⟩ := mem_run_seq.mp taken
  obtain ⟨mid', second, taken⟩ := mem_run_seq.mp taken
  obtain ⟨last, third, taken⟩ := mem_run_seq.mp taken
  obtain rfl := List.mem_singleton.mp taken
  obtain ⟨verb, rest, alike, cut, rfl⟩ := mem_run_literal.mp second
  have polite : ∃ polite, c.rest = polite ++ mid.rest ∧ mid.groups = c.groups := by
    rcases mem_run_alt.mp first with asks | bare
    · obtain ⟨polite, rest', -, before, rfl⟩ := mem_run_literal.mp asks
      exact ⟨polite, before, rfl⟩
    · obtain rfl := List.mem_singleton.mp bare
      exact ⟨[], rfl, rfl⟩
  have that : ∃ that, rest = that ++ d.rest ∧ d.groups = mid.groups := by
    rcases mem_run_alt.mp third with tells | bare
    · obtain ⟨that, rest', -, behind, rfl⟩ := mem_run_literal.mp tells
      exact ⟨that, behind, rfl⟩
    · obtain rfl := List.mem_singleton.mp bare
      exact ⟨[], rfl, rfl⟩
  obtain ⟨polite, before, groups⟩ := polite
  obtain ⟨that, behind, groups'⟩ := that
  refine ⟨polite, verb, that, alike, ?_, groups'.trans groups⟩
  rw [before, cut, behind]
  simp

/-- A text that begins with "r" is no request to forget. -/
private theorem no_forget {t : String} {rest : List Char} (begins : t.toList = 'r' :: rest) :
    start text forgetPattern t = none := by
  rw [start, matchStart, begins]
  rfl

/-- Behind "remember " the rule stores what is said, without a leading "that". -/
private theorem remember_stores (laws : text.Lawful) (phrase : Phrase text x) : ∃ group,
    startIgnoringCase text rememberPattern ("remember " ++ x) = some [group] ∧
      MayStore text x (trimmed text group) := by
  have letters := phrase.ne_nil laws
  have line := phrase.line laws
  have silent : '\n' ∉ ("remember " ++ x).toList := by
    rw [String.toList_append]
    intro inside
    rcases List.mem_append.mp inside with verb | said
    · exact absurd verb (by decide)
    · exact line said
  have polite : run text.isWord text.sameIgnoringCase please { before := [], rest := ("remember " ++ x).toList } =
      [{ before := [], rest := "remember ".toList ++ x.toList }] := by
    have apart : text.sameIgnoringCase 'p' 'r' = false := by
      rw [laws.same_letters 'p' 'r' rfl rfl]
      decide
    have none : run text.isWord text.sameIgnoringCase (literal "please ")
        { before := [], rest := ("remember " ++ x).toList } = [] :=
      run_literal_apart rfl (by rw [String.toList_append]; rfl) apart
    rw [please, Pattern.optional, run, none, String.toList_append]
    rfl
  have verb : run text.isWord text.sameIgnoringCase (literal "remember ")
      { before := [], rest := "remember ".toList ++ x.toList, groups := [] } =
        [{ before := "remember ".toList.reverse ++ [], rest := x.toList, groups := [] }] :=
    run_literal_self (fun letter _ => laws.same_refl letter) [] x.toList []
  have places : run text.isWord text.sameIgnoringCase (sequence opening)
      { before := [], rest := ("remember " ++ x).toList } =
        run text.isWord text.sameIgnoringCase (Pattern.optional (literal "that "))
          { before := "remember ".toList.reverse ++ [], rest := x.toList } := by
    change (run _ _ please _).flatMap (run _ _ (.seq (literal "remember ") (sequence [Pattern.optional (literal "that ")]))) = _
    rw [polite, List.flatMap_singleton, run, verb, List.flatMap_singleton, run_sequence_single]
  have here : ∀ d ∈ (run text.isWord text.sameIgnoringCase (Pattern.optional (literal "that "))
      { before := "remember ".toList.reverse ++ [], rest := x.toList }).filter Cursor.more,
      d.groups = [] ∧ MayStore text x (trimmed text (String.ofList d.rest)) := by
    intro d taken
    rcases mem_run_alt.mp (List.mem_filter.mp taken).1 with tells | bare
    · obtain ⟨that, rest, alike, cut, rfl⟩ := mem_run_literal.mp tells
      exact ⟨rfl, .inr ⟨that, rest, alike, cut, rfl⟩⟩
    · obtain rfl := List.mem_singleton.mp bare
      refine ⟨rfl, .inl ?_⟩
      rw [String.ofList_toList]
  have some_place : ((run text.isWord text.sameIgnoringCase (Pattern.optional (literal "that "))
      { before := "remember ".toList.reverse ++ [], rest := x.toList }).filter Cursor.more) ≠ [] := by
    refine List.ne_nil_of_mem (List.mem_filter.mpr ⟨mem_run_alt.mpr (.inr (List.mem_singleton.mpr rfl)), ?_⟩)
    simpa [Cursor.more] using letters
  rw [startIgnoringCase_eq silent, places]
  obtain ⟨d, others, split⟩ := List.exists_cons_of_ne_nil some_place
  obtain ⟨groups, stores⟩ := here d (by rw [split]; exact List.mem_cons_self)
  refine ⟨String.ofList d.rest, ?_, stores⟩
  rw [split, List.head?_cons, Option.map_some, groups]
  rfl

private theorem verb_words (laws : text.Lawful) {verb : List Char}
    (alike : Alike text.sameIgnoringCase "remember ".toList verb) : ∃ first last, verb = first ++ last ∧
      first.length = 5 ∧ 0 < first.countP text.isWord ∧ 0 < last.countP text.isWord := by
  have word {c d : Char} (alpha : c.isAlpha = true) (same : text.sameIgnoringCase c d = true) :
      text.isWord d = true := by rw [← laws.same_word c d same, laws.letters c alpha]
  have alike : Alike text.sameIgnoringCase ['r', 'e', 'm', 'e', 'm', 'b', 'e', 'r', ' '] verb := alike
  obtain _ | ⟨r, _ | ⟨-, _ | ⟨-, _ | ⟨-, _ | ⟨-, _ | ⟨b, rest⟩⟩⟩⟩⟩⟩ := alike
  rename_i v₀ v₁ v₂ v₃ v₄ v₅ more
  refine ⟨[v₀, v₁, v₂, v₃, v₄], v₅ :: more, rfl, rfl, ?_, ?_⟩
  · exact List.countP_pos_iff.mpr ⟨v₀, List.mem_cons_self, word (by decide) r⟩
  · exact List.countP_pos_iff.mpr ⟨v₅, List.mem_cons_self, word (by decide) b⟩

/-- A text that itself begins with "remember " loses that word, which no text may. -/
private theorem remember_loses (laws : text.Lawful) (phrase : Phrase text x) {groups : List String}
    (found : startIgnoringCase text rememberPattern x = some groups) :
    ¬ MayStore text x (trimmed text (groupAt groups 0)) := by
  have line := phrase.line laws
  rw [startIgnoringCase_eq line] at found
  obtain ⟨d, first, rfl⟩ := Option.map_eq_some_iff.mp found
  have taken := (List.mem_filter.mp (List.mem_of_head? first)).1
  obtain ⟨polite, verb, that, alike, cut, groups⟩ := opening_takes taken
  obtain ⟨front, back, rfl, length, word, word'⟩ := verb_words laws alike
  have cut : x.toList = (polite ++ front) ++ (back ++ (that ++ d.rest)) := by
    rw [show x.toList = _ from cut]
    simp
  have group : groupAt ((d.groups ++ [d.rest]).map String.ofList) 0 = String.ofList d.rest := by
    rw [groups]
    rfl
  have count := countP_trimmed laws (String.ofList d.rest)
  rw [String.toList_ofList] at count
  rw [group]
  rintro (whole | ⟨that', rest, alike', cut', rest_only⟩)
  · rw [whole, countP_trimmed laws, cut] at count
    simp only [List.countP_append] at count
    omega
  · have five : that'.length = 5 := (alike'.length_eq).symm
    have behind : rest = (polite ++ front).drop 5 ++ (back ++ (that ++ d.rest)) := by
      have left : (that' ++ rest).drop 5 = rest := by rw [← five, List.drop_left]
      rw [← left, ← cut', cut, List.drop_append_of_le_length]
      rw [List.length_append]
      omega
    rw [rest_only, countP_trimmed laws, String.toList_ofList, behind] at count
    simp only [List.countP_append] at count
    omega

theorem phrase_tea : Phrase .ascii "ada likes tea" := by
  refine ⟨["ada".toList, "likes".toList, "tea".toList], List.cons_ne_nil _ _, ?_, rfl⟩
  decide

end DroidOs.Cli.Modes
