/- GID: DroidOs/Language/Punctuation
   generality: I
   source: src/droidos/language/offline_parser.py
   digest: What a full stop or an exclamation mark behind a text changes in its parse. -/

import DroidOs.Core.Words
import DroidOs.Language.Rules

set_option autoImplicit false
set_option relaxedAutoImplicit false

namespace DroidOs.Language.Punctuation

open DroidOs.Lib.Regex DroidOs.Lib.Regex.Pattern
open DroidOs.Core.Values DroidOs.Core.Values.PyText DroidOs.Core.Words
open Intent OfflineParser Rules

variable {text : PyText}

/-! The text that the rules read. -/

/-- The lower-cased text with single blanks, also behind its last word if a blank is there. -/
def unclosed (text : PyText) (s : String) : List Char :=
  let cs := (text.lower s).toList
  if text.midWord cs = true ∨ text.normalChars cs = [] then text.normalChars cs
  else text.normalChars cs ++ [' ']

theorem normalized_toList (laws : text.Lawful) (s : String) :
    (normalized text s).toList = text.normalChars (text.lower s).toList := by
  rw [normalized, laws.lower_strip, PyText.normalize, text.split_strip, ← PyText.normalize, normalize_toList]

theorem unclosed_cases (laws : text.Lawful) (s : String) : unclosed text s = (normalized text s).toList ∨
    unclosed text s = (normalized text s).toList ++ [' '] ∧ (normalized text s).toList ≠ [] := by
  rw [normalized_toList laws]
  unfold unclosed
  dsimp only
  split
  case isTrue => exact .inl rfl
  case isFalse open_ =>
    push Not at open_
    exact .inr ⟨rfl, open_.2⟩

/-- The last character is no blank. -/
theorem normalized_last (laws : text.Lawful) (s : String) : (normalized text s).toList.getLast? ≠ some ' ' := by
  intro last
  rw [normalized_toList laws] at last
  have some_word : text.normalChars (text.lower s).toList ≠ [] := by
    intro nothing
    rw [nothing] at last
    cases last
  have mid := midWord_normalChars some_word
  rw [midWord, last, Option.map_some, Option.getD_some, laws.blank] at mid
  cases mid

theorem normalized_line (laws : text.Lawful) (s : String) : '\n' ∉ (normalized text s).toList := by
  intro inside
  rw [normalized_toList laws] at inside
  rcases mem_normalChars inside with blank | ⟨-, visible⟩
  · cases blank
  · rw [laws.line] at visible
    cases visible

/-- A mark at the end of a sentence. -/
structure Mark (text : PyText) (mark : String) (m : Char) : Prop where
  chars : mark.toList = [m]
  inside : m ∈ ['.', '!']
  lower : ∀ s, text.lower (s ++ mark) = text.lower s ++ mark
  visible : text.isSpace m = false
  outside : text.isWord m = false

theorem mark_of_mem (laws : text.Lawful) {mark : String} (inside : mark ∈ [".", "!"]) : ∃ m, Mark text mark m := by
  have lower := fun s => laws.lower_mark s mark inside
  simp only [List.mem_cons, List.not_mem_nil, or_false] at inside
  rcases inside with rfl | rfl
  · exact ⟨'.', rfl, List.mem_cons_self, lower, laws.visible _ List.mem_cons_self, laws.marks _ (by decide)⟩
  · exact ⟨'!', rfl, by decide, lower, laws.visible _ (by decide), laws.marks _ (by decide)⟩

variable {mark : String} {m : Char} {s : String}

/-- A mark comes behind all that the rules read. -/
theorem marked_toList (laws : text.Lawful) (ends : Mark text mark m) (s : String) :
    (normalized text (s ++ mark)).toList = unclosed text s ++ [m] := by
  rw [normalized_toList laws, ends.lower, String.toList_append, ends.chars]
  unfold unclosed
  dsimp only
  cases mid : text.midWord (text.lower s).toList with
  | true => rw [normalChars_push ends.visible mid, if_pos (.inl rfl)]
  | false =>
    rw [normalChars_push_word ends.visible mid]
    split
    case isTrue nothing => rw [if_pos (.inr nothing), nothing, List.nil_append]
    case isFalse words =>
      rw [if_neg (by simpa using words), List.append_assoc]
      rfl

/-! The rules that hear words. -/

private theorem unclosed_string (laws : text.Lawful) (s : String) (property : String → Bool)
    (blank : ∀ t t' : String, t'.toList = t.toList ++ [' '] → property t' = property t) :
    property (String.ofList (unclosed text s)) = property (normalized text s) := by
  rcases unclosed_cases laws s with same | ⟨longer, -⟩
  · rw [same, String.ofList_toList]
  · exact blank _ _ (by rw [String.toList_ofList, longer])

/-- A pattern that ends in a word is found with the mark exactly if it is found without. -/
theorem hears_marked (laws : text.Lawful) (ends : Mark text mark m) {r : Pattern}
    (closes : Closes text.isWord (fun c d => c = d) r) (s : String) :
    hears text r (normalized text (s ++ mark)) = hears text r (normalized text s) := by
  have longer {x : Char} (outside : text.isWord x = false) (t t' : String) (more : t'.toList = t.toList ++ [x]) :
      hears text r t' = hears text r t := search_longer outside closes more
  rw [longer ends.outside (String.ofList (unclosed text s)) _
    (by rw [marked_toList laws ends, String.toList_ofList])]
  exact unclosed_string laws s (hears text r) (longer (laws.marks ' ' List.mem_cons_self))

theorem contains_marked (laws : text.Lawful) (ends : Mark text mark m) {needle : String} {last : Char}
    (closes : needle.toList.getLast? = some last) (letter : last ∉ [' ', '.', '!']) (s : String) :
    containsText needle (normalized text (s ++ mark)) = containsText needle (normalized text s) := by
  have longer {x : Char} (other : last ≠ x) (t t' : String) (more : t'.toList = t.toList ++ [x]) :
      containsText needle t' = containsText needle t := by
    rw [Bool.eq_iff_iff, containsText_iff, containsText_iff, more]
    exact infix_concat_iff closes other t.toList
  have apart : last ≠ m := by
    rintro rfl
    exact letter (List.mem_cons_of_mem _ ends.inside)
  rw [longer apart (String.ofList (unclosed text s)) _ (by rw [marked_toList laws ends, String.toList_ofList])]
  refine unclosed_string laws s (containsText needle) (longer ?_)
  rintro rfl
  exact letter List.mem_cons_self

/-- Words whose last characters are letters. -/
private theorem closes_oneOf (laws : text.Lawful) {ws : List String} (some_word : ws ≠ [])
    (letters : ∀ w ∈ ws, (w.toList.getLast?.map Char.isAlpha).getD false = true) :
    Closes text.isWord (fun c d => c = d) (oneOf ws) := by
  refine (spells_oneOf some_word).closes fun w inside => ?_
  obtain ⟨word, listed, rfl⟩ := mem_textsOf.mp inside
  have last := letters word listed
  rcases end_ : word.toList.getLast? with _ | c
  · rw [end_] at last
    cases last
  · rw [end_] at last
    exact laws.letters c last

private theorem closes_words {ws : List String} : Closes text.isWord (fun c d => c = d) (words ws) :=
  (closes_boundary.last.seq _).seq _

theorem mentions_marked (laws : text.Lawful) (ends : Mark text mark m) (ws : List String) (s : String) :
    mentions text ws (normalized text (s ++ mark)) = mentions text ws (normalized text s) :=
  hears_marked laws ends closes_words s

private theorem closes_cancel : Closes text.isWord (fun c d => c = d) cancelPattern :=
  (((closes_boundary.last.seq _).seq _).seq _).seq _

theorem closes_stairs : Closes text.isWord (fun c d => c = d) stairsPattern :=
  (closes_words.last.seq _).seq _

private theorem closes_whyNot (laws : text.Lawful) : Closes text.isWord (fun c d => c = d) whyNotPattern :=
  (closes_oneOf laws (by decide) (by decide)).seq _

/-! The rules that compare whole texts. -/

/-- The phrases that are an emergency stop only alone. -/
def wholePhrases : List String := ["e-stop", "estop", "kill power"]

def stopWords : List String := ["stop", "halt", "freeze", "stop moving", "stop now"]

theorem isStop_iff (t : String) : isStop text t = true ↔
    ∃ word ∈ stopWords, t.toList = word.toList ∨ t.toList = word.toList ++ ['.'] := by
  have spells : Spells text.isWord stopPattern (textsOf stopWords * ({['.']} + 1)) :=
    (spells_oneOf (by decide)).seq (spells_optional (spells_char '.'))
  rw [isStop, spells.fullMatch, Language.mem_mul]
  constructor
  · rintro ⟨w, inside, dot, here | here, same⟩
    · obtain ⟨word, listed, rfl⟩ := mem_textsOf.mp inside
      obtain rfl : dot = ['.'] := here
      exact ⟨word, listed, .inr same.symm⟩
    · obtain ⟨word, listed, rfl⟩ := mem_textsOf.mp inside
      obtain rfl : dot = [] := here
      exact ⟨word, listed, .inl (same.symm.trans (List.append_nil _))⟩
  · rintro ⟨word, listed, same | same⟩
    · exact ⟨_, mem_textsOf.mpr ⟨word, listed, rfl⟩, [], .inr rfl, (List.append_nil _).trans same.symm⟩
    · exact ⟨_, mem_textsOf.mpr ⟨word, listed, rfl⟩, ['.'], .inl rfl, same.symm⟩

theorem mentions_infix {ws : List String} (some_word : ws ≠ []) {t : String}
    (mentioned : mentions text ws t = true) : ∃ word ∈ ws, containsText word t = true := by
  obtain ⟨c, place, d, taken⟩ := search_isSome.mp mentioned
  obtain ⟨skipped, after, cut, rfl⟩ := mem_places.mp place
  obtain ⟨mid, edge, taken⟩ := mem_run_seq.mp taken
  obtain ⟨-, rfl⟩ := mem_run_boundary.mp edge
  obtain ⟨next, word, -⟩ := mem_run_seq.mp taken
  obtain ⟨w, inside, rest, split, -⟩ := (spells_oneOf some_word _ next).mp word
  obtain ⟨word, listed, rfl⟩ := mem_textsOf.mp inside
  refine ⟨word, listed, (containsText_iff word t).mpr ⟨skipped, rest, ?_⟩⟩
  rw [cut, show after = word.toList ++ rest from split, List.append_assoc]

/-- A stop is neither an emergency stop nor a request for silence. -/
theorem stop_only {t : String} (stop : isStop text t = true) :
    isEmergencyStop t = false ∧ mentions text silenceWords t = false := by
  have listed : t ∈ stopWords ++ stopWords.map (· ++ ".") := by
    obtain ⟨word, listed, same | same⟩ := (isStop_iff t).mp stop
    · rw [String.toList_inj.mp same]
      exact List.mem_append_left _ listed
    · refine List.mem_append_right _ (List.mem_map.mpr ⟨word, listed, ?_⟩)
      exact String.toList_inj.mp (String.toList_append.trans same.symm)
  have plainly : ∀ t ∈ stopWords ++ stopWords.map (· ++ "."), isEmergencyStop t = false ∧
      ∀ word ∈ silenceWords, containsText word t = false := by decide +kernel
  obtain ⟨calm, loud⟩ := plainly t listed
  refine ⟨calm, Bool.eq_false_iff.mpr fun mentioned => ?_⟩
  obtain ⟨word, inside, within⟩ := mentions_infix (by decide) mentioned
  rw [loud word inside] at within
  cases within

theorem parse_stops (stop : isStop text (normalized text s) = true) : (parse text s).intent = "motion.stop" := by
  obtain ⟨calm, loud⟩ := stop_only stop
  simp only [parse, calm, loud, stop, Bool.false_eq_true, if_false, if_true]
  rfl

private theorem getLast_mark (laws : text.Lawful) (ends : Mark text mark m) (s : String) :
    (normalized text (s ++ mark)).toList.getLast? = some m := by
  rw [marked_toList laws ends, List.getLast?_concat]

theorem not_whole_marked (laws : text.Lawful) (ends : Mark text mark m) (s : String) :
    normalized text (s ++ mark) ∉ wholePhrases := by
  intro listed
  have letters : ∀ phrase ∈ wholePhrases, ∀ c ∈ ['.', '!'], phrase.toList.getLast? ≠ some c := by decide
  exact letters _ listed m ends.inside (getLast_mark laws ends s)

/-- With a mark a text is a stop only if it was one, and with an exclamation mark never. -/
theorem isStop_marked (laws : text.Lawful) (ends : Mark text mark m) {s : String}
    (stop : isStop text (normalized text (s ++ mark)) = true) : m = '.' ∧ isStop text (normalized text s) = true := by
  have letters : ∀ word ∈ stopWords, ∀ c ∈ [' ', '.', '!'], word.toList.getLast? ≠ some c := by decide
  obtain ⟨word, listed, same | same⟩ := (isStop_iff _).mp stop
  · have last := getLast_mark laws ends s
    rw [same] at last
    exact absurd last (letters word listed m (List.mem_cons_of_mem ' ' ends.inside))
  · rw [marked_toList laws ends] at same
    obtain ⟨whole, dot⟩ := List.append_inj' same rfl
    refine ⟨List.singleton_inj.mp dot, (isStop_iff _).mpr ⟨word, listed, .inl ?_⟩⟩
    rcases unclosed_cases laws s with closed | ⟨longer, -⟩
    · rw [← closed, whole]
    · have blank : word.toList.getLast? = some ' ' := by rw [← whole, longer, List.getLast?_concat]
      exact absurd blank (letters word listed ' ' List.mem_cons_self)

/-! Requests that mean the same. -/

/-- The destination, the target or the query of a request. -/
def slotOf (key : String) (request : StructuredIntent) : Option PyVal :=
  match request.arguments with
  | .dict items => PyVal.lookup key items
  | _ => none

/-- The same intent, with the same slots; the text to remember and the text that was not
understood may differ. -/
structure SameMeaning (x y : StructuredIntent) : Prop where
  intent : y.intent = x.intent
  slots : ∀ key ∈ ["destination", "target", "query"], slotOf key y = slotOf key x

theorem sameMeaning_of_meaning {x y : StructuredIntent} (same : meaning y = meaning x) : SameMeaning x y := by
  have arguments : y.arguments = x.arguments := congrArg Prod.snd same
  refine ⟨congrArg Prod.fst same, fun key _ => ?_⟩
  rw [slotOf, slotOf, arguments]

private theorem same_ite {c c' : Prop} [Decidable c] [Decidable c'] {yes no yes' no' : StructuredIntent}
    (agree : c' ↔ c) (first : meaning yes' = meaning yes) (rest : ¬ c → meaning no' = meaning no) :
    meaning (if c' then yes' else no') = meaning (if c then yes else no) := by
  by_cases holds : c
  · rw [if_pos holds, if_pos (agree.mpr holds)]
    exact first
  · rw [if_neg holds, if_neg fun holds' => holds (agree.mp holds')]
    exact rest holds

/-- What the rules before those for memory and motion hear does not change with the mark. -/
structure HeardAlike (text : PyText) (t t' : String) : Prop where
  emergency : isEmergencyStop t' = isEmergencyStop t
  stop : isStop text t' = isStop text t
  cancel : (hears text cancelPattern t' && !containsText "don't" t') =
    (hears text cancelPattern t && !containsText "don't" t)
  why : (mentions text ["why"] t' && hears text whyNotPattern t') =
    (mentions text ["why"] t && hears text whyNotPattern t)
  places : containsText "where can you go" t' = containsText "where can you go" t
  words : ∀ ws, mentions text ws t' = mentions text ws t

theorem heardAlike (laws : text.Lawful) (ends : Mark text mark m) {s : String}
    (part : normalized text s ∉ wholePhrases) (moves : isStop text (normalized text s) = false) :
    HeardAlike text (normalized text s) (normalized text (s ++ mark)) where
  emergency := by
    have whole : ∀ t, decide (t ∈ ["e-stop", "estop", "kill power"]) = decide (t ∈ wholePhrases) := fun _ => rfl
    rw [isEmergencyStop, isEmergencyStop, @contains_marked text mark m laws ends _ 'p' rfl (by decide), whole, whole,
      decide_eq_false part, decide_eq_false (not_whole_marked laws ends s)]
  stop := by
    rw [moves]
    refine Bool.eq_false_iff.mpr fun stop => ?_
    rw [(isStop_marked laws ends stop).2] at moves
    cases moves
  cancel := by
    rw [hears_marked laws ends closes_cancel, @contains_marked text mark m laws ends _ 't' rfl (by decide)]
  why := by rw [mentions_marked laws ends, hears_marked laws ends (closes_whyNot laws)]
  places := @contains_marked text mark m laws ends _ 'o' rfl (by decide) s
  words := fun ws => mentions_marked laws ends ws s

theorem HeardAlike.captured {t t' : String} (alike : HeardAlike text t t') :
    captured text t' = captured text t := by
  have lists : (fun ws => mentions text ws t') = fun ws => mentions text ws t := funext alike.words
  rw [Rules.captured, Rules.captured, alike.emergency, alike.stop, alike.cancel, alike.why, alike.places, lists]

/-- A text that one of those rules takes is taken by the same rule with the mark. -/
theorem HeardAlike.parse {s s' : String} (alike : HeardAlike text (normalized text s) (normalized text s'))
    (taken : Rules.captured text (normalized text s) = true) :
    meaning (OfflineParser.parse text s') = meaning (OfflineParser.parse text s) := by
  have same {b b' : Bool} (equal : b' = b) : b' = true ↔ b = true := by rw [equal]
  unfold OfflineParser.parse parseCommand
  refine same_ite (same alike.emergency) rfl fun emergency => ?_
  refine same_ite (same (alike.words _)) rfl fun silence => ?_
  refine same_ite (same alike.stop) rfl fun stop => ?_
  refine same_ite (same alike.cancel) rfl fun cancel => ?_
  refine same_ite (same (alike.words _)) rfl fun shutdown => ?_
  refine same_ite (same (alike.words _)) rfl fun reboot => ?_
  refine same_ite (same (alike.words _)) rfl fun idle => ?_
  refine same_ite (same (alike.words _)) rfl fun battery => ?_
  refine same_ite (same (alike.words _)) rfl fun temperature => ?_
  refine same_ite (same (alike.words _)) rfl fun wrong => ?_
  refine same_ite (same (alike.words _)) rfl fun task => ?_
  refine same_ite (same alike.why) rfl fun why => ?_
  refine same_ite (same (alike.words _)) rfl fun help => ?_
  refine same_ite (same (alike.words _)) rfl fun scene => ?_
  refine same_ite (same (by rw [alike.words, alike.places])) rfl fun places => ?_
  refine same_ite (same (alike.words _)) rfl fun status => ?_
  simp only [Bool.not_eq_true] at *
  simp only [Bool.or_eq_false_iff] at places
  simp only [Rules.captured, heardWords, List.any_cons, List.any_nil, emergency, silence, stop, cancel, shutdown,
    reboot, idle, battery, temperature, wrong, task, why, help, scene, places, status, Bool.or_false,
    Bool.false_eq_true] at taken

end DroidOs.Language.Punctuation
