/- GID: DroidOs/Language/BrokenOff
   generality: I
   source: src/droidos/language/offline_parser.py
   digest: A mark at the end changes what a text asks for where the text breaks off before a slot. -/

import DroidOs.Language.Punctuation
import DroidOs.Language.Slots

set_option autoImplicit false
set_option relaxedAutoImplicit false

namespace DroidOs.Language.BrokenOff

open DroidOs.Lib.Regex DroidOs.Lib.Regex.Pattern
open DroidOs.Core.Values DroidOs.Core.Values.PyText DroidOs.Core.Words
open Intent OfflineParser Rules Slots Punctuation

variable (text : PyText)

/-! Where the words that open a slot stand. -/

/-- Nowhere. -/
def Absent (matches_ : List Char → List Cursor) (u : List Char) : Prop := matches_ u = []

/-- In the way that is tried first, the slot would begin at the end. -/
def Empties (matches_ : List Char → List Cursor) (u : List Char) : Prop :=
  ∃ d, (matches_ u).head? = some d ∧ d.rest = []

/-- In the way that is tried first, something is left for the slot. -/
def Leaves (matches_ : List Char → List Cursor) (u : List Char) : Prop :=
  ∃ d, (matches_ u).head? = some d ∧ d.more = true

theorem standing (matches_ : List Char → List Cursor) (u : List Char) :
    Absent matches_ u ∨ Empties matches_ u ∨ Leaves matches_ u := by
  rcases first : (matches_ u).head? with _ | d
  · exact .inl (List.head?_eq_none_iff.mp first)
  · cases left : d.more with
    | true => exact .inr (.inr ⟨d, first, left⟩)
    | false => exact .inr (.inl ⟨d, first, Cursor.more_eq_false.mp left⟩)

/-- The words that open what is to be remembered stand at the beginning of a text, and no line ends there. -/
def Tells (v : List Char) : Prop :=
  ∃ d ∈ run text.isWord text.sameIgnoringCase (sequence rememberOpening) { before := [], rest := v },
    d.rest.head? ≠ some '\n'

/-- The typed text without the blanks at its beginning. -/
def typed (t : String) : List Char := t.toList.dropWhile text.isSpace

/-- A text breaks off where the first rule for it begins its slot: by the rules in their order,
on the text that they read. -/
inductive BreaksOff (t : String) : Prop
  | forget (here : Empties (atStart text forgetOpening) (unclosed text t))
  | remember (forget : Absent (atStart text forgetOpening) (unclosed text t)) (tells : Tells text (typed text t))
      (here : startIgnoringCase text rememberPattern (text.strip t) = none)
  | inspectThere (forget : Absent (atStart text forgetOpening) (unclosed text t))
      (remember : ¬ Tells text (typed text t)) (here : Empties (within text inspectThereOpening) (unclosed text t))
  | inspect (forget : Absent (atStart text forgetOpening) (unclosed text t)) (remember : ¬ Tells text (typed text t))
      (there : Absent (within text inspectThereOpening) (unclosed text t))
      (here : Empties (atStart text inspectOpening) (unclosed text t))
  | navigate (forget : Absent (atStart text forgetOpening) (unclosed text t)) (remember : ¬ Tells text (typed text t))
      (there : Absent (within text inspectThereOpening) (unclosed text t))
      (inspect : Absent (atStart text inspectOpening) (unclosed text t))
      (charge : asksCharge text (normalized text t) = false)
      (stairs : hears text stairsPattern (normalized text t) = false)
      (here : Empties (atStart text navigateOpening) (unclosed text t))

variable {text} {mark : String} {m : Char} {t : String}

/-! The rule for remembering, which reads the typed text. -/

/-- The rule takes something behind its opening words. -/
private def Told (text : PyText) (v : List Char) : Prop :=
  ∃ d ∈ run text.isWord text.sameIgnoringCase (sequence rememberOpening) { before := [], rest := v },
    ∃ first ∈ d.rest.head?, first ≠ '\n'

private theorem told_raw_iff (raw : String) :
    (startIgnoringCase text rememberPattern raw).isSome = true ↔ Told text raw.toList := by
  rw [startIgnoringCase, matchStart, Option.isSome_map, List.isSome_head?, rememberPattern_eq, run_sequence_append]
  constructor
  · intro some_match
    obtain ⟨d, taken⟩ := List.exists_mem_of_ne_nil _ some_match
    obtain ⟨mid, first, second⟩ := List.mem_flatMap.mp taken
    rw [run_sequence_single] at second
    exact ⟨mid, first, run_slot_ne_nil.mp (List.ne_nil_of_mem second)⟩
  · rintro ⟨mid, first, visible⟩
    have some_slot : run text.isWord text.sameIgnoringCase (slot true) mid ≠ [] := run_slot_ne_nil.mpr visible
    obtain ⟨d, taken⟩ := List.exists_mem_of_ne_nil _ some_slot
    rw [← run_sequence_single] at taken
    exact List.ne_nil_of_mem (List.mem_flatMap.mpr ⟨mid, first, taken⟩)

private theorem mem_opening_longer {x : Char} (outside : text.isWord x = false) {r : Pattern} {v : List Char} {d : Cursor} :
    d ∈ run text.isWord text.sameIgnoringCase r { before := [], rest := v ++ [x] } ∧ d.more = true ↔
      ∃ e ∈ run text.isWord text.sameIgnoringCase r { before := [], rest := v }, e.longer x = d := by
  have places : (run text.isWord text.sameIgnoringCase r { before := [], rest := v ++ [x] }).filter Cursor.more =
      (run text.isWord text.sameIgnoringCase r { before := [], rest := v }).map (Cursor.longer x) :=
    grows_run r v x outside
  rw [← List.mem_filter, places, List.mem_map]

private theorem Told.append {v : List Char} (told : Told text v) {tail : List Char}
    (blanks : ∀ c ∈ tail, text.isWord c = false) : Told text (v ++ tail) := by
  induction tail generalizing v with
  | nil => rwa [List.append_nil]
  | cons x tail ih =>
    rw [List.append_cons]
    refine ih ?_ fun c inside => blanks c (List.mem_cons_of_mem x inside)
    obtain ⟨d, taken, first, here, visible⟩ := told
    obtain ⟨longer, -⟩ := (mem_opening_longer (blanks x List.mem_cons_self)).mpr ⟨d, taken, rfl⟩
    refine ⟨d.longer x, longer, first, ?_, visible⟩
    rw [Cursor.longer_rest, List.head?_append, here]
    rfl

/-- What is told is told also in the text with its blanks at the end. -/
private theorem tells_of_told (laws : text.Lawful) (told : Told text (text.strip t).toList) :
    Tells text (typed text t) := by
  have cut : (text.strip t).toList ++ (typed text t).rtakeWhile text.isSpace = typed text t := by
    rw [PyText.strip, String.toList_ofList]
    exact List.rdropWhile_append_rtakeWhile
  have blanks : ∀ c ∈ (typed text t).rtakeWhile text.isSpace, text.isWord c = false := by
    intro c inside
    refine Bool.eq_false_iff.mpr fun word => ?_
    have blank := List.mem_rtakeWhile_imp inside
    rw [laws.words c word] at blank
    cases blank
  obtain ⟨d, taken, first, here, visible⟩ := told.append blanks
  rw [cut] at taken
  refine ⟨d, taken, fun line => visible ?_⟩
  rw [here] at line
  exact Option.some.inj line

private theorem strip_marked (ends : Mark text mark m) (t : String) :
    (text.strip (t ++ mark)).toList = typed text t ++ [m] := by
  have front : (t.toList ++ [m]).dropWhile text.isSpace = typed text t ++ [m] := by
    rw [typed, List.dropWhile_append]
    split
    case isTrue nothing =>
      rw [List.isEmpty_iff.mp nothing, List.dropWhile_cons_of_neg (by rw [ends.visible]; exact Bool.false_ne_true)]
      rfl
    case isFalse => rfl
  rw [PyText.strip, String.toList_ofList, String.toList_append, ends.chars, front, List.reverse_append,
    List.reverse_singleton, List.singleton_append,
    List.dropWhile_cons_of_neg (by rw [ends.visible]; exact Bool.false_ne_true), List.reverse_cons, List.reverse_reverse]

/-- With a mark, the rule takes what its opening words stand before. -/
private theorem told_marked (laws : text.Lawful) (ends : Mark text mark m) :
    (startIgnoringCase text rememberPattern (text.strip (t ++ mark))).isSome = true ↔ Tells text (typed text t) := by
  have line : m ≠ '\n' := by
    rintro rfl
    have visible := ends.visible
    rw [laws.line] at visible
    cases visible
  rw [told_raw_iff, strip_marked ends]
  constructor
  · rintro ⟨d, taken, first, here, visible⟩
    have left : d.more = true := by
      refine eq_true_of_ne_false fun nothing => ?_
      rw [Cursor.more_eq_false.mp nothing] at here
      cases here
    obtain ⟨e, inside, rfl⟩ := (mem_opening_longer ends.outside).mp ⟨taken, left⟩
    refine ⟨e, inside, fun newline => visible ?_⟩
    rw [Cursor.longer_rest, List.head?_append, newline] at here
    exact (Option.some.inj here).symm
  · rintro ⟨e, inside, silent⟩
    obtain ⟨longer, -⟩ := (mem_opening_longer ends.outside).mpr ⟨e, inside, rfl⟩
    refine ⟨e.longer m, longer, ?_⟩
    rw [Cursor.longer_rest]
    rcases rest : e.rest with _ | ⟨c, rest'⟩
    · exact ⟨m, rfl, line⟩
    · rw [rest] at silent
      exact ⟨c, rfl, fun newline => silent (by rw [newline]; rfl)⟩

/-! The rules that read the normalized text. -/

/-- What the text and the text with a mark have in common, for the rules behind those that hear words. -/
private structure Pair (text : PyText) (t t' : String) (m : Char) : Prop where
  laws : text.Lawful
  sentence : Sentence text (normalized text t).toList
  ends : unclosed text t = (normalized text t).toList ∨ unclosed text t = (normalized text t).toList ++ [' ']
  marked : (normalized text t').toList = unclosed text t ++ [m]
  outside : text.isWord m = false
  visible : text.isSpace m = false
  closing : m ∈ closers
  line : '\n' ∉ (normalized text t').toList
  told : (startIgnoringCase text rememberPattern (text.strip t')).isSome = true ↔ Tells text (typed text t)
  charge : asksCharge text (normalized text t') = asksCharge text (normalized text t)
  stairs : hears text stairsPattern (normalized text t') = hears text stairsPattern (normalized text t)

private theorem pair (laws : text.Lawful) (ends : Mark text mark m) (t : String) : Pair text t (t ++ mark) m where
  laws := laws
  sentence := by
    refine ⟨fun c inside => ?_, normalized_last laws t⟩
    rw [normalized_toList laws] at inside
    exact (mem_normalChars inside).imp_right And.right
  ends := (unclosed_cases laws t).imp_right And.left
  marked := marked_toList laws ends t
  outside := ends.outside
  visible := ends.visible
  closing := by
    have inside : ∀ c ∈ ['.', '!'], c ∈ closers := by decide
    exact inside m ends.inside
  line := normalized_line laws _
  told := told_marked laws ends
  charge := by rw [asksCharge, asksCharge, mentions_marked laws ends, mentions_marked laws ends]
  stairs := hears_marked laws ends closes_stairs t

private theorem unclosed_words (laws : text.Lawful) {matches_ : List Char → List Cursor} {captured : Nat}
    (rule : SlotRule text captured matches_) (empties : Empties matches_ (unclosed text t)) :
    PlainTail ((normalized text t).toList ++ [' ']) := by
  obtain ⟨d, first, nothing⟩ := empties
  have tail := rule.tail _ d (List.mem_of_head? first) nothing
  rcases unclosed_cases laws t with closed | ⟨longer, -⟩
  · obtain ⟨front, letters, cut, -, last, -⟩ := tail
    refine absurd ?_ (normalized_last laws t)
    rw [← closed, cut, List.getLast?_append, last]
    rfl
  · rwa [longer] at tail

variable {t' : String}

section

variable (pair : Pair text t t' m) {captured : Nat} {matches_ : List Char → List Cursor}
  (rule : SlotRule text captured matches_)
include pair rule

private theorem Pair.absent (absent : Absent matches_ (unclosed text t)) :
    heard matches_ (normalized text t) = none ∧ heard matches_ (normalized text t') = none :=
  rule.passed pair.outside pair.marked pair.laws pair.ends absent

private theorem Pair.leaves (leaves : Leaves matches_ (unclosed text t)) : ∃ groups groups',
    heard matches_ (normalized text t) = some groups ∧ heard matches_ (normalized text t') = some groups' ∧
      ∀ k, clean text (groupAt groups' k) = clean text (groupAt groups k) := by
  obtain ⟨d, first, left⟩ := leaves
  exact rule.kept pair.outside pair.marked pair.visible pair.closing pair.laws pair.sentence pair.ends first left

/-- The slot is empty with the mark, and no slot of the text is. -/
private theorem Pair.empties (empties : Empties matches_ (unclosed text t)) :
    (∃ groups', heard matches_ (normalized text t') = some groups' ∧ clean text (groupAt groups' captured) = "") ∧
      ∀ {captured} {others : List Char → List Cursor} {groups}, SlotRule text captured others →
        heard others (normalized text t) = some groups → clean text (groupAt groups captured) ≠ "" := by
  have tail := unclosed_words pair.laws rule empties
  obtain ⟨d, first, nothing⟩ := empties
  refine ⟨?_, fun other found => other.slot_ne_nil pair.laws pair.sentence tail found⟩
  have blankless : text.lower "" = "" := pair.laws.lower_plain "" fun c inside => by cases inside
  exact rule.broken pair.outside pair.marked pair.visible pair.closing blankless first nothing

end

private theorem Pair.line_text (pair : Pair text t t' m) : '\n' ∉ (normalized text t).toList :=
  normalized_line pair.laws t

/-! Requests that differ. -/

private theorem differ_name {x y : StructuredIntent} {name : String} {items : PyVal}
    (other : (meaning x).1 ≠ name) (second : meaning y = (name, items)) : ¬ SameMeaning x y := by
  rintro ⟨same, -⟩
  have right : y.intent = name := congrArg Prod.fst second
  exact other (same.symm.trans right)

private theorem differ_intent {x y : StructuredIntent} {name name' : String} {items items' : PyVal}
    (first : meaning x = (name, items)) (second : meaning y = (name', items')) (apart : name ≠ name') :
    ¬ SameMeaning x y := by
  refine differ_name ?_ second
  rw [first]
  exact apart

private theorem differ_slot {x y : StructuredIntent} {name name' : String} {items items' : List (PyVal × PyVal)}
    (first : meaning x = (name, .dict items)) (second : meaning y = (name', .dict items')) (key : String)
    (slot : key ∈ ["destination", "target", "query"]) (apart : PyVal.lookup key items' ≠ PyVal.lookup key items) :
    ¬ SameMeaning x y := by
  rintro ⟨-, slots⟩
  have left : x.arguments = .dict items := congrArg Prod.snd first
  have right : y.arguments = .dict items' := congrArg Prod.snd second
  have same := slots key slot
  rw [slotOf, slotOf, left, right] at same
  exact apart same

private theorem same_slots {x y : StructuredIntent} {name : String} {items items' : List (PyVal × PyVal)}
    (first : meaning x = (name, .dict items)) (second : meaning y = (name, .dict items'))
    (slots : ∀ key ∈ ["destination", "target", "query"], PyVal.lookup key items' = PyVal.lookup key items) :
    SameMeaning x y := by
  have left : x.arguments = .dict items := congrArg Prod.snd first
  have right : y.arguments = .dict items' := congrArg Prod.snd second
  refine ⟨(congrArg Prod.fst second).trans (congrArg Prod.fst first).symm, fun key slot => ?_⟩
  rw [slotOf, slotOf, left, right]
  exact slots key slot

/-- The text to remember and the text that was not understood are no slots. -/
private theorem slotless (v v' : PyVal) : ∀ key ∈ ["destination", "target", "query"],
    PyVal.lookup key [(.str "text", v')] = PyVal.lookup key [(.str "text", v)] := by
  intro key slot
  simp only [List.mem_cons, List.not_mem_nil, or_false] at slot
  rcases slot with rfl | rfl | rfl <;> rfl

private theorem some_str_ne {v : String} (words : v ≠ "") : some (PyVal.str "") ≠ some (.str v) := by
  intro same
  exact words (PyVal.str.inj (Option.some.inj same)).symm

/-- Behind the rules for inspections nothing is inspected. -/
private theorem not_inspects {raw n : String} {y : StructuredIntent} {items' : PyVal}
    (forget : start text forgetPattern n = none) (remember : startIgnoringCase text rememberPattern raw = none)
    (there : find text goAndInspect n = none) (inspect : start text inspectPattern n = none)
    (second : meaning y = ("inspect.named_target", items')) : ¬ SameMeaning (parseRequest text raw n) y := by
  cases charge : asksCharge text n with
  | true => exact differ_intent (parseRequest_charge forget remember there inspect charge) second (by decide)
  | false =>
    cases stairs : hears text stairsPattern n with
    | true => exact differ_intent (parseRequest_stairs forget remember there inspect charge stairs) second (by decide)
    | false =>
      rcases navigate : start text navigatePattern n with _ | groups
      · exact differ_intent (parseRequest_unknown forget remember there inspect charge stairs navigate) second (by decide)
      · exact differ_intent (parseRequest_navigate forget remember there inspect charge stairs navigate) second
          (by decide)

/-! What is asked for with a mark. -/

section

variable (pair : Pair text t t' m)
include pair

private theorem Pair.forget_none (absent : Absent (atStart text forgetOpening) (unclosed text t)) :
    start text forgetPattern (normalized text t) = none ∧ start text forgetPattern (normalized text t') = none := by
  rw [forgetPattern_eq, start_heard _ pair.line_text, start_heard _ pair.line]
  exact pair.absent slotRule_forget absent

private theorem Pair.remember_none (silent : ¬ Tells text (typed text t)) :
    startIgnoringCase text rememberPattern (text.strip t) = none ∧
      startIgnoringCase text rememberPattern (text.strip t') = none := by
  constructor
  · refine Option.not_isSome_iff_eq_none.mp fun told => silent ?_
    exact tells_of_told pair.laws ((told_raw_iff _).mp told)
  · exact Option.not_isSome_iff_eq_none.mp fun told => silent (pair.told.mp told)

private theorem Pair.there_none (absent : Absent (within text inspectThereOpening) (unclosed text t)) :
    find text goAndInspect (normalized text t) = none ∧ find text goAndInspect (normalized text t') = none := by
  rw [goAndInspect_eq, find_heard _ pair.line_text, find_heard _ pair.line]
  exact pair.absent slotRule_inspectThere absent

private theorem Pair.inspect_none (absent : Absent (atStart text inspectOpening) (unclosed text t)) :
    start text inspectPattern (normalized text t) = none ∧ start text inspectPattern (normalized text t') = none := by
  rw [inspectPattern_eq, start_heard _ pair.line_text, start_heard _ pair.line]
  exact pair.absent slotRule_inspect absent

/-- A text that does not break off asks for the same with a mark. -/
private theorem Pair.same (whole : ¬ BreaksOff text t) :
    SameMeaning (parseRequest text (text.strip t) (normalized text t))
      (parseRequest text (text.strip t') (normalized text t')) := by
  rcases standing (atStart text forgetOpening) (unclosed text t) with forget | empties | leaves
  case inr.inl => exact absurd (.forget empties) whole
  case inr.inr =>
    obtain ⟨groups, groups', found, found', same⟩ := pair.leaves slotRule_forget leaves
    rw [← start_heard _ pair.line_text, ← forgetPattern_eq] at found
    rw [← start_heard _ pair.line, ← forgetPattern_eq] at found'
    refine sameMeaning_of_meaning ?_
    rw [parseRequest_forget found, parseRequest_forget found', same 0]
  obtain ⟨forget_none, forget_none'⟩ := pair.forget_none forget
  by_cases remember : Tells text (typed text t)
  · obtain ⟨groups', found'⟩ := Option.isSome_iff_exists.mp (pair.told.mpr remember)
    rcases found : startIgnoringCase text rememberPattern (text.strip t) with _ | groups
    · exact absurd (.remember forget remember found) whole
    · exact same_slots (parseRequest_remember forget_none found) (parseRequest_remember forget_none' found')
        (slotless _ _)
  obtain ⟨remember_none, remember_none'⟩ := pair.remember_none remember
  rcases standing (within text inspectThereOpening) (unclosed text t) with there | empties | leaves
  case inr.inl => exact absurd (.inspectThere forget remember empties) whole
  case inr.inr =>
    obtain ⟨groups, groups', found, found', same⟩ := pair.leaves slotRule_inspectThere leaves
    rw [← find_heard _ pair.line_text, ← goAndInspect_eq] at found
    rw [← find_heard _ pair.line, ← goAndInspect_eq] at found'
    refine sameMeaning_of_meaning ?_
    rw [parseRequest_inspectThere forget_none remember_none found,
      parseRequest_inspectThere forget_none' remember_none' found', same 0, same 1]
  obtain ⟨there_none, there_none'⟩ := pair.there_none there
  rcases standing (atStart text inspectOpening) (unclosed text t) with inspect | empties | leaves
  case inr.inl => exact absurd (.inspect forget remember there empties) whole
  case inr.inr =>
    obtain ⟨groups, groups', found, found', same⟩ := pair.leaves slotRule_inspect leaves
    rw [← start_heard _ pair.line_text, ← inspectPattern_eq] at found
    rw [← start_heard _ pair.line, ← inspectPattern_eq] at found'
    refine sameMeaning_of_meaning ?_
    rw [parseRequest_inspect forget_none remember_none there_none found,
      parseRequest_inspect forget_none' remember_none' there_none' found', same 0]
  obtain ⟨inspect_none, inspect_none'⟩ := pair.inspect_none inspect
  cases charge : asksCharge text (normalized text t) with
  | true =>
    refine sameMeaning_of_meaning ?_
    rw [parseRequest_charge forget_none remember_none there_none inspect_none charge,
      parseRequest_charge forget_none' remember_none' there_none' inspect_none' (pair.charge.trans charge)]
  | false =>
    have charge' := pair.charge.trans charge
    cases stairs : hears text stairsPattern (normalized text t) with
    | true =>
      refine sameMeaning_of_meaning ?_
      rw [parseRequest_stairs forget_none remember_none there_none inspect_none charge stairs,
        parseRequest_stairs forget_none' remember_none' there_none' inspect_none' charge' (pair.stairs.trans stairs)]
    | false =>
      have stairs' := pair.stairs.trans stairs
      rcases standing (atStart text navigateOpening) (unclosed text t) with navigate | empties | leaves
      · obtain ⟨none_, none_'⟩ := pair.absent slotRule_navigate navigate
        rw [← start_heard _ pair.line_text, ← navigatePattern_eq] at none_
        rw [← start_heard _ pair.line, ← navigatePattern_eq] at none_'
        exact same_slots (parseRequest_unknown forget_none remember_none there_none inspect_none charge stairs none_)
          (parseRequest_unknown forget_none' remember_none' there_none' inspect_none' charge' stairs' none_')
          (slotless _ _)
      · exact absurd (.navigate forget remember there inspect charge stairs empties) whole
      · obtain ⟨groups, groups', found, found', same⟩ := pair.leaves slotRule_navigate leaves
        rw [← start_heard _ pair.line_text, ← navigatePattern_eq] at found
        rw [← start_heard _ pair.line, ← navigatePattern_eq] at found'
        refine sameMeaning_of_meaning ?_
        rw [parseRequest_navigate forget_none remember_none there_none inspect_none charge stairs found,
          parseRequest_navigate forget_none' remember_none' there_none' inspect_none' charge' stairs' found', same 0]

/-- A text that breaks off asks for something else with a mark: for an empty slot, or for what is to be remembered. -/
private theorem Pair.differ (breaks : BreaksOff text t) :
    ¬ SameMeaning (parseRequest text (text.strip t) (normalized text t))
      (parseRequest text (text.strip t') (normalized text t')) := by
  -- the request without the mark is found by the rules from the broken one on
  cases breaks with
  | forget here =>
    obtain ⟨⟨groups', found', empty⟩, words⟩ := pair.empties slotRule_forget here
    rw [← start_heard _ pair.line, ← forgetPattern_eq] at found'
    have second : meaning (parseRequest text (text.strip t') (normalized text t')) = ("memory.forget",
        .dict [(.str "query", .str (clean text (groupAt groups' 0)))]) := parseRequest_forget found'
    rcases found : start text forgetPattern (normalized text t) with _ | groups
    · exact differ_name (parseRequest_not_forget found) second
    · refine differ_slot (parseRequest_forget found) second "query" (by decide) ?_
      rw [empty]
      rw [forgetPattern_eq, start_heard _ pair.line_text] at found
      exact some_str_ne (words slotRule_forget found)
  | remember forget tells here =>
    obtain ⟨forget_none, forget_none'⟩ := pair.forget_none forget
    obtain ⟨groups', found'⟩ := Option.isSome_iff_exists.mp (pair.told.mpr tells)
    refine differ_name (fun remembers => ?_) (parseRequest_remember forget_none' found')
    have listed := parseRequest_motion forget_none here
    rw [remembers] at listed
    exact absurd listed (by decide)
  | inspectThere forget remember here =>
    obtain ⟨forget_none, forget_none'⟩ := pair.forget_none forget
    obtain ⟨remember_none, remember_none'⟩ := pair.remember_none remember
    obtain ⟨⟨groups', found', empty⟩, words⟩ := pair.empties slotRule_inspectThere here
    rw [← find_heard _ pair.line, ← goAndInspect_eq] at found'
    have second := parseRequest_inspectThere forget_none' remember_none' found'
    rcases there : find text goAndInspect (normalized text t) with _ | groups
    case some =>
      refine differ_slot (parseRequest_inspectThere forget_none remember_none there) second "target" (by decide) ?_
      rw [goAndInspect_eq, find_heard _ pair.line_text] at there
      rw [empty]
      exact some_str_ne (words slotRule_inspectThere there)
    rcases inspect : start text inspectPattern (normalized text t) with _ | groups
    case some =>
      refine differ_slot (parseRequest_inspect forget_none remember_none there inspect) second "target" (by decide) ?_
      rw [inspectPattern_eq, start_heard _ pair.line_text] at inspect
      rw [empty]
      exact some_str_ne (words slotRule_inspect inspect)
    exact not_inspects forget_none remember_none there inspect second
  | inspect forget remember there here =>
    obtain ⟨forget_none, forget_none'⟩ := pair.forget_none forget
    obtain ⟨remember_none, remember_none'⟩ := pair.remember_none remember
    obtain ⟨there_none, there_none'⟩ := pair.there_none there
    obtain ⟨⟨groups', found', empty⟩, words⟩ := pair.empties slotRule_inspect here
    rw [← start_heard _ pair.line, ← inspectPattern_eq] at found'
    have second := parseRequest_inspect forget_none' remember_none' there_none' found'
    rcases inspect : start text inspectPattern (normalized text t) with _ | groups
    case some =>
      refine differ_slot (parseRequest_inspect forget_none remember_none there_none inspect) second "target"
        (by decide) ?_
      rw [inspectPattern_eq, start_heard _ pair.line_text] at inspect
      rw [empty]
      exact some_str_ne (words slotRule_inspect inspect)
    exact not_inspects forget_none remember_none there_none inspect second
  | navigate forget remember there inspect charge stairs here =>
    obtain ⟨forget_none, forget_none'⟩ := pair.forget_none forget
    obtain ⟨remember_none, remember_none'⟩ := pair.remember_none remember
    obtain ⟨there_none, there_none'⟩ := pair.there_none there
    obtain ⟨inspect_none, inspect_none'⟩ := pair.inspect_none inspect
    obtain ⟨⟨groups', found', empty⟩, words⟩ := pair.empties slotRule_navigate here
    rw [← start_heard _ pair.line, ← navigatePattern_eq] at found'
    have second := parseRequest_navigate forget_none' remember_none' there_none' inspect_none'
      (pair.charge.trans charge) (pair.stairs.trans stairs) found'
    rcases navigate : start text navigatePattern (normalized text t) with _ | groups
    · exact differ_intent (parseRequest_unknown forget_none remember_none there_none inspect_none charge stairs navigate)
        second (by decide)
    · refine differ_slot
        (parseRequest_navigate forget_none remember_none there_none inspect_none charge stairs navigate) second
        "destination" (by decide) ?_
      rw [navigatePattern_eq, start_heard _ pair.line_text] at navigate
      rw [empty]
      exact some_str_ne (words slotRule_navigate navigate)

end

end DroidOs.Language.BrokenOff
