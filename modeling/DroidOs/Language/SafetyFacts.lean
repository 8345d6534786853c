/- GID: DroidOs/Language/SafetyFacts
   generality: I
   source: src/droidos/language/personality.py, src/droidos/language/service.py
   digest: When a terse identity tells the safety facts that another identity tells. -/

import DroidOs.Language.Renderer

set_option autoImplicit false
set_option relaxedAutoImplicit false

namespace DroidOs.Language.SafetyFacts

open DroidOs.Core.Values DroidOs.Core.Values.PyText DroidOs.Core.Context
open Wording Renderer

/-! The facts of a result. -/

/-- That movement is disabled, with the reasons, and each reason. -/
def disabled (opening : String) : Except Exn (List String) → List String
  | .ok (reason :: reasons) => (opening ++ "; ".intercalate (reason :: reasons)) :: reason :: reasons
  | _ => []

/-- The facts of a status. -/
def statusFacts (d : Items) : List String :=
  if (field d "motion_permitted").truthy then []
  else match disabled "Movement is disabled: " (texts (inhibited d)) with
    | [] => ["Movement is not currently permitted"]
    | facts => facts

/-- The facts of an explanation. -/
def explanationFacts (d : Items) : List String :=
  if (field d "topic").isKey "current_task" then []
  else if (field d "estop").truthy then ["Movement is disabled because an emergency stop is engaged"]
  else disabled "Movement is disabled because: " (texts (inhibited d))

variable (text : PyText)

/-- Whether the hottest joint of the result is at its fault threshold. -/
def overFault (d : Items) : Bool :=
  match (do return (← (← item text (.dict d) "fault_c").number).le (← (← item text (field d "hottest") "temp_c").number) :
      Except Exn Bool) with
  | .ok exceeding => exceeding
  | .error _ => false

/-- The facts of a report on temperatures. -/
def temperatureFacts (d : Items) : List String :=
  if (field d "hottest").truthy && overFault text d then ["It has exceeded its fault threshold"] else []

def safetyFacts (r : TaskResult) : List String :=
  if r.kind = "robot.get_status" then statusFacts r.data
  else if r.kind = "robot.explain" then explanationFacts r.data
  else temperatureFacts text r.data

/-! What stands first. -/

/-- The sentence with which a status begins. -/
def introduction (d : Items) : String := "I am " ++ text.str (field d "name" (.str "the droid")) ++ "."

/-- The sentence with which a report on temperatures begins. -/
def warmestLine (d : Items) : Except Exn String := do
  let hot := field d "hottest"
  let name ← item text hot "name"
  let shown ← formatted text 1 (← item text hot "temp_c")
  let warn ← formatted text 0 (← item text (.dict d) "warn_c")
  let fault ← formatted text 0 (← item text (.dict d) "fault_c")
  return warmest (text.str name) shown warn fault

/-- One line, no full stop before a blank, and not two full stops at the end. -/
def Unbroken (w : String) : Prop := '\n' ∉ w.toList ∧ ¬ ['.', ' '] <:+: w.toList ∧ ¬ ['.', '.'] <:+ w.toList

/-- The facts stand in the first sentence: an emergency stop always does, inhibit reasons if they are one
sentence, and the facts of a status or of temperatures only if a name has them. -/
structure Foremost (r : TaskResult) : Prop where
  status : r.kind = "robot.get_status" →
    ∀ fact ∈ statusFacts r.data, containsText fact (firstSentence text (introduction text r.data)) = true
  explanation : r.kind = "robot.explain" → (field r.data "estop").truthy = false →
    ∀ fact ∈ (explanationFacts r.data).head?, Unbroken fact
  temperature : r.kind = "robot.get_temperature" → ∀ fact ∈ temperatureFacts text r.data,
    ∀ line, warmestLine text r.data = .ok line → containsText fact (firstSentence text line) = true

/-- The kinds of results that report on the droid itself. -/
def reportKinds : List String := ["robot.get_status", "robot.explain", "robot.get_temperature"]

variable {text} {r : TaskResult} {d : Items} {said : String}

/-! Two identities. -/

/-- Two identities tell the same of what a text tells, if both or none of them is terse, or the facts
stand in the first sentence. -/
private theorem trim_same {facts : List String} (told : ∀ fact ∈ facts, containsText fact said = true)
    (p q : Personality) :
    (∀ fact ∈ facts, containsText fact (p.trim text said) = containsText fact (q.trim text said)) ↔
      p.verbosity.isKey "terse" = q.verbosity.isKey "terse" ∨
        ∀ fact ∈ facts, containsText fact (firstSentence text said) = true := by
  rw [p.trim_eq, q.trim_eq]
  cases p.verbosity.isKey "terse" <;> cases q.verbosity.isKey "terse"
  · exact iff_of_true (fun _ _ => rfl) (.inl rfl)
  · constructor
    · intro same
      exact .inr fun fact inside => (same fact inside).symm.trans (told fact inside)
    · intro kept fact inside
      have kept := kept.resolve_left Bool.false_ne_true
      exact (told fact inside).trans (kept fact inside).symm
  · constructor
    · intro same
      exact .inr fun fact inside => (same fact inside).trans (told fact inside)
    · intro kept fact inside
      have kept := kept.resolve_left (Bool.false_ne_true ∘ Eq.symm)
      exact (kept fact inside).trans (told fact inside).symm
  · exact iff_of_true (fun _ _ => rfl) (.inl rfl)

/-! Texts of several sentences. -/

private theorem infix_intercalate (sep : String) {line : String} {lines : List String} (inside : line ∈ lines) :
    line.toList <:+: (sep.intercalate lines).toList := by
  rw [String.toList_intercalate]
  induction lines with
  | nil => cases inside
  | cons first lines ih =>
    rcases List.mem_cons.mp inside with rfl | later
    · rcases lines with _ | ⟨next, lines⟩
      · simp
      · rw [List.map_cons, List.map_cons, List.intercalate_cons_cons, List.append_assoc]
        exact (List.prefix_append _ _).isInfix
    · rcases lines with _ | ⟨next, lines⟩
      · cases later
      · rw [List.map_cons, List.map_cons, List.intercalate_cons_cons]
        exact (ih later).trans (List.suffix_append _ _).isInfix

private theorem last_intercalate {lines : List String} {c : Char} (some_line : lines ≠ [])
    (ends : ∀ line ∈ lines, line.toList.getLast? = some c) : (" ".intercalate lines).toList.getLast? = some c := by
  rw [String.toList_intercalate]
  induction lines with
  | nil => exact absurd rfl some_line
  | cons first lines ih =>
    rcases lines with _ | ⟨next, lines⟩
    · simpa using ends first List.mem_cons_self
    · rw [List.map_cons, List.map_cons, List.intercalate_cons_cons, List.getLast?_append]
      have behind := ih (List.cons_ne_nil next lines) fun line inside => ends line (List.mem_cons_of_mem first inside)
      rw [List.map_cons] at behind
      rw [behind]
      rfl

private theorem strip_eq (laws : text.Lawful) {s : String} {c : Char} (first : s.toList.head? = some c)
    (letter : c.isAlpha = true) (last : s.toList.getLast? = some '.') : text.strip s = s := by
  refine strip_eq_self ?_ ?_
  · intro d here
    obtain rfl := Option.some.inj (first.symm.trans here)
    exact laws.words c (laws.letters c letter)
  · intro d here
    obtain rfl := Option.some.inj (last.symm.trans here)
    exact laws.visible '.' List.mem_cons_self

/-! A status. -/

private theorem ends_stop (s : String) : (s ++ ".").toList.getLast? = some '.' := by
  rw [String.toList_append]
  exact List.getLast?_concat

private theorem motionLine_ends {motion : String} (given : motionLine d = .ok motion) :
    motion.toList.getLast? = some '.' := by
  unfold motionLine at given
  split at given
  case isTrue =>
    obtain rfl := Except.ok.inj given
    decide
  case isFalse =>
    split at given
    case isTrue =>
      obtain ⟨reasons, -, given⟩ := except_bind_ok given
      obtain rfl := Except.ok.inj given
      exact ends_stop _
    case isFalse =>
      obtain rfl := Except.ok.inj given
      decide

/-- A status begins with the introduction, has the line about motion and ends in a full stop. -/
private theorem status_lines (given : rGetStatus text d = .ok said) : ∃ motion lines,
    motionLine d = .ok motion ∧ motion ∈ lines ∧ (∀ line ∈ lines, line.toList.getLast? = some '.') ∧
      said = " ".intercalate (("I am " ++ text.str (field d "name" (.str "the droid")) ++ ". Current state: " ++
        text.str (field d "state") ++ ".") :: lines) := by
  unfold rGetStatus at given
  obtain ⟨battery, charge, given⟩ := except_bind_ok given
  obtain ⟨motion, moves, given⟩ := except_bind_ok given
  obtain ⟨note, notes, given⟩ := except_bind_ok given
  obtain rfl := Except.ok.inj given
  refine ⟨motion, battery ++ motion :: note, moves, List.mem_append_right _ List.mem_cons_self, ?_, rfl⟩
  have charged : ∀ line ∈ battery, line.toList.getLast? = some '.' := by
    intro line inside
    unfold chargeLine at charge
    split at charge
    · obtain rfl := Except.ok.inj charge
      cases inside
    · obtain ⟨percent, -, charge⟩ := except_bind_ok charge
      obtain rfl := Except.ok.inj charge
      obtain rfl := List.mem_singleton.mp inside
      rw [String.toList_append, List.getLast?_append]
      rfl
  have noted : ∀ line ∈ note, line.toList.getLast? = some '.' := by
    intro line inside
    unfold motorNote at notes
    split at notes
    case isTrue =>
      obtain ⟨level, -, notes⟩ := except_bind_ok notes
      split at notes
      case isTrue =>
        obtain rfl := Except.ok.inj notes
        cases inside
      case isFalse =>
        obtain ⟨message, -, notes⟩ := except_bind_ok notes
        obtain rfl := Except.ok.inj notes
        obtain rfl := List.mem_singleton.mp inside
        exact ends_stop _
    case isFalse =>
      obtain rfl := Except.ok.inj notes
      cases inside
  intro line inside
  rcases List.mem_append.mp inside with here | later
  · exact charged line here
  rcases List.mem_cons.mp later with rfl | later
  · exact motionLine_ends moves
  · exact noted line later

private theorem mapM_ne_nil {α β : Type} {f : α → Except Exn β} {xs : List α} {ys : List β} (some_item : xs ≠ [])
    (given : xs.mapM f = .ok ys) : ys ≠ [] := by
  rcases xs with _ | ⟨x, xs⟩
  · exact absurd rfl some_item
  · rw [List.mapM_cons] at given
    obtain ⟨y, -, given⟩ := except_bind_ok given
    obtain ⟨ys, -, given⟩ := except_bind_ok given
    obtain rfl := Except.ok.inj given
    exact List.cons_ne_nil y ys

/-- The texts of reasons that count as true are some. -/
private theorem inhibited_some {reasons : List String} (some_reason : (inhibited d).truthy = true)
    (given : texts (inhibited d) = .ok reasons) : reasons ≠ [] := by
  obtain ⟨items, listed, given⟩ := except_bind_ok given
  refine mapM_ne_nil ?_ given
  rintro rfl
  cases value : inhibited d with
  | str v =>
    rw [value] at listed some_reason
    have nothing := Except.ok.inj listed
    rw [List.map_eq_nil_iff] at nothing
    rw [PyVal.truthy, decide_eq_true_eq] at some_reason
    exact some_reason (String.toList_inj.mp nothing)
  | list items =>
    rw [value] at listed some_reason
    obtain rfl := Except.ok.inj listed
    cases some_reason
  | dict items =>
    rw [value] at listed some_reason
    have nothing := Except.ok.inj listed
    rw [List.map_eq_nil_iff] at nothing
    rw [nothing] at some_reason
    cases some_reason
  | _ =>
    rw [value] at listed
    cases listed

private theorem inhibited_none (no_reason : (inhibited d).truthy = false) : texts (inhibited d) = .ok [] := by
  have empty : inhibited d = .list [] := by
    unfold inhibited PyVal.orElse at no_reason ⊢
    split
    case isTrue holds =>
      rw [if_pos holds, holds] at no_reason
      cases no_reason
    case isFalse => rfl
  rw [empty]
  rfl

private theorem disabled_told (opening : String) {reasons : List String} (some_reason : reasons ≠ []) :
    disabled opening (.ok reasons) = (opening ++ "; ".intercalate reasons) :: reasons ∧
      ∀ fact ∈ disabled opening (.ok reasons), fact.toList <:+: (opening ++ "; ".intercalate reasons).toList := by
  rcases reasons with _ | ⟨reason, reasons⟩
  · exact absurd rfl some_reason
  · refine ⟨rfl, fun fact inside => ?_⟩
    rcases List.mem_cons.mp inside with rfl | listed
    · exact List.infix_refl _
    · rw [String.toList_append]
      exact (infix_intercalate "; " listed).trans (List.suffix_append _ _).isInfix

/-- The line about motion tells the facts of a status. -/
private theorem motionLine_told {motion : String} (given : motionLine d = .ok motion) :
    ∀ fact ∈ statusFacts d, fact.toList <:+: motion.toList := by
  intro fact inside
  unfold motionLine at given
  unfold statusFacts at inside
  split at given
  case isTrue permitted =>
    rw [if_pos permitted] at inside
    cases inside
  case isFalse stopped =>
    rw [if_neg stopped] at inside
    split at given
    case isTrue some_reason =>
      obtain ⟨reasons, listed, given⟩ := except_bind_ok given
      obtain rfl := Except.ok.inj given
      obtain ⟨facts, told⟩ := disabled_told "Movement is disabled: " (inhibited_some some_reason listed)
      rw [listed, facts] at inside
      rw [facts] at told
      have inner := told fact inside
      rw [String.toList_append]
      exact inner.trans (List.prefix_append _ _).isInfix
    case isFalse no_reason =>
      obtain rfl := Except.ok.inj given
      rw [inhibited_none (Bool.eq_false_iff.mpr no_reason)] at inside
      obtain rfl := List.mem_singleton.mp inside
      decide

private theorem status_told (given : rGetStatus text d = .ok said) :
    ∀ fact ∈ statusFacts d, containsText fact said = true := by
  obtain ⟨motion, lines, moves, inside, -, rfl⟩ := status_lines given
  intro fact listed
  rw [containsText_iff]
  exact (motionLine_told moves fact listed).trans (infix_intercalate " " (List.mem_cons_of_mem _ inside))

private theorem status_first (laws : text.Lawful) (given : rGetStatus text d = .ok said) :
    firstSentence text said = firstSentence text (introduction text d) := by
  obtain ⟨motion, lines, -, inside, ends, rfl⟩ := status_lines given
  obtain ⟨next, lines, rfl⟩ := List.exists_cons_of_ne_nil (List.ne_nil_of_mem inside)
  have starts : ∃ rest, (" ".intercalate (("I am " ++ text.str (field d "name" (.str "the droid")) ++ ". Current state: " ++
      text.str (field d "state") ++ ".") :: next :: lines)).toList =
        ("I am " ++ text.str (field d "name" (.str "the droid"))).toList ++ '.' :: ' ' :: rest := by
    rw [String.toList_intercalate, List.map_cons, List.map_cons, List.intercalate_cons_cons, String.toList_append,
      String.toList_append, String.toList_append, List.append_assoc, List.append_assoc, List.append_assoc,
      List.append_assoc]
    exact ⟨_, rfl⟩
  obtain ⟨rest, starts⟩ := starts
  have head (tail : List Char) : (("I am " ++ text.str (field d "name" (.str "the droid"))).toList ++ tail).head? =
      some 'I' := by
    rw [String.toList_append, List.append_assoc]
    rfl
  have short : (introduction text d).toList = ("I am " ++ text.str (field d "name" (.str "the droid"))).toList ++ ['.'] :=
    String.toList_append
  refine firstSentence_lead ?_ ?_ starts short
  · refine strip_eq laws (by rw [starts, head]) (by decide) (last_intercalate (List.cons_ne_nil _ _) fun line listed => ?_)
    rcases List.mem_cons.mp listed with rfl | later
    · exact ends_stop _
    · exact ends line later
  · exact strip_eq laws (by rw [short, head]) (by decide) (by rw [short, List.getLast?_concat])

/-! An explanation. -/

private theorem estop_first (laws : text.Lawful) : containsText "Movement is disabled because an emergency stop is engaged"
    (firstSentence text (estopStatement ++ " Motor power has been removed.")) = true := by
  have bare (s : String) (first : s.toList.head? = some 'M') (last : s.toList.getLast? = some '.') :
      text.strip s = s := strip_eq laws first (by decide) last
  have lead : firstSentence text (estopStatement ++ " Motor power has been removed.") =
      firstSentence text estopStatement := by
    have long : (estopStatement ++ " Motor power has been removed.").toList =
        "Movement is disabled because an emergency stop is engaged".toList ++ '.' :: ' ' ::
          "Motor power has been removed.".toList := by decide
    exact firstSentence_lead (bare _ (by decide) (by decide)) (bare _ (by decide) (by decide)) long (by decide)
  rw [lead]
  refine (firstSentence_whole (bare _ (by decide) (by decide)) (by decide)).mpr ⟨?_, ?_, ?_⟩
  · decide
  · decide
  · decide

private theorem explanation_told (laws : text.Lawful) (given : rExplain text d = .ok said) :
    (∀ fact ∈ explanationFacts d, containsText fact said = true) ∧
      ((∀ fact ∈ explanationFacts d, containsText fact (firstSentence text said) = true) ↔
        ((field d "estop").truthy = false → ∀ fact ∈ (explanationFacts d).head?, Unbroken fact)) := by
  have silent (none_ : explanationFacts d = []) : (∀ fact ∈ explanationFacts d, containsText fact said = true) ∧
      ((∀ fact ∈ explanationFacts d, containsText fact (firstSentence text said) = true) ↔
        ((field d "estop").truthy = false → ∀ fact ∈ (explanationFacts d).head?, Unbroken fact)) := by
    rw [none_]
    refine ⟨fun fact inside => (by cases inside), iff_of_true (fun fact inside => (by cases inside)) ?_⟩
    intro _ fact inside
    cases inside
  unfold rExplain at given
  split at given
  case isTrue topic => exact silent (if_pos topic)
  case isFalse topic =>
    split at given
    case isTrue engaged =>
      obtain rfl := Except.ok.inj given
      have facts : explanationFacts d = ["Movement is disabled because an emergency stop is engaged"] := by
        rw [explanationFacts, if_neg topic, if_pos engaged]
      rw [facts]
      refine ⟨fun fact inside => ?_, iff_of_true (fun fact inside => ?_) ?_⟩
      · obtain rfl := List.mem_singleton.mp inside
        rw [containsText_iff]
        decide
      · obtain rfl := List.mem_singleton.mp inside
        exact estop_first laws
      · intro free
        rw [engaged] at free
        cases free
    case isFalse free =>
      split at given
      case isTrue some_reason =>
        obtain ⟨reasons, listed, given⟩ := except_bind_ok given
        obtain rfl := Except.ok.inj given
        obtain ⟨facts, told⟩ := disabled_told "Movement is disabled because: "
          (inhibited_some some_reason listed)
        have own : explanationFacts d = disabled "Movement is disabled because: " (.ok reasons) := by
          rw [explanationFacts, if_neg topic, if_neg free, listed]
        rw [own]
        have ends : ("Movement is disabled because: " ++ "; ".intercalate reasons ++ ".").toList =
            ("Movement is disabled because: " ++ "; ".intercalate reasons).toList ++ ['.'] := String.toList_append
        have bare : text.strip ("Movement is disabled because: " ++ "; ".intercalate reasons ++ ".") =
            "Movement is disabled because: " ++ "; ".intercalate reasons ++ "." := by
          refine strip_eq laws (c := 'M') ?_ (by decide) (ends_stop _)
          rw [String.toList_append, String.toList_append, List.append_assoc]
          rfl
        have whole := firstSentence_whole bare ends
        refine ⟨fun fact inside => ?_, ?_⟩
        · rw [containsText_iff, ends]
          exact (told fact inside).trans (List.prefix_append _ _).isInfix
        · constructor
          · intro kept _ fact first
            rw [facts] at first kept
            obtain rfl := Option.some.inj first
            exact whole.mp (kept _ List.mem_cons_self)
          · intro unbroken fact inside
            have statement := whole.mpr (unbroken (Bool.eq_false_iff.mpr free) _ (by rw [facts]; rfl))
            rw [containsText_iff] at statement ⊢
            exact (told fact inside).trans statement
      case isFalse no_reason =>
        refine silent ?_
        rw [explanationFacts, if_neg topic, if_neg free, inhibited_none (Bool.eq_false_iff.mpr no_reason)]
        rfl

/-! A report on temperatures. -/

private theorem head_append {s : String} {c : Char} (first : s.toList.head? = some c) (t : String) :
    (s ++ t).toList.head? = some c := by
  rw [String.toList_append, List.head?_append, first]
  rfl

private theorem warmest_head (name temp warn fault : String) : (warmest name temp warn fault).toList.head? = some 'T' := by
  have opens : "The warmest joint is ".toList.head? = some 'T' := by decide
  exact head_append (head_append (head_append (head_append (head_append (head_append (head_append (head_append
    (head_append opens _) _) _) _) _) _) _) _) _

private theorem warmest_last (name temp warn fault : String) :
    ∃ front, (warmest name temp warn fault).toList = front ++ ['.'] := by
  obtain ⟨front, same⟩ : ∃ front, warmest name temp warn fault = front ++ " C)." := ⟨_, rfl⟩
  refine ⟨front.toList ++ " C)".toList, ?_⟩
  rw [same, String.toList_append, List.append_assoc]
  rfl

/-- The report's first sentence ends before the one about the fault threshold. -/
private theorem warmest_first (laws : text.Lawful) (name temp warn fault : String) :
    firstSentence text (warmest name temp warn fault ++ faultExceeded) =
      firstSentence text (warmest name temp warn fault) := by
  have first := warmest_head name temp warn fault
  obtain ⟨front, short⟩ := warmest_last name temp warn fault
  have long : (warmest name temp warn fault ++ faultExceeded).toList =
      front ++ '.' :: ' ' :: "It has exceeded its fault threshold.".toList := by
    rw [String.toList_append, short, List.append_assoc]
    rfl
  refine firstSentence_lead ?_ ?_ long short
  · refine strip_eq laws (head_append first _) (by decide) ?_
    rw [String.toList_append, List.getLast?_append]
    rfl
  · exact strip_eq laws first (by decide) (by rw [short, List.getLast?_concat])

private theorem temperature_told (laws : text.Lawful) (given : rGetTemperature text d = .ok said) :
    (∀ fact ∈ temperatureFacts text d, containsText fact said = true) ∧
      ((∀ fact ∈ temperatureFacts text d, containsText fact (firstSentence text said) = true) ↔
        ∀ fact ∈ temperatureFacts text d, ∀ line, warmestLine text d = .ok line →
          containsText fact (firstSentence text line) = true) := by
  have silent (none_ : temperatureFacts text d = []) :
      (∀ fact ∈ temperatureFacts text d, containsText fact said = true) ∧
        ((∀ fact ∈ temperatureFacts text d, containsText fact (firstSentence text said) = true) ↔
          ∀ fact ∈ temperatureFacts text d, ∀ line, warmestLine text d = .ok line →
            containsText fact (firstSentence text line) = true) := by
    rw [none_]
    refine ⟨fun fact inside => (by cases inside), iff_of_true (fun fact inside => (by cases inside)) ?_⟩
    intro fact inside
    cases inside
  unfold rGetTemperature at given
  dsimp only at given
  split at given
  case isTrue cold =>
    refine silent ?_
    rw [Bool.not_eq_true'] at cold
    rw [temperatureFacts, cold, Bool.false_and, if_neg Bool.false_ne_true]
  case isFalse hot =>
    rw [Bool.not_eq_true', Bool.not_eq_false] at hot
    obtain ⟨name, named, given⟩ := except_bind_ok given
    obtain ⟨temp, measured, given⟩ := except_bind_ok given
    obtain ⟨shown, tenth, given⟩ := except_bind_ok given
    obtain ⟨warn, warns, given⟩ := except_bind_ok given
    obtain ⟨warnShown, warn_shown, given⟩ := except_bind_ok given
    obtain ⟨fault, faults, given⟩ := except_bind_ok given
    obtain ⟨faultShown, fault_shown, given⟩ := except_bind_ok given
    obtain ⟨limit, limits, given⟩ := except_bind_ok given
    obtain ⟨number, numbers, given⟩ := except_bind_ok given
    have line : warmestLine text d = .ok (warmest (text.str name) shown warnShown faultShown) := by
      simp only [warmestLine, named, measured, tenth, warns, warn_shown, faults, fault_shown, bind, Except.bind, pure,
        Except.pure]
    have exceeding : overFault text d = limit.le number := by
      simp only [overFault, measured, faults, limits, numbers, bind, Except.bind, pure, Except.pure]
    split at given
    case isTrue exceeds =>
      obtain rfl := Except.ok.inj given
      have facts : temperatureFacts text d = ["It has exceeded its fault threshold"] := by
        rw [temperatureFacts, hot, exceeding, exceeds]
        rfl
      have lead : firstSentence text (warmest (text.str name) shown warnShown faultShown ++ faultExceeded) =
          firstSentence text (warmest (text.str name) shown warnShown faultShown) :=
        warmest_first laws _ _ _ _
      rw [facts, lead]
      refine ⟨fun fact inside => ?_, ?_⟩
      · obtain rfl := List.mem_singleton.mp inside
        rw [containsText_iff, String.toList_append]
        have own : "It has exceeded its fault threshold".toList <:+: faultExceeded.toList := by decide
        exact own.trans (List.suffix_append _ _).isInfix
      · constructor
        · intro kept fact inside said told
          rw [line] at told
          obtain rfl := Except.ok.inj told
          exact kept fact inside
        · intro kept fact inside
          exact kept fact inside _ line
    case isFalse under =>
      refine silent ?_
      rw [temperatureFacts, exceeding, Bool.eq_false_iff.mpr under, Bool.and_false, if_neg Bool.false_ne_true]

/-! Any two identities. -/

/-- A report on the droid tells its safety facts, and a terse identity keeps them if they are foremost. -/
private theorem report_told (laws : text.Lawful) (p : Personality) (kind : r.kind ∈ reportKinds)
    (rendered : report text p r = .ok said) : (∀ fact ∈ safetyFacts text r, containsText fact said = true) ∧
      ((∀ fact ∈ safetyFacts text r, containsText fact (firstSentence text said) = true) ↔ Foremost text r) := by
  have other {k k' : String} (kind : r.kind = k) (apart : k ≠ k') : r.kind ≠ k' := kind ▸ apart
  rcases List.mem_cons.mp kind with status | kind
  · rw [report_status status] at rendered
    rw [safetyFacts, if_pos status, status_first laws rendered]
    refine ⟨status_told rendered, fun kept => ⟨fun _ => kept, ?_, ?_⟩, fun foremost => foremost.status status⟩
    · exact fun explanation => absurd explanation (other status (by decide))
    · exact fun temperature => absurd temperature (other status (by decide))
  rcases List.mem_cons.mp kind with explanation | kind
  · rw [report_explain explanation] at rendered
    rw [safetyFacts, if_neg (other explanation (by decide)), if_pos explanation]
    obtain ⟨told, first⟩ := explanation_told laws rendered
    refine ⟨told, first.trans ⟨fun kept => ⟨?_, fun _ => kept, ?_⟩, fun foremost => foremost.explanation explanation⟩⟩
    · exact fun status => absurd status (other explanation (by decide))
    · exact fun temperature => absurd temperature (other explanation (by decide))
  · have temperature := List.mem_singleton.mp kind
    rw [report_temperature temperature] at rendered
    rw [safetyFacts, if_neg (other temperature (by decide)), if_neg (other temperature (by decide))]
    obtain ⟨told, first⟩ := temperature_told laws rendered
    refine ⟨told, first.trans ⟨fun kept => ⟨?_, ?_, fun _ => kept⟩, fun foremost => foremost.temperature temperature⟩⟩
    · exact fun status => absurd status (other temperature (by decide))
    · exact fun explanation => absurd explanation (other temperature (by decide))

/-- A report on the droid has the same words for every identity. -/
private theorem report_same (p q : Personality) (kind : r.kind ∈ reportKinds) : report text p r = report text q r := by
  simp only [reportKinds, List.mem_cons, List.not_mem_nil, or_false] at kind
  rcases kind with status | explanation | temperature
  · rw [report_status status, report_status status]
  · rw [report_explain explanation, report_explain explanation]
  · rw [report_temperature temperature, report_temperature temperature]

private theorem render_ok {p : Personality} (rendered : render text p r = .ok said) :
    ∃ whole, report text p r = .ok whole ∧ said = p.trim text whole := by
  obtain ⟨whole, reported, rest⟩ := except_bind_ok rendered
  exact ⟨whole, reported, (Except.ok.inj rest).symm⟩

/-- The status of a droid that an emergency stop holds. -/
private def held : TaskResult where
  ok := true
  kind := "robot.get_status"
  data := [(.str "name", .str "droid"), (.str "state", .str "emergency_stop"), (.str "motion_permitted", .bool false),
    (.str "inhibit_reasons", .list [.str "emergency stop engaged"])]

private def heldStatus : String :=
  "I am droid. Current state: emergency_stop. Movement is disabled: emergency stop engaged."

private theorem held_said (p : Personality) : render .ascii p held = .ok (p.trim .ascii heldStatus) := by
  have reported : report .ascii p held = .ok heldStatus := by
    rw [report_status rfl]
    decide +kernel
  rw [render, reported]
  rfl

end DroidOs.Language.SafetyFacts
