/- GID: DroidOs/Language/TemperatureReport
   generality: I
   source: src/droidos/executive/executive.py, src/droidos/language/service.py
   digest: When the report on the warmest joint is true of the temperatures that were measured. -/

import DroidOs.Core.Numbers
import DroidOs.Executive.Tools
import DroidOs.Language.Renderer
import DroidOs.Lib.Ranking

set_option autoImplicit false
set_option relaxedAutoImplicit false

namespace DroidOs.Language.TemperatureReport

open DroidOs.Lib
open DroidOs.Core.Values DroidOs.Core.Context
open DroidOs.Executive.Tools
open Wording Renderer

/-! The result. -/

/-- What `_h_temperature` makes of readings and thresholds. -/
def temperatures (acts : List ActuatorState) (warn fault : PyFloat) : TaskResult :=
  let temps := (acts.map fun a => (a.name, a.temperatureC.round 1)).mergeSort fun a b => b.2.le a.2
  let entry := fun (t : String × PyFloat) => PyVal.dict [(.str "name", .str t.1), (.str "temp_c", .float t.2)]
  { ok := true, kind := "robot.get_temperature", data :=
    [(.str "hottest", (temps.head?.map entry).getD .none), (.str "all", .list (temps.map entry)),
      (.str "warn_c", .float warn), (.str "fault_c", .float fault)] }

theorem hTemperature_eq (e : Equipment) (b : Backends.Simulation.SimulationBackend) : hTemperature e b = do
    let acts ← b.readAllActuators e.text e.body
    let warn ← e.body.limits.motorWarnTemp e.text
    let fault ← e.body.limits.motorFaultTemp e.text
    return temperatures acts warn fault := rfl

/-! Its truth. -/

/-- No joint is warmer. -/
def Hottest (acts : List ActuatorState) (a : ActuatorState) : Prop :=
  a ∈ acts ∧ ∀ b ∈ acts, b.temperatureC.le a.temperatureC = true

variable (text : PyText)

/-- What is said is about the joint. -/
def Names (warn fault : PyFloat) (a : ActuatorState) (said : String) : Prop :=
  ∃ closing ∈ ["", faultExceeded, belowWarning], said =
    warmest a.name (text.fixed 1 (a.temperatureC.round 1)) (text.fixed 0 warn) (text.fixed 0 fault) ++ closing

/-- What is said is true of the temperatures: of the fault threshold, of the warning threshold and of the joint. -/
structure Truthful (acts : List ActuatorState) (warn fault : PyFloat) (said : String) : Prop where
  exceeded : faultExceeded.toList <:+ said.toList ↔ ∃ a, Hottest acts a ∧ fault.le a.temperatureC = true
  cooler : "below the warning threshold.".toList <:+ said.toList → ∀ a, Hottest acts a → a.temperatureC.lt warn = true
  named : acts ≠ [] → ∃ a, Hottest acts a ∧ Names text warn fault a said

/-- The joint that is listed first among those that are highest to a tenth of a degree. -/
def firstHighest (acts : List ActuatorState) : Option ActuatorState :=
  acts.find? fun a => acts.all fun b => (b.temperatureC.round 1).le (a.temperatureC.round 1)

/-- A tenth of a degree does not matter for the thresholds and for the joint, and the warning threshold
is not reached below that for faults. -/
structure Clear (acts : List ActuatorState) (warn fault : PyFloat) (a : ActuatorState) : Prop where
  atFault : fault.le (a.temperatureC.round 1) = fault.le a.temperatureC
  belowWarn : warn.le (a.temperatureC.round 1) = true → fault.le (a.temperatureC.round 1) = true ∨
    a.temperatureC.lt warn = true
  first : ∃ b, Hottest acts b ∧ (firstHighest acts).map ActuatorState.name = some b.name

variable {text} {acts : List ActuatorState} {warn fault : PyFloat} {p : Personality}

/-! The first of the sorted readings. -/

section

variable (measured : ∀ a ∈ acts, a.temperatureC ≠ .nan)
include measured

private theorem firstHighest_eq : firstHighest acts =
    acts.find? fun a => decide (Ranking.Top (fun a => (a.temperatureC.round 1).rank) acts a) := by
  rw [firstHighest, ← List.head?_filter, ← List.head?_filter]
  congr 1
  refine List.filter_congr fun a inside => ?_
  rw [Bool.eq_iff_iff, List.all_eq_true, decide_eq_true_eq]
  refine forall₂_congr fun b member => ?_
  exact PyFloat.le_iff (PyFloat.round_number 1 (measured b member)) (PyFloat.round_number 1 (measured a inside))

private theorem head_temps : ((acts.map fun a => (a.name, a.temperatureC.round 1)).mergeSort
    fun a b => b.2.le a.2).head? = (firstHighest acts).map fun a => (a.name, a.temperatureC.round 1) := by
  have agrees : ∀ a ∈ acts.map (fun a => (a.name, a.temperatureC.round 1)),
      ∀ b ∈ acts.map (fun a => (a.name, a.temperatureC.round 1)), b.2.le a.2 = decide (b.2.rank ≤ a.2.rank) := by
    intro a inside b inside'
    obtain ⟨x, member, rfl⟩ := List.mem_map.mp inside
    obtain ⟨y, member', rfl⟩ := List.mem_map.mp inside'
    rw [Bool.eq_iff_iff, decide_eq_true_eq]
    exact PyFloat.le_iff (PyFloat.round_number 1 (measured y member')) (PyFloat.round_number 1 (measured x member))
  have sorted := @Ranking.head_mergeSort _ _ _ (fun t : String × PyFloat => t.2.rank) _ _ agrees
  rw [sorted, List.find?_map, firstHighest_eq measured]
  rw [← List.head?_filter, ← List.head?_filter]
  congr 2
  refine List.filter_congr fun a _ => decide_eq_decide.mpr ?_
  simp [Ranking.Top]

end

/-! What is said. -/

/-- How the report closes for a temperature to a tenth of a degree. -/
def closing (warn fault temp : PyFloat) : String :=
  if fault.le temp then faultExceeded else if warn.le temp then belowWarning else ""

private theorem report_none (none_ : firstHighest acts = none) (measured : ∀ a ∈ acts, a.temperatureC ≠ .nan) :
    report text p (temperatures acts warn fault) = .ok "I have no motor temperature readings." := by
  rw [report_temperature rfl]
  simp only [temperatures]
  rw [head_temps measured, none_]
  rfl

private theorem report_some (laws : text.Lawful) {a : ActuatorState} (first : firstHighest acts = some a)
    (measured : ∀ a ∈ acts, a.temperatureC ≠ .nan) : report text p (temperatures acts warn fault) =
      .ok (warmest a.name (text.fixed 1 (a.temperatureC.round 1)) (text.fixed 0 warn) (text.fixed 0 fault) ++
        closing warn fault (a.temperatureC.round 1)) := by
  have given : report text p (temperatures acts warn fault) =
      (if fault.le (a.temperatureC.round 1) then .ok (warmest (text.str (.str a.name))
          (text.fixed 1 (a.temperatureC.round 1)) (text.fixed 0 warn) (text.fixed 0 fault) ++ faultExceeded)
        else if warn.le (a.temperatureC.round 1) then .ok (warmest (text.str (.str a.name))
          (text.fixed 1 (a.temperatureC.round 1)) (text.fixed 0 warn) (text.fixed 0 fault) ++ belowWarning)
        else .ok (warmest (text.str (.str a.name)) (text.fixed 1 (a.temperatureC.round 1)) (text.fixed 0 warn)
          (text.fixed 0 fault))) := by
    rw [report_temperature rfl]
    simp only [temperatures]
    rw [head_temps measured, first]
    rfl
  rw [given, laws.str, closing]
  split
  case isTrue => rfl
  case isFalse =>
    split
    case isTrue => rfl
    case isFalse => rw [String.append_empty]

/-! Sentences at the end of a text. -/

private theorem suffix_closing {s : List Char} {w c : String} (inside : w.toList <:+ s ++ c.toList)
    (short : w.toList.length ≤ c.toList.length) : w.toList <:+ c.toList :=
  List.suffix_of_suffix_length_le inside (List.suffix_append s c.toList) short

private theorem warmest_ends (name temp warn fault : String) :
    " C).".toList <:+ (warmest name temp warn fault).toList := by
  obtain ⟨front, same⟩ : ∃ front, warmest name temp warn fault = front ++ " C)." := ⟨_, rfl⟩
  rw [same, String.toList_append]
  exact List.suffix_append _ _

private theorem bare_ends {name temp warn fault w : String} (inside : w.toList <:+ (warmest name temp warn fault).toList)
    (long : 4 ≤ w.toList.length) : " C).".toList <:+ w.toList :=
  List.suffix_of_suffix_length_le (warmest_ends name temp warn fault) inside long

/-- The closings are told apart by their ends. -/
private theorem closing_ends (name temp warn fault c : String) (listed : c ∈ ["", faultExceeded, belowWarning]) :
    (faultExceeded.toList <:+ (warmest name temp warn fault ++ c).toList ↔ c = faultExceeded) ∧
      ("below the warning threshold.".toList <:+ (warmest name temp warn fault ++ c).toList ↔ c = belowWarning) := by
  rw [String.toList_append]
  simp only [List.mem_cons, List.not_mem_nil, or_false] at listed
  rcases listed with rfl | rfl | rfl
  · refine ⟨iff_of_false (fun inside => ?_) (by decide), iff_of_false (fun inside => ?_) (by decide)⟩
    all_goals
      rw [show ("" : String).toList = [] from rfl, List.append_nil] at inside
      exact absurd (bare_ends inside (by decide)) (by decide)
  · refine ⟨iff_of_true (List.suffix_append _ _) rfl, iff_of_false (fun inside => ?_) (by decide)⟩
    exact absurd (suffix_closing inside (by decide)) (by decide)
  · refine ⟨iff_of_false (fun inside => ?_) (by decide), iff_of_true ?_ rfl⟩
    · exact absurd (suffix_closing inside (by decide)) (by decide)
    · have own : "below the warning threshold.".toList <:+ belowWarning.toList := by decide
      exact own.trans (List.suffix_append _ _)

private theorem warmest_injective {name name' temp warn fault : String}
    (same : warmest name temp warn fault = warmest name' temp warn fault) : name = name' := by
  unfold warmest at same
  -- the parts behind the name are the same
  rw [String.append_left_inj, String.append_left_inj, String.append_left_inj, String.append_left_inj,
    String.append_left_inj, String.append_left_inj, String.append_left_inj, String.append_left_inj,
    String.append_right_inj] at same
  exact same

/-! The report is true. -/

theorem closing_listed (warn fault temp : PyFloat) : closing warn fault temp ∈ ["", faultExceeded, belowWarning] := by
  unfold closing
  split
  · decide
  · split <;> decide

section

variable (measured : ∀ a ∈ acts, a.temperatureC ≠ .nan)
include measured

private theorem exists_hottest (some_joint : acts ≠ []) : ∃ a, Hottest acts a := by
  have head : (acts.mergeSort fun a b => decide (b.temperatureC.rank ≤ a.temperatureC.rank)).head? =
      acts.find? fun a => decide (Ranking.Top (fun a => a.temperatureC.rank) acts a) :=
    Ranking.head_mergeSort fun _ _ _ _ => rfl
  rcases first : acts.find? fun a => decide (Ranking.Top (fun a : ActuatorState => a.temperatureC.rank) acts a) with
    _ | a
  · rw [first, List.head?_eq_none_iff] at head
    have count := (List.mergeSort_perm acts fun a b => decide (b.temperatureC.rank ≤ a.temperatureC.rank)).length_eq
    rw [head] at count
    exact absurd (List.length_eq_zero_iff.mp count.symm) some_joint
  · have inside := List.mem_of_find?_eq_some first
    have chosen : decide (Ranking.Top (fun a : ActuatorState => a.temperatureC.rank) acts a) = true :=
      List.find?_some (p := fun a => decide (Ranking.Top (fun a : ActuatorState => a.temperatureC.rank) acts a)) first
    have top := of_decide_eq_true chosen
    exact ⟨a, inside, fun b member => (PyFloat.le_iff (measured b member) (measured a inside)).mpr (top b member)⟩

private theorem hottest_same {a b : ActuatorState} (hot : Hottest acts a) (hot' : Hottest acts b) :
    a.temperatureC = b.temperatureC := by
  have number := measured a hot.1
  have number' := measured b hot'.1
  refine PyFloat.rank_injective number number' (le_antisymm ?_ ?_)
  · exact (PyFloat.le_iff number number').mp (hot'.2 a hot.1)
  · exact (PyFloat.le_iff number' number).mp (hot.2 b hot'.1)

/-- To a tenth of a degree, the joint that is named is as warm as a hottest one. -/
private theorem first_rounds {a h : ActuatorState} (first : firstHighest acts = some a) (hot : Hottest acts h) :
    a.temperatureC.round 1 = h.temperatureC.round 1 := by
  have inside := List.mem_of_find?_eq_some first
  have number := measured a inside
  have number' := measured h hot.1
  have chosen : (acts.all fun b => (b.temperatureC.round 1).le (a.temperatureC.round 1)) = true :=
    List.find?_some (p := fun a : ActuatorState => acts.all fun b =>
      (b.temperatureC.round 1).le (a.temperatureC.round 1)) first
  have top := List.all_eq_true.mp chosen h hot.1
  refine PyFloat.rank_injective (PyFloat.round_number 1 number) (PyFloat.round_number 1 number') (le_antisymm ?_ ?_)
  · exact PyFloat.round_mono 1 number number' ((PyFloat.le_iff number number').mp (hot.2 a inside))
  · exact (PyFloat.le_iff (PyFloat.round_number 1 number') (PyFloat.round_number 1 number)).mp top

private theorem exists_first (some_joint : acts ≠ []) : ∃ a, firstHighest acts = some a := by
  obtain ⟨h, hot⟩ := exists_hottest measured some_joint
  refine Option.isSome_iff_exists.mp (List.find?_isSome.mpr ⟨h, hot.1, List.all_eq_true.mpr fun b member => ?_⟩)
  have number := measured b member
  have number' := measured h hot.1
  refine (PyFloat.le_iff (PyFloat.round_number 1 number) (PyFloat.round_number 1 number')).mpr ?_
  exact PyFloat.round_mono 1 number number' ((PyFloat.le_iff number number').mp (hot.2 b member))

end

private def warmHip : ActuatorState := { name := "left_hip", temperatureC := 75 }

private theorem warmHip_measured : ∀ a ∈ [warmHip], a.temperatureC ≠ .nan := by
  intro a inside
  obtain rfl := List.mem_singleton.mp inside
  decide

end DroidOs.Language.TemperatureReport
