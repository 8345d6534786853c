/- GID: DroidOs/Language/Renderer
   generality: I
   source: src/droidos/language/service.py
   digest: The texts that the droid makes of the results of its tasks. -/

import DroidOs.Core.Context
import DroidOs.Language.Wording

set_option autoImplicit false
set_option relaxedAutoImplicit false

namespace DroidOs.Language.Renderer

open DroidOs.Core.Values DroidOs.Core.Context
open Wording

variable (text : PyText)

/-- `d.get(key, default)`. -/
def field (d : Items) (key : String) (default : PyVal := .none) : PyVal := (PyVal.lookup key d).getD default

/-- `v[key]`. -/
def item (v : PyVal) (key : String) : Except Exn PyVal :=
  match v with
  | .dict d => match PyVal.lookup key d with
    | some value => .ok value
    | none => .error ⟨.keyError, text.repr (.str key)⟩
  | _ => .error ⟨.typeError, "object is not subscriptable"⟩

/-- `f"{v:.nf}"`. -/
def formatted (digits : Nat) (v : PyVal) : Except Exn String :=
  match v with
  | .str _ => .error ⟨.valueError, "Unknown format code 'f' for object of type 'str'"⟩
  | v => do return text.fixed digits (← v.number)

private def textOf : PyVal → Except Exn String
  | .str s => .ok s
  | _ => .error ⟨.typeError, "sequence item: expected str instance"⟩

/-- The texts that `sep.join(v)` joins. -/
def texts (v : PyVal) : Except Exn (List String) := do (← v.toList).mapM textOf

/-! Information. -/

/-- `d.get("inhibit_reasons") or []`. -/
def inhibited (d : Items) : PyVal := (field d "inhibit_reasons").orElse (.list [])

/-- The line about motion. -/
def motionLine (d : Items) : Except Exn String := do
  if (field d "motion_permitted").truthy then
    return "All required systems are responding; I am currently safe to move."
  if (inhibited d).truthy then
    return "Movement is disabled: " ++ "; ".intercalate (← texts (inhibited d)) ++ "."
  return "Movement is not currently permitted."

/-- The line about the battery, if the result has one. -/
def chargeLine (d : Items) : Except Exn (List String) :=
  match field d "battery_percent" with
  | .none => .ok []
  | b => do return ["Battery charge is " ++ (← formatted text 0 b) ++ " percent."]

/-- The note about the hottest motor. -/
def motorNote (d : Items) : Except Exn (List String) :=
  if (field d "hottest_motor").truthy then do
    let level ← (field d "hottest_motor").get "level" .none
    if level.isKey "OK" then return []
    return ["Note: " ++ text.str (← (field d "hottest_motor").get "message" .none) ++ "."]
  else .ok []

/-- `_r_robot_get_status`. -/
def rGetStatus (d : Items) : Except Exn String := do
  let battery ← chargeLine text d
  let motion ← motionLine d
  let note ← motorNote text d
  return " ".intercalate (("I am " ++ text.str (field d "name" (.str "the droid")) ++ ". Current state: " ++
    text.str (field d "state") ++ ".") :: battery ++ motion :: note)

/-- `_r_robot_get_battery`. -/
def rGetBattery (d : Items) : Except Exn String := do
  let percent ← formatted text 0 (← item text (.dict d) "percent")
  let charge := "Battery charge is " ++ percent ++ " percent" ++
    if (field d "charging").truthy then " and charging." else "."
  if (field d "safe_to_move").truthy then return charge
  let minimum ← formatted text 0 (← item text (.dict d) "motion_minimum")
  return charge ++ " That is below the " ++ minimum ++ " percent motion minimum, so movement is inhibited."

/-- The warmest joint, with its temperature and the thresholds. -/
def warmest (name temp warn fault : String) : String :=
  "The warmest joint is " ++ name ++ " at " ++ temp ++ " C" ++ " (warning at " ++ warn ++ " C, fault at " ++
    fault ++ " C)."

def faultExceeded : String := " It has exceeded its fault threshold."

def belowWarning : String := " It is warmer than normal but below the warning threshold."

/-- `_r_robot_get_temperature`. -/
def rGetTemperature (d : Items) : Except Exn String := do
  let hot := field d "hottest"
  if !hot.truthy then return "I have no motor temperature readings."
  let name ← item text hot "name"
  let temp ← item text hot "temp_c"
  let shown ← formatted text 1 temp
  let warn ← item text (.dict d) "warn_c"
  let warnShown ← formatted text 0 warn
  let fault ← item text (.dict d) "fault_c"
  let said := warmest (text.str name) shown warnShown (← formatted text 0 fault)
  if (← fault.number).le (← temp.number) then return said ++ faultExceeded
  if (← warn.number).le (← temp.number) then return said ++ belowWarning
  return said

/-- `_r_diagnostics_summary`. -/
def rDiagnosticsSummary (d : Items) : Except Exn String := do
  let count := field d "fault_count" (.int 0)
  if (match count.number with | .ok n => n.eq 0 | .error _ => false) then
    return "All monitored systems are nominal. Nothing is wrong."
  let first := "I have " ++ text.str (← item text (.dict d) "fault_count") ++ " issue(s):"
  let faults ← (← (field d "faults" (.list [])).toList).mapM fun f => do
    return "  - " ++ text.str (← item text f "name") ++ " [" ++ text.str (← item text f "level") ++ "]: " ++
      text.str (← item text f "message")
  return "\n".intercalate (first :: faults)

def estopStatement : String := "Movement is disabled because an emergency stop is engaged."

/-- `_r_robot_explain`. -/
def rExplain (d : Items) : Except Exn String := do
  if (field d "topic").isKey "current_task" then
    let last := field d "last_task"
    if !last.truthy then return "I have not performed any task yet."
    let intent ← item text last "intent"
    let state ← item text last "state"
    let steps := ", ".intercalate (← texts (← item text last "steps"))
    return "My last task was " ++ text.str intent ++ " (" ++ text.str state ++ "); steps: " ++
      (if steps = "" then "none" else steps) ++ "."
  if (field d "estop").truthy then return estopStatement ++ " Motor power has been removed."
  if (inhibited d).truthy then
    return "Movement is disabled because: " ++ "; ".intercalate (← texts (inhibited d)) ++ "."
  return "Movement is currently permitted; there is nothing preventing me from moving."

/-- `_r_perception_describe_scene`. -/
def rDescribeScene (d : Items) : Except Exn String := do
  if !(field d "camera_ok" (.bool false)).truthy then
    return text.str (field d "summary" (.str "My camera is not available, so I cannot describe the scene."))
  let confidence ← formatted text 2 (field d "confidence" (.float 0))
  return "I can see " ++ text.str (field d "summary") ++ ". (visual confidence " ++ confidence ++ ")"

/-- `_r_navigation_list_places`. -/
def rListPlaces (d : Items) : Except Exn String := do
  let places := field d "places" (.list [])
  if !places.truthy then return "I do not have any named destinations yet."
  return "I know these places: " ++ ", ".intercalate (← texts places) ++ "."

/-- `_r_help`. -/
def rHelp (d : Items) : Except Exn String := do
  let lines ← (← (field d "tools" (.list [])).toList).mapM fun t => do
    return "  - " ++ text.str (← item text t "name") ++ ": " ++ text.str (← item text t "description") ++ " [" ++
      text.str (← item text t "risk") ++ "]"
  return "\n".intercalate ("I understand commands such as:" :: lines)

/-! Tasks. -/

variable (p : Personality)

/-- `self.p.refuse(r.error or default)`. -/
def refusal (r : TaskResult) (default : String) : String := p.refuse (if r.error = "" then default else r.error)

/-- `_r_inspect_named_target`. -/
def rInspect (r : TaskResult) : Except Exn String := do
  if !r.ok then return refusal p r "I could not complete the inspection."
  let d := r.data
  if !(field d "found" (.bool false)).truthy then
    return text.strip ("I did not see " ++ text.str (field d "target" (.str "the target")) ++ " from here. (" ++
      text.str (field d "note" (.str "")) ++ ")")
  let indicators := field d "indicators"
  let lights ←
    if indicators.truthy then do
      pure ["I found " ++ text.str (← indicators.get "amber" (.int 0)) ++ " amber and " ++
        text.str (← indicators.get "red" (.int 0)) ++ " red indicators, with " ++
        text.str (← indicators.get "green" (.int 0)) ++ " green."]
    else pure []
  let door := if (field d "open_cabinet_door").truthy then ["The cabinet door is open."] else []
  let confidence ← formatted text 2 (field d "confidence" (.int 0))
  return " ".intercalate (("I inspected the " ++ text.str (field d "target") ++ ".") :: lights ++ door ++
    ["(observation only; visual confidence " ++ confidence ++
      "). I can report what I see but not diagnose the cause without a reference."])

/-- `_r_memory_store_place`. -/
def rStorePlace (d : Items) : Except Exn String := do
  return "I have remembered " ++ text.str (field d "place") ++ " at (" ++ (← formatted text 1 (field d "x")) ++
    ", " ++ (← formatted text 1 (field d "y")) ++ ")."

/-- `_r_system_set_body`. -/
def rSetBody (r : TaskResult) : Except Exn String := do
  if !r.ok then return p.refuse r.error
  let selection := field r.data "selection" (.dict [])
  return "Body " ++ text.str (← selection.get "body_id" .none) ++ " (" ++
    text.str (← selection.get "backend" .none) ++ ") will activate on next boot."

/-- The renderer of a kind, less those of the information above, which read the data only. -/
def rTask (r : TaskResult) : String → Except Exn String
  | "motion_stop" => .ok "Stopped."
  | "motion_emergency_stop" => .ok "Emergency stop engaged. Motor power has been removed."
  | "task_cancel" => .ok "The active task has been cancelled and I have stopped."
  | "voice_silence" => .ok ""
  | "robot_return_safe_idle" =>
    .ok ("Returning to safe idle. State is now " ++ text.str (field r.data "state") ++ ".")
  | "navigation_navigate_to" =>
    .ok (if r.ok then "I have arrived at " ++ text.str (field r.data "destination") ++ "."
      else refusal p r "I could not reach the destination.")
  | "navigation_go_charge" =>
    .ok (if r.ok then "I have returned to the charging station and started docking."
      else refusal p r "I could not return to the charging station.")
  | "inspect_named_target" => rInspect text p r
  | "memory_remember" =>
    .ok (if r.ok then "Noted: \"" ++ text.str (field r.data "remembered") ++ "\"." else p.refuse r.error)
  | "memory_store_place" => rStorePlace text r.data
  | "memory_forget" =>
    .ok (if (field r.data "removed" (.int 0)).truthy
      then "I removed " ++ text.str (field r.data "removed" (.int 0)) ++ " remembered item(s)."
      else "I had nothing matching to forget.")
  | "system_set_body" => rSetBody text p r
  | "system_install_update" => .ok (text.str (field r.data "note" (.str "Update handled.")))
  | "system_request_reboot" => .ok "Reboot requested."
  | "system_shutdown" => .ok "Shutting down."
  | _ => .ok (if r.ok then "Done." else refusal p r "The task did not succeed.")

/-- `kind.replace(".", "_")`. -/
def rendererName (kind : String) : String := String.ofList (kind.toList.map fun c => if c = '.' then '_' else c)

/-- What `render` has before it is trimmed. -/
def report (r : TaskResult) : Except Exn String :=
  match rendererName r.kind with
  | "robot_get_status" => rGetStatus text r.data
  | "robot_get_battery" => rGetBattery text r.data
  | "robot_get_temperature" => rGetTemperature text r.data
  | "diagnostics_summary" => rDiagnosticsSummary text r.data
  | "robot_explain" => rExplain text r.data
  | "perception_describe_scene" => rDescribeScene text r.data
  | "navigation_list_places" => rListPlaces r.data
  | "help" => rHelp text r.data
  | kind => rTask text p r kind

/-- `render`. -/
def render (r : TaskResult) : Except Exn String := do return p.trim text (← report text p r)

variable {text p} {r : TaskResult}

/-- The texts of a list of texts can be joined. -/
theorem texts_returns (items : List String) : ∃ said, texts (.list (items.map .str)) = .ok said := by
  refine except_mapM_returns fun v inside => ?_
  obtain ⟨s, -, rfl⟩ := List.mem_map.mp inside
  exact ⟨s, rfl⟩

theorem report_status (kind : r.kind = "robot.get_status") : report text p r = rGetStatus text r.data := by
  have name : rendererName r.kind = "robot_get_status" := by rw [kind]; decide
  simp only [report, name]

theorem report_explain (kind : r.kind = "robot.explain") : report text p r = rExplain text r.data := by
  have name : rendererName r.kind = "robot_explain" := by rw [kind]; decide
  simp only [report, name]

theorem report_temperature (kind : r.kind = "robot.get_temperature") :
    report text p r = rGetTemperature text r.data := by
  have name : rendererName r.kind = "robot_get_temperature" := by rw [kind]; decide
  simp only [report, name]

theorem report_battery (kind : r.kind = "robot.get_battery") : report text p r = rGetBattery text r.data := by
  have name : rendererName r.kind = "robot_get_battery" := by rw [kind]; decide
  simp only [report, name]

theorem report_diagnostics (kind : r.kind = "diagnostics.summary") :
    report text p r = rDiagnosticsSummary text r.data := by
  have name : rendererName r.kind = "diagnostics_summary" := by rw [kind]; decide
  simp only [report, name]

theorem report_scene (kind : r.kind = "perception.describe_scene") : report text p r = rDescribeScene text r.data := by
  have name : rendererName r.kind = "perception_describe_scene" := by rw [kind]; decide
  simp only [report, name]

theorem report_places (kind : r.kind = "navigation.list_places") : report text p r = rListPlaces r.data := by
  have name : rendererName r.kind = "navigation_list_places" := by rw [kind]; decide
  simp only [report, name]

theorem report_help (kind : r.kind = "help") : report text p r = rHelp text r.data := by
  have name : rendererName r.kind = "help" := by rw [kind]; decide
  simp only [report, name]

end DroidOs.Language.Renderer
