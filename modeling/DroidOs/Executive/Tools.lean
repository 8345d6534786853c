/- GID: DroidOs/Executive/Tools
   generality: I
   source: src/droidos/executive/executive.py
   digest: The handlers that read the body or work on what the droid has stored. -/

import DroidOs.Body.Selection
import DroidOs.Executive.RunIntent
import DroidOs.Services.Memory
import DroidOs.Services.Perception
import DroidOs.Services.Update
import DroidOs.Services.WorldModel

set_option autoImplicit false
set_option relaxedAutoImplicit false

namespace DroidOs.Executive.Tools

open DroidOs.Lib.Procedure
open DroidOs.Core.Values DroidOs.Core.Context
open DroidOs.Body.Package DroidOs.Body.Selection
open DroidOs.Backends.Simulation
open DroidOs.Services.Memory (MemoryStore)
open DroidOs.Services.WorldModel (WorldStore)
open DroidOs.Services.Update (UpdateStore BundleFile)
open DroidOs.Services
open DroidOs.Language.Intent

/-- What the services have stored, with their files, the selection file and the audit log. -/
structure Stores where
  memory : MemoryStore := {}
  world : WorldStore := {}
  update : UpdateStore := {}
  selection : Option Selection := none
  audit : List AuditRecord := []

/-- What the handlers are given beside: `bundles` is what opening a path gives, and
`diagnose` the summary that diagnostics makes of readings here and of the computer. -/
structure Equipment where
  text : PyText
  body : LoadedBody
  manager : BodyManager
  bundles : PyVal → BundleFile
  digest : PyVal → String
  diagnose : SimulationBackend → Stores → Except Exn Items

def onMemory {α : Type} (p : Proc MemoryStore Exn α) : Proc Stores Exn α :=
  zoom Stores.memory (fun memory st => { st with memory := memory }) p

def onWorld {α : Type} (p : Proc WorldStore Exn α) : Proc Stores Exn α :=
  zoom Stores.world (fun world st => { st with world := world }) p

def onUpdate {α : Type} (p : Proc UpdateStore Exn α) : Proc Stores Exn α :=
  zoom Stores.update (fun update st => { st with update := update }) p

def onSelection {α : Type} (p : Proc (Option Selection) Exn α) : Proc Stores Exn α :=
  zoom Stores.selection (fun selection st => { st with selection := selection }) p

variable (e : Equipment) (b : SimulationBackend)

/-- `arguments.get(key, default)`. -/
private def given (arguments : Items) (key : String) (default : PyVal) : PyVal :=
  (PyVal.lookup key arguments).getD default

/-! Information handlers; they read only. -/

def hBattery : Except Exn TaskResult := do
  let battery ← b.readBattery e.body
  let minimum ← e.body.limits.batteryMotionMinimum e.text
  return { ok := true, kind := "robot.get_battery", data :=
    [(.str "percent", .float battery.percent), (.str "charging", .bool battery.charging),
      (.str "motion_minimum", .float minimum),
      (.str "safe_to_move", .bool (minimum.le battery.percent))] }

def hTemperature : Except Exn TaskResult := do
  let acts ← b.readAllActuators e.text e.body
  let warn ← e.body.limits.motorWarnTemp e.text
  let fault ← e.body.limits.motorFaultTemp e.text
  let temps := (acts.map fun a => (a.name, a.temperatureC.round 1)).mergeSort
    fun a b => b.2.le a.2
  let entry := fun (t : String × PyFloat) =>
    PyVal.dict [(.str "name", .str t.1), (.str "temp_c", .float t.2)]
  return { ok := true, kind := "robot.get_temperature", data :=
    [(.str "hottest", (temps.head?.map entry).getD .none), (.str "all", .list (temps.map entry)),
      (.str "warn_c", .float warn), (.str "fault_c", .float fault)] }

def hDescribe : Except Exn TaskResult := do
  let scene ← Perception.describe e.text e.body b
  let ok := (given scene "camera_ok" (.bool false)).truthy || (PyVal.lookup "summary" scene).isSome
  return { ok := ok, kind := "perception.describe_scene", data := scene }

def hListPlaces (st : Stores) : Except Exn TaskResult :=
  let detail := st.world.data.places.map fun p => (PyVal.str p.1,
    PyVal.dict [(.str "x", .float p.2.x), (.str "y", .float p.2.y), (.str "kind", p.2.kind)])
  .ok { ok := true, kind := "navigation.list_places", data :=
    [(.str "places", .list (st.world.data.placeNames.map .str)), (.str "detail", .dict detail)] }

def riskValue : Risk → String
  | .none => "none"
  | .motion => "motion"
  | .dataWrite => "data_write"
  | .administrative => "administrative"

def hHelp : Except Exn TaskResult :=
  let entry := fun (t : ToolSpec) => PyVal.dict [(.str "name", .str t.name),
    (.str "description", .str t.description), (.str "risk", .str (riskValue t.risk))]
  .ok { ok := true, kind := "help", data := [(.str "tools", .list (defaultTools.map entry))] }

def hDiagnose (st : Stores) : Except Exn TaskResult := do
  return { ok := true, kind := "diagnostics.summary", data := ← e.diagnose b st }

/-- A handler that only reads. -/
def reading (f : Stores → Except Exn TaskResult) : Proc Stores Exn TaskResult :=
  fun st => (f st, st)

/-! Memory handlers. -/

def failed (kind error : String) : TaskResult := { ok := false, kind := kind, error := error }

def hRemember (arguments : Items) : Proc Stores Exn TaskResult := do
  let said := given arguments "text" (.str "")
  if !said.truthy then return failed "memory.remember" "nothing to remember"
  let entry ← onMemory (Memory.remember e.text said "fact" .none)
  return { ok := true, kind := "memory.remember", data := [(.str "remembered", .str entry.text)] }

def hStorePlace (arguments : Items) : Proc Stores Exn TaskResult := do
  let name := given arguments "name" .none
  if !name.truthy then return failed "memory.store_place" "no place name given"
  let x ← ofExcept (e.text.float (given arguments "x" (.float b.pose.x)))
  let y ← ofExcept (e.text.float (given arguments "y" (.float b.pose.y)))
  onWorld (WorldModel.addPlace e.text name x y (given arguments "kind" (.str "room")))
  let said := e.text.str name ++ " is a place at (" ++ e.text.fixed 1 x ++ ", " ++
    e.text.fixed 1 y ++ ")"
  let _ ← onMemory (Memory.remember e.text (.str said) "place" .none)
  return { ok := true, kind := "memory.store_place", data :=
    [(.str "place", name), (.str "x", .float x), (.str "y", .float y)] }

def hForget (arguments : Items) : Proc Stores Exn TaskResult := do
  let query := given arguments "query" (.str "")
  let removed ← onMemory (Memory.forget e.text query)
  let place ← onWorld (WorldModel.removePlace e.text query)
  return { ok := true, kind := "memory.forget", data :=
    [(.str "removed", .int removed), (.str "place_removed", .bool place)] }

/-! Administrative handlers. -/

def hSetBody (arguments : Items) : Proc Stores Exn TaskResult := do
  let bodyId := given arguments "body_id" (.str "")
  let backend := given arguments "backend" .none
  match ← attempt (onSelection (e.manager.setActive e.text bodyId backend)) with
  | .error exc => return failed "system.set_body" exc.msg
  | .ok selected => return { ok := true, kind := "system.set_body", data :=
      [(.str "selection", .dict (selected.map fun item => (.str item.1, item.2))),
        (.str "applies", .str "next boot")] }

def hInstallUpdate (arguments : Items) : Proc Stores Exn TaskResult := do
  let bundle := given arguments "bundle" .none
  if !bundle.truthy then
    let status ← reads fun st => st.update.uinfo.status
    return { ok := true, kind := "system.install_update", data :=
      [(.str "note", .str "no update bundle specified"), (.str "status", .dict status)] }
  let result ← onUpdate (Update.install e.text e.digest (e.bundles bundle))
  let ok := (given result "ok" (.bool false)).truthy
  let reason := e.text.str (given result "reason" (.str "install failed"))
  return { ok := ok, kind := "system.install_update", data := result,
           error := if ok then "" else reason }

/-! The table of these handlers. -/

/-- The handlers by intent. The summary of diagnostics collects twice. -/
def tools (arguments : Items) : List (String × Proc Stores Exn TaskResult) :=
  [("robot.get_battery", reading fun _ => hBattery e b),
    ("robot.get_temperature", reading fun _ => hTemperature e b),
    ("perception.describe_scene", reading fun _ => hDescribe e b),
    ("navigation.list_places", reading hListPlaces),
    ("help", reading fun _ => hHelp),
    ("diagnostics.collect", reading (hDiagnose e b)),
    ("diagnostics.summary", reading (hDiagnose e b)),
    ("memory.remember", hRemember e arguments),
    ("memory.store_place", hStorePlace e b arguments),
    ("memory.forget", hForget e arguments),
    ("system.set_body", hSetBody e arguments),
    ("system.install_update", hInstallUpdate e arguments)]

def tool (name : String) (arguments : Items) : Proc Stores Exn TaskResult :=
  ((tools e b arguments).lookup name).getD
    (pure (failed name "no executive handler for this intent"))

/-- The handlers that read only. -/
def readingTools : List String :=
  ["robot.get_battery", "robot.get_temperature", "perception.describe_scene",
    "navigation.list_places", "help", "diagnostics.collect", "diagnostics.summary"]

theorem tool_reading {name : String} (reads_ : name ∈ readingTools) (arguments : Items) (st : Stores) :
    (tool e b name arguments st).2 = st := by
  simp only [readingTools, List.mem_cons, List.not_mem_nil, or_false] at reads_
  rcases reads_ with rfl | rfl | rfl | rfl | rfl | rfl | rfl <;> rfl

/-- A named place is stored at whatever numbers its coordinates are converted to. -/
theorem hStorePlace_world {arguments : Items} {name : PyVal} {x y : PyFloat}
    (named : PyVal.lookup "name" arguments = some name) (truthy : name.truthy = true)
    (abscissa : e.text.float ((PyVal.lookup "x" arguments).getD (.float b.pose.x)) = .ok x)
    (ordinate : e.text.float ((PyVal.lookup "y" arguments).getD (.float b.pose.y)) = .ok y) (st : Stores) :
    (hStorePlace e b arguments st).2.world = (WorldModel.addPlace e.text name x y
      ((PyVal.lookup "kind" arguments).getD (.str "room")) st.world).2 := by
  have given_name : given arguments "name" .none = name := by rw [given, named, Option.getD_some]
  unfold hStorePlace
  rw [given_name]
  dsimp only
  rw [if_neg (by simp [truthy])]
  rw [bind_ok (t := st) (a := x) (by rw [given, abscissa, ofExcept_run])]
  rw [bind_ok (t := st) (a := y) (by rw [given, ordinate, ofExcept_run])]
  -- The note that memory keeps of the place may fail, and leaves the world alone.
  refine after_bind (I := fun st' : Stores => st'.world = _) rfl fun _ => ?_
  exact keeps_bind (keeps_zoom fun _ holds => holds) fun _ => keeps_pure _

end DroidOs.Executive.Tools
