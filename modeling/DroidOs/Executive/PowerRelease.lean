/- GID: DroidOs/Executive/PowerRelease
   generality: I
   digest: Exactly when the run of an intent gives motor power back and leaves ACTIVE. -/

import DroidOs.Executive.DriveRun

set_option autoImplicit false
set_option relaxedAutoImplicit false

namespace DroidOs.Executive.PowerRelease

open DroidOs.Lib.Procedure DroidOs.Lib.Interleaving
open DroidOs.Lib.Interleaving.Coroutine (atomically)
open DroidOs.Core.Values DroidOs.Core.States DroidOs.Core.Context
open DroidOs.Services.Lifecycle DroidOs.Services.SafetyGateway DroidOs.Services.Supervisor
open DroidOs.Body.Package DroidOs.System.Registration
open DroidOs.Language.Intent
open BehaviourTree Drive RunIntent ScriptedWorld CalmRun DriveRun

/-- `run_intent` without interruption, in the repository's own system. -/
def runScript (s : Script) (intent : StructuredIntent) (user : String) (m : Brain World) :
    Brain World :=
  ((runIntent (scripted s) (droidServices (scripted s)) intent user).run m).2

/-! The condition. -/

/-- What an intent does with motor power. -/
inductive Kind
  | quiet | reads | stops | shutsDown | drives
  deriving DecidableEq

/-- The destination that a driving intent names. -/
def destination (intent : String) (arguments : Items) : Option PyVal :=
  if intent = "navigation.navigate_to" then
    some ((PyVal.lookup "destination" arguments).getD (.str ""))
  else if intent = "navigation.go_charge" then some (.str "charging station")
  else if intent = "inspect.named_target" then
    let dest := (PyVal.lookup "destination" arguments).getD .none
    if dest.truthy then some dest else none
  else none

def resolves (s : Script) (dest : PyVal) : Bool :=
  match s.resolve dest with
  | .ok (some _) => true
  | _ => false

/-- The intents whose handler reads the bus. -/
def readingIntents : List String :=
  ["robot.get_status", "robot.get_battery", "robot.get_temperature", "diagnostics.summary",
    "motion.stop", "task.cancel"]

def kind (s : Script) (intent : String) (arguments : Items) (engaged : Bool) : Kind :=
  if intent = "motion.emergency_stop" then .stops
  else if intent = "system.shutdown" then .shutsDown
  else if intent ∈ readingIntents then .reads
  else if intent = "robot.explain" then if explains arguments engaged then .reads else .quiet
  else match destination intent arguments with
    | some dest => if resolves s dest then .drives else .quiet
    | none => .quiet

/-- The condition for one kind of intent, once its task has started. -/
def gives (s : Script) (rt : Runtime World) : Kind → Prop
  | .quiet => rt.machine.state ≠ .active
  | .reads => rt.machine.state ≠ .active ∧ s.telemetry ≠ some true
  | .stops => rt.machine.state ≠ .active ∨
      (returns (s.setPower false) = true ∧ logs s "emergency_stop" "voice_or_text_command" true)
  | .shutsDown => True
  | .drives => grants rt = true → driveReleases s rt.now rt.machine.state

/-- The services that the run calls behave so that power is given back. A task that
cannot start leaves everything as it was. -/
def GivesBack (s : Script) (intent : StructuredIntent) (user : String) (rt : Runtime World) : Prop :=
  match starts s intent user rt.nextTask with
  | some arguments => gives s rt (kind s intent.intent arguments rt.controller.estop)
  | none => rt.machine.state ≠ .active

variable {s : Script} {α : Type}

/-! Every handler gives power back exactly under its condition. -/

/-- What a handler finds once the task has started. -/
structure Begins (rt : Runtime World) : Prop where
  env : rt.env = {}
  contactor : rt.controller.power = false
  going : rt.cancelled = false

private theorem Begins.calm {rt : Runtime World} (begins : Begins rt) :
    Calm (rt.machine.state = .active) false rt :=
  ⟨by rw [begins.env], begins.contactor, Iff.rfl⟩

/-- A handler that ends in a calm context. -/
private theorem released_of_calm {p : Proc (Brain World) Exn α} {m : Brain World}
    {before active : Prop} {power : Bool}
    (ends : Triple (fun m => Calm before false m.rt) p (fun _ m => Calm active power m.rt)
      (fun _ m => Calm active power m.rt)) (calm : Calm before false m.rt) :
    Released (p m).2.rt ↔ ¬ active ∧ power = false := by
  have ends := ends m calm
  rcases run : p m with ⟨e | a, m'⟩ <;> rw [run] at ends <;> exact ends.released_iff

private theorem heard_false : heard s false = false ↔ s.telemetry ≠ some true := by
  unfold heard
  rcases s.telemetry with _ | _ | _ <;> simp

/-- Outside code that leaves the world alone decides nothing. -/
private theorem keeps_released_outside {decided : Prop} {p : Proc World Exn α}
    (same : ∀ w, (p w).2 = w) :
    Keeps (fun m : Brain World => Released m.rt ↔ decided) (onRt (outside p)) := by
  refine keeps_iff.mpr fun m holds => ?_
  rw [onRt_run, outside_run, same]
  exact holds

private theorem keeps_released_inspectTarget {decided : Prop} (task : Task) (drive : Items) :
    Keeps (fun m : Brain World => Released m.rt ↔ decided) (inspectTarget (scripted s) task drive) := by
  refine keeps_bind (keeps_iff.mpr fun m holds => ?_) fun _ => ?_
  · refine Iff.trans ?_ holds
    exact ⟨fun r => ⟨r.power, r.contactor, r.state⟩, fun r => ⟨r.power, r.contactor, r.state⟩⟩
  refine keeps_bind (keeps_attempt (keeps_released_outside fun _ => rfl)) fun outcome => ?_
  cases outcome with
  | error e => exact keeps_pure _
  | ok findings => exact keeps_pure _

/-- The answer of the world model to a destination. -/
private theorem resolve_run (dest : PyVal) (m : Brain World) :
    onRt (outside ((scripted s).resolve dest)) m = (s.resolve dest, m) := rfl

private theorem resolves_some {dest : PyVal} {goal : Pose} (answer : s.resolve dest = .ok (some goal)) :
    resolves s dest = true := by
  simp [resolves, answer]

/-- A destination that is not found leaves everything as it was. -/
private theorem released_unresolved {m : Brain World} (begins : Begins m.rt) :
    Released m.rt ↔ gives s m.rt .quiet := by
  rw [begins.calm.released_iff]
  simp [gives]

/-- A drive, and what follows it without deciding anything. -/
private theorem released_driveTo {goal : Pose} {label : PyVal} {taskId : String} {m : Brain World}
    (begins : Begins m.rt) {rest : Bool × Items × String → Proc (Brain World) Exn α}
    (keeps : ∀ decided out, Keeps (fun m : Brain World => Released m.rt ↔ decided) (rest out)) :
    Released (((driveTo (scripted s) goal label taskId).run >>= rest) m).2.rt ↔
      gives s m.rt .drives :=
  after_bind (driveTo_run goal label taskId m begins.env begins.contactor begins.going) (keeps _)

private theorem released_hNavigate (task : Task) {m : Brain World} (begins : Begins m.rt) :
    Released ((hNavigate (scripted s) task).run m).2.rt ↔
      gives s m.rt
        (if resolves s (argument task "destination" (.str "")) then .drives else .quiet) := by
  simp only [hNavigate, Coroutine.run_bind, Coroutine.run_atomically]
  rcases answer : s.resolve (argument task "destination" (.str "")) with e | _ | goal
  · rw [bind_error (by rw [resolve_run, answer]), if_neg (by simp [resolves, answer])]
    exact released_unresolved begins
  · rw [bind_ok (by rw [resolve_run, answer]), if_neg (by simp [resolves, answer])]
    exact released_unresolved begins
  · rw [bind_ok (by rw [resolve_run, answer]), if_pos (resolves_some answer)]
    simp only [Coroutine.run_bind]
    exact released_driveTo begins fun _ _ => keeps_pure _

private theorem released_hGoCharge (task : Task) {m : Brain World} (begins : Begins m.rt) :
    Released ((hGoCharge (scripted s) task).run m).2.rt ↔
      gives s m.rt (if resolves s (.str "charging station") then .drives else .quiet) := by
  simp only [hGoCharge, Coroutine.run_bind, Coroutine.run_atomically]
  rcases answer : s.resolve (.str "charging station") with e | _ | goal
  · rw [bind_error (by rw [resolve_run, answer]), if_neg (by simp [resolves, answer])]
    exact released_unresolved begins
  · rw [bind_ok (by rw [resolve_run, answer]), if_neg (by simp [resolves, answer])]
    exact released_unresolved begins
  · rw [bind_ok (by rw [resolve_run, answer]), if_pos (resolves_some answer)]
    simp only [Coroutine.run_bind]
    refine released_driveTo begins fun decided ⟨ok, data, err⟩ => ?_
    refine keeps_bind (keeps_released_outside fun w => ?_) fun _ => keeps_pure _
    cases ok with
    | false => rfl
    | true =>
      simp only [dock, if_true]
      rw [show (scripted s).setCharging = s.setCharging.map fun f on => ScriptedWorld.answer (f on) from rfl]
      rcases s.setCharging with _ | setCharging
      · rfl
      · simp only [Option.map_some]
        rcases setCharging true with e | ⟨⟩ <;> rfl

private theorem released_hInspect (task : Task) {m : Brain World} (begins : Begins m.rt) :
    Released ((hInspect (scripted s) task).run m).2.rt ↔
      gives s m.rt (if (argument task "destination" .none).truthy = true ∧
        resolves s (argument task "destination" .none) = true then .drives else .quiet) := by
  unfold hInspect
  by_cases named : (argument task "destination" .none).truthy = true
  · simp only [named, if_true, true_and, Coroutine.run_bind, Coroutine.run_atomically]
    rcases answer : s.resolve (argument task "destination" .none) with e | _ | goal
    · rw [bind_error (by rw [resolve_run, answer]), if_neg (by simp [resolves, answer])]
      exact released_unresolved begins
    · rw [bind_ok (by rw [resolve_run, answer]), if_neg (by simp [resolves, answer])]
      exact released_unresolved begins
    · rw [bind_ok (by rw [resolve_run, answer]), if_pos (resolves_some answer)]
      simp only [Coroutine.run_bind]
      refine released_driveTo begins fun decided ⟨ok, data, err⟩ => ?_
      cases ok with
      | false => exact keeps_pure _
      | true => exact keeps_released_inspectTarget task data
  · simp only [named, if_false, false_and, Bool.false_eq_true]
    refine Keeps.after (keeps_released_inspectTarget task []) ?_
    exact released_unresolved begins

private theorem released_hExplain (task : Task) {m : Brain World} (begins : Begins m.rt) :
    Released (hExplain (scripted s) (droidServices (scripted s)) task m).2.rt ↔
      gives s m.rt (if explains task.arguments m.rt.controller.estop then .reads else .quiet) := by
  have ends := @calm_hExplain s (m.rt.machine.state = .active) false task
    m.rt.controller.estop m ⟨begins.calm, rfl⟩
  rcases run : hExplain (scripted s) (droidServices (scripted s)) task m with ⟨e | r, m'⟩ <;>
    rw [run] at ends <;> rw [Calm.released_iff ends] <;> split <;> simp [gives, heard_false]

private theorem released_hEstop (task : Task) {m : Brain World} (begins : Begins m.rt) :
    Released (hEstop (scripted s) task m).2.rt ↔ gives s m.rt .stops := by
  rw [released_of_calm (calm_hEstop task) begins.calm]
  unfold gives
  tauto

private theorem released_hShutdown (task : Task) {m : Brain World} (begins : Begins m.rt) :
    Released (hShutdown (scripted s) (droidServices (scripted s)) task m).2.rt ↔
      gives s m.rt .shutsDown := by
  rw [released_of_calm (calm_hShutdown task) begins.calm]
  simp [gives]

/-- An intent without a handler is quiet. -/
private theorem released_unhandled (task : Task) {m : Brain World} (begins : Begins m.rt)
    (unknown : task.intent ∉ (handlers (scripted s) (droidServices (scripted s))).map Prod.fst) :
    Released ((handlerFor (scripted s) (droidServices (scripted s)) task.intent task).run m).2.rt ↔
      gives s m.rt (kind s task.intent task.arguments m.rt.controller.estop) := by
  have none : (handlers (scripted s) (droidServices (scripted s))).lookup task.intent = none := by
    rw [List.lookup_eq_none_iff]
    intro entry member
    exact bne_iff_ne.mpr fun same => unknown (same ▸ List.mem_map_of_mem member)
  have quiet : kind s task.intent task.arguments m.rt.controller.estop = .quiet := by
    simp only [handlers, List.map_cons, List.map_nil, List.mem_cons, List.not_mem_nil, or_false,
      not_or] at unknown
    simp [kind, destination, readingIntents, unknown]
  rw [handlerFor, none, quiet]
  exact released_unresolved begins

private theorem kind_inspect (arguments : Items) (engaged : Bool) :
    kind s "inspect.named_target" arguments engaged =
      if ((PyVal.lookup "destination" arguments).getD .none).truthy = true ∧
        resolves s ((PyVal.lookup "destination" arguments).getD .none) = true
      then .drives else .quiet := by
  by_cases named : ((PyVal.lookup "destination" arguments).getD .none).truthy = true <;>
    simp [kind, destination, readingIntents, named]

/-- The handler of an intent gives power back exactly if its kind does. -/
private theorem released_handler (task : Task) {m : Brain World} (begins : Begins m.rt) :
    Released ((handlerFor (scripted s) (droidServices (scripted s)) task.intent task).run m).2.rt ↔
      gives s m.rt (kind s task.intent task.arguments m.rt.controller.estop) := by
  have calm := begins.calm
  have quiet {p : Proc (Brain World) Exn TaskResult}
      (ends : Keeps (fun m' => Calm (m.rt.machine.state = .active) false m'.rt) p) :
      Released (p m).2.rt ↔ gives s m.rt .quiet := by
    rw [released_of_calm ends calm]
    simp [gives]
  have reads {p : Proc (Brain World) Exn TaskResult}
      (ends : Triple (fun m' => Calm (m.rt.machine.state = .active) false m'.rt) p
        (fun _ m' => Calm (m.rt.machine.state = .active) (heard s false) m'.rt)
        (fun _ m' => Calm (m.rt.machine.state = .active) (heard s false) m'.rt)) :
      Released (p m).2.rt ↔ gives s m.rt .reads := by
    rw [released_of_calm ends calm, heard_false]
    rfl
  have toolReads (listed : task.intent ∈ readingTools) :
      Released (hTool (scripted s) task m).2.rt ↔ gives s m.rt .reads := by
    refine reads ?_
    have tool := @calm_hTool s (m.rt.machine.state = .active) false task
    rwa [if_pos listed] at tool
  have toolQuiet (unlisted : task.intent ∉ readingTools) :
      Released (hTool (scripted s) task m).2.rt ↔ gives s m.rt .quiet := by
    refine quiet ?_
    have tool := @calm_hTool s (m.rt.machine.state = .active) false task
    rwa [if_neg unlisted] at tool
  obtain ⟨intent, named⟩ : ∃ intent, task.intent = intent := ⟨_, rfl⟩
  rw [named] at toolReads toolQuiet ⊢
  by_cases known : intent ∈ (handlers (scripted s) (droidServices (scripted s))).map Prod.fst
  · simp only [handlers, List.map_cons, List.map_nil, List.mem_cons, List.not_mem_nil, or_false] at known
    rcases known with rfl | rfl | rfl | rfl | rfl | rfl | rfl | rfl | rfl | rfl | rfl | rfl | rfl |
      rfl | rfl | rfl | rfl | rfl | rfl | rfl | rfl | rfl | rfl
    · exact reads (calm_hStatus task)
    · exact toolReads (by decide)
    · exact toolReads (by decide)
    · exact reads (calm_hDiagnostics task)
    · exact released_hExplain task begins
    · exact toolQuiet (by decide)
    · exact toolQuiet (by decide)
    · exact toolQuiet (by decide)
    · exact reads (calm_hStop task)
    · exact released_hEstop task begins
    · exact reads (calm_hCancel task)
    · exact quiet (keeps_pure _)
    · exact quiet (calm_hSafeIdle task)
    · exact released_hNavigate task begins
    · exact released_hGoCharge task begins
    · refine (released_hInspect task begins).trans ?_
      rw [kind_inspect]
      rfl
    · exact toolQuiet (by decide)
    · exact toolQuiet (by decide)
    · exact toolQuiet (by decide)
    · exact toolQuiet (by decide)
    · exact toolQuiet (by decide)
    · exact quiet (keeps_pure _)
    · exact released_hShutdown task begins
  · rw [← named] at known ⊢
    exact released_unhandled task begins known

/-! The whole run. -/

private theorem keeps_released_finishTask {decided : Prop} (task : Task) (user : String)
    (result : TaskResult) :
    Keeps (fun m : Brain World => Released m.rt ↔ decided)
      (onRt (finishTask (scripted s) task user result)) :=
  keeps_iff.mpr fun _ holds =>
    (Beside.released_iff (Keeps.after (keeps_finishTask task user result)
      ⟨rfl, rfl, rfl, rfl⟩)).trans holds

/-- Starting the task does not change the condition. -/
private theorem gives_beside {rt rt' : Runtime World} (beside : Beside rt rt') (kind : Kind) :
    gives s rt' kind ↔ gives s rt kind := by
  have same : grants rt' = grants rt := by
    unfold grants contacted
    rw [beside.controller, beside.now]
  cases kind <;> simp only [gives, same, beside.now, beside.machine]

/-- The run of an intent over any services, begun with motor power off, ends with
power off and outside ACTIVE exactly if those services let it. -/
theorem power_released_iff (s : Script) (intent : StructuredIntent) (user : String)
    (m : Brain World) (world : m.rt.env = {}) (contactor : m.rt.controller.power = false) :
    Released (runScript s intent user m).rt ↔ GivesBack s intent user m.rt := by
  unfold runScript runIntent GivesBack
  simp only [Coroutine.run_bind, Coroutine.run_atomically]
  have start := startTask_run (s := s) intent user m.rt
  generalize ran : startTask (scripted s) intent user m.rt = outcome at start
  have first : onRt (startTask (scripted s) intent user) m =
      (outcome.1, { m with rt := outcome.2 }) := by
    rw [onRt_run, ran]
  cases start with
  | @refused e rt' refused beside =>
    rw [bind_error first, refused]
    refine beside.released_iff.trans ?_
    exact ⟨Released.state, fun idle => ⟨by rw [world], contactor, idle⟩⟩
  | @started task rt' begun named going beside =>
    rw [bind_ok first, begun]
    have begins : Begins rt' := by
      refine ⟨beside.env.trans world, ?_, going⟩
      rw [beside.controller]
      exact contactor
    have handled := released_handler (s := s) task (m := { m with rt := rt' }) begins
    rw [named, gives_beside beside, beside.controller] at handled
    refine after_bind (I := fun m' : Brain World => Released m'.rt ↔ _) ?_ fun outcome =>
      keeps_released_finishTask task user _
    rw [Coroutine.run_attempt]
    exact handled

/-! A drive whose first command finds the bus offline. -/

def wheeled : LoadedBody where
  manifest :=
    { bodyId := "r2", name := "R2", revision := "1", locomotionType := "differential" }

/-- Every call is answered but the drive command, which raises. -/
def offlineBus : Script where
  text := .ascii
  droidName := "IG-12"
  body := wheeled
  backendKind := "physical"
  connect := .ok ()
  shutdown := .ok ()
  setPower := fun _ => .ok ()
  battery := .ok { percent := 100 }
  actuatorNames := []
  readAllActuators := .ok []
  readSensor := fun id => .ok { sensorId := id, type := "unknown" }
  pose := fun _ => .ok {}
  busOnline := none
  setCharging := none
  resolve := fun _ => .ok (some { x := 5 })
  knownPlaces := .ok ["kitchen"]
  traversable := fun _ => .ok (true, "reachable")
  tick := fun _ =>
    { localization := .ok true
      blocked := .ok (false, none)
      obstacle := .ok ()
      velocity := .ok ({ linearX := 1 }, 5)
      drive := .error ⟨.backendError, "CAN-FD bus not connected"⟩
      contactor := none }
  stop := .ok ()
  inspect := fun _ => .ok []
  tool := fun intent _ => .ok { ok := true, kind := intent }
  configure := fun _ => .ok ()
  emit := fun _ => .ok ()
  publish := fun _ => .ok ()
  telemetry := none

def readyBrain : Brain World where
  rt :=
    { now := 0, controller := { lastContact := 0 }, machine := { state := .ready }, env := {} }

def toKitchen : StructuredIntent where
  intent := "navigation.navigate_to"
  arguments := .dict [(.str "destination", .str "kitchen")]
  requiresMotion := true

/-- The exception skips the release, and `run_intent` turns it into a failed result. -/
theorem power_held_after_offline_bus :
    Released readyBrain.rt ∧ ¬ Released (runScript offlineBus toKitchen "operator" readyBrain).rt := by
  have closed : (runScript offlineBus toKitchen "operator" readyBrain).rt.controller.power = true := by
    decide +kernel
  refine ⟨⟨rfl, rfl, by decide⟩, fun released => ?_⟩
  rw [released.contactor] at closed
  cases closed

theorem power_released_iff_offline_bus :
    readyBrain.rt.env = {} ∧ readyBrain.rt.controller.power = false ∧
    (Released (runScript offlineBus toKitchen "operator" readyBrain).rt ↔
      GivesBack offlineBus toKitchen "operator" readyBrain.rt) :=
  ⟨rfl, rfl, power_released_iff offlineBus toKitchen "operator" readyBrain rfl rfl⟩

end DroidOs.Executive.PowerRelease
