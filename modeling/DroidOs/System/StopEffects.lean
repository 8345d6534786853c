/- GID: DroidOs/System/StopEffects
   generality: I
   source: src/droidos/services/safety_gateway.py, src/droidos/core/events.py, src/droidos/core/logging.py
   digest: What an emergency stop leaves when subscribers raise and files fail. -/

import DroidOs.Backends.Hardware
import DroidOs.Core.Events
import DroidOs.Services.SafetyGateway

set_option autoImplicit false
set_option relaxedAutoImplicit false

namespace DroidOs.System.StopEffects

open DroidOs.Lib.Procedure
open DroidOs.Core.Values DroidOs.Core.States DroidOs.Core.Context DroidOs.Core.Events
open DroidOs.Backends.SafetyController DroidOs.Backends.Unpowered DroidOs.Backends.Hardware
open DroidOs.Services.SafetyGateway

/-- What the gateway reaches outside the core: the backend, once there is one, the audit
log and the event bus with the data of its subscribers. -/
structure Surroundings (δ : Type) where
  backend : Option HardwareBackend
  audit : AuditLog
  bus : EventBus δ
  own : δ

variable {δ : Type}

def Surroundings.powered (env : Surroundings δ) : Bool :=
  match env.backend with
  | some backend => powerEnabled backend
  | none => false

/-- A procedure that works on the subscribers' data. -/
def onOwn {α : Type} (p : Proc δ Exn α) : Proc (Surroundings δ) Exn α :=
  zoom Surroundings.own (fun own env => { env with own := own }) p

/-- `rt.bus.publish`. -/
def publish (event : Event) : Proc (Surroundings δ) Exn Unit := do
  modify fun env => { env with bus := env.bus.logEvent event }
  let callbacks ← reads fun env => env.bus.listeners event
  onOwn (deliver event callbacks)

/-- Any services, with this backend, this audit log and this event bus. -/
def wired (services : Services (Surroundings δ)) : Services (Surroundings δ) :=
  { services with
    setPower := fun enabled => modify fun env =>
      { env with backend := env.backend.map (setPower enabled) }
    powerEnabled := Surroundings.powered
    emit := fun rec => modify fun env => { env with audit := env.audit.record rec }
    publish := publish }

/-- The whole effect of an emergency stop. -/
structure Stopped (rt : Runtime (Surroundings δ)) : Prop where
  latched : rt.controller.estop = true
  contactor : rt.controller.power = false
  unpowered : rt.env.powered = false
  state : rt.machine.state = .emergencyStopped

/-- The runtime at the moment the stop publishes its event. -/
def cutOff (reason : String) (rt : Runtime (Surroundings δ)) : Runtime (Surroundings δ) :=
  let controller := (rt.controller.engageEstop reason).checkWatchdog rt.now
  let rec' := safetyRecord "emergency_stop" reason controller.estop
  { (saveLatch true reason rt).2 with
    controller := controller
    env := { rt.env with
      backend := rt.env.backend.map (setPower false)
      audit := rt.env.audit.record rec'
      bus := rt.env.bus.logEvent (safetyEvent "emergency_stop" reason) } }

/-- Who hears of the stop. -/
def hearers (rt : Runtime (Surroundings δ)) : List (Subscriber δ) :=
  rt.env.bus.subs "safety/event" ++ rt.env.bus.subs "*"

variable (services : Services (Surroundings δ)) (reason : String) (rt : Runtime (Surroundings δ))

def hear (own : δ) (rt : Runtime (Surroundings δ)) : Runtime (Surroundings δ) :=
  { rt with env := { rt.env with own := own } }

/-- Nothing before the publication can raise, and a callback that raises ends the stop there. -/
private theorem engageEstop_spec (own : δ) :
    (deliver (safetyEvent "emergency_stop" reason) (hearers rt) rt.env.own = (.ok (), own) →
      (engageEstop (wired services) reason rt).2 =
        { hear own (cutOff reason rt) with
          machine := rt.machine.force .emergencyStopped ("estop: " ++ reason)
          estopCalls := rt.estopCalls ++ [.engaged] }) ∧
    ∀ e, deliver (safetyEvent "emergency_stop" reason) (hearers rt) rt.env.own = (.error e, own) →
      (engageEstop (wired services) reason rt).2 = hear own (cutOff reason rt) := by
  have run : engageEstop (wired services) reason rt =
      (outside (onOwn (deliver (safetyEvent "emergency_stop" reason) (hearers rt))) >>= fun _ => do
        force .emergencyStopped ("estop: " ++ reason)
        modify fun rt => { rt with estopCalls := rt.estopCalls ++ [.engaged] })
        (cutOff reason rt) := rfl
  have published (r : Except Exn Unit)
      (heard : deliver (safetyEvent "emergency_stop" reason) (hearers rt) rt.env.own = (r, own)) :
      outside (onOwn (deliver (safetyEvent "emergency_stop" reason) (hearers rt))) (cutOff reason rt) =
        (r, hear own (cutOff reason rt)) := by
    have same : (cutOff reason rt).env.own = rt.env.own := rfl
    rw [outside_run, onOwn, zoom_run, same, heard]
    rfl
  refine ⟨fun heard => ?_, fun e heard => ?_⟩
  · rw [run, bind_ok (published _ heard)]
    rfl
  · rw [run, bind_error (published _ heard)]

/-- Power goes before the event is published. -/
private theorem cutOff_unpowered : (cutOff reason rt).controller.estop = true ∧
    (cutOff reason rt).controller.power = false ∧ (cutOff reason rt).env.powered = false := by
  refine ⟨?_, ?_, ?_⟩
  · simp [cutOff]
  · simp [cutOff, SimulatedSafetyController.checkWatchdog_power]
  · unfold cutOff Surroundings.powered
    cases rt.env.backend with
    | none => rfl
    | some backend => cases backend <;> rfl

/-- Whoever raises and whatever fails, the latch is set and power is off. -/
theorem engageEstop_unpowered : (engageEstop (wired services) reason rt).2.controller.estop = true ∧
    (engageEstop (wired services) reason rt).2.controller.power = false ∧
    (engageEstop (wired services) reason rt).2.env.powered = false := by
  rcases heard : deliver (safetyEvent "emergency_stop" reason) (hearers rt) rt.env.own with ⟨e | _, own⟩
  · rw [(engageEstop_spec services reason rt own).2 e heard]
    exact cutOff_unpowered reason rt
  · rw [(engageEstop_spec services reason rt own).1 heard]
    exact cutOff_unpowered reason rt

/-- An emergency stop completes exactly when every callback returns, or the state machine
was stopped before. -/
theorem engageEstop_stops_iff : Stopped (engageEstop (wired services) reason rt).2 ↔
    Quiet (safetyEvent "emergency_stop" reason) (hearers rt) rt.env.own ∨
      rt.machine.state = .emergencyStopped := by
  have power := engageEstop_unpowered services reason rt
  have whole : Stopped (engageEstop (wired services) reason rt).2 ↔
      (engageEstop (wired services) reason rt).2.machine.state = .emergencyStopped :=
    ⟨Stopped.state, fun state => ⟨power.1, power.2.1, power.2.2, state⟩⟩
  rw [whole, ← deliver_returns_iff]
  rcases heard : deliver (safetyEvent "emergency_stop" reason) (hearers rt) rt.env.own with ⟨e | _, own⟩
  · rw [(engageEstop_spec services reason rt own).2 e heard]
    exact ⟨Or.inr, fun stopped => stopped.resolve_left fun returns => by cases returns⟩
  · rw [(engageEstop_spec services reason rt own).1 heard]
    exact ⟨fun _ => Or.inl rfl, fun _ => rfl⟩

/-- Services that use neither the backend nor the bus. -/
def beside (rest : Services δ) : Services (Surroundings δ) where
  text := rest.text
  droidName := rest.droidName
  body := rest.body
  backendKind := rest.backendKind
  connect := onOwn rest.connect
  shutdown := onOwn rest.shutdown
  setPower := fun enabled => onOwn (rest.setPower enabled)
  powerEnabled := fun env => rest.powerEnabled env.own
  battery := onOwn rest.battery
  actuatorNames := fun env => rest.actuatorNames env.own
  readAllActuators := onOwn rest.readAllActuators
  readSensor := fun id => onOwn (rest.readSensor id)
  pose := onOwn rest.pose
  busOnline := rest.busOnline.map onOwn
  setCharging := rest.setCharging.map fun set on => onOwn (set on)
  resolve := fun dest => onOwn (rest.resolve dest)
  knownPlaces := onOwn rest.knownPlaces
  traversable := fun dest => onOwn (rest.traversable dest)
  localizationOk := onOwn rest.localizationOk
  isPathBlocked := onOwn rest.isPathBlocked
  setObstacle := fun x y => onOwn (rest.setObstacle x y)
  velocityToward := fun goal here => onOwn (rest.velocityToward goal here)
  drive := fun vel dt => onOwn (rest.drive vel dt)
  stop := onOwn rest.stop
  inspect := fun target => onOwn (rest.inspect target)
  tool := fun intent arguments => onOwn (rest.tool intent arguments)
  configure := fun name => onOwn (rest.configure name)
  emit := fun record => onOwn (rest.emit record)
  publish := fun event => onOwn (rest.publish event)

/-- A subscriber whose display is broken. -/
def brokenDisplay : Subscriber Unit := fun _ => raise ⟨.other "RuntimeError", "display offline"⟩

/-- A droid that is ready, with that subscriber. -/
def watchedDroid : Runtime (Surroundings Unit) where
  now := 10
  controller := { lastContact := 10 }
  machine := { state := .ready }
  env := {
    backend := some (.simulation { power := true, actuators := ["drive"] })
    audit := {}
    bus := EventBus.subscribe "safety/event" brokenDisplay {}
    own := () }

/-- The stop takes the power and leaves the droid ready. -/
theorem stop_unheard : ¬ Stopped (engageEstop
    (wired (beside (inert .ascii (wheelBody .simulation [] [])))) "operator_command" watchedDroid).2 := by
  intro stopped
  cases stopped.state

end DroidOs.System.StopEffects
