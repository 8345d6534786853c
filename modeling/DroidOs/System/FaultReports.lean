/- GID: DroidOs/System/FaultReports
   generality: I
   source: src/droidos/services/diagnostics.py
   digest: When the diagnostics are collected at all, and exactly what makes them list a fault. -/

import DroidOs.Services.FaultSources
import DroidOs.Services.Readiness
import DroidOs.System.Registration

set_option autoImplicit false
set_option relaxedAutoImplicit false

namespace DroidOs.System.FaultReports

open DroidOs.Lib.Procedure
open DroidOs.Core.Values DroidOs.Core.States DroidOs.Core.Context
open DroidOs.Backends.Unpowered DroidOs.Backends.Hardware DroidOs.Backends.SafetyController
open DroidOs.Services
open DroidOs.Services.Lifecycle DroidOs.Services.Supervisor DroidOs.Services.Diagnostics
open DroidOs.Services.FaultSources
open Registration

variable {δ : Type} (world : Setting) (host : Host δ)

/-- The controller is latched, faulty or dead, or has not heard from the host for too long. -/
def ControllerTrouble (rt : Runtime (Station δ)) : Prop :=
  rt.controller.estop = true ∨ rt.controller.faults ≠ [] ∨ rt.controller.alive = false ∨
    rt.controller.linkUp = false ∨ rt.controller.silent rt.now = true

/-- What makes some source report a fault. -/
inductive Troubled (m : Brain (Station δ)) : Prop
  | storage (full : PyFloat.lt 90 host.diskPercent = true)
  | actuator (trouble : ActuatorTrouble world m.rt.env)
  | sensor (trouble : SensorTrouble world m.rt.env)
  | battery (trouble : BatteryTrouble world m.rt.env)
  | controller (trouble : ControllerTrouble m.rt)
  | place (trouble : PlaceTrouble world m.rt.env)
  | gait (trouble : GaitTrouble world m.rt.env)
  | camera (trouble : CameraTrouble world m.rt.env)
  | service (name : String) (own : name = "diagnostics" ∨ name = "executive") (idle : m.state name ≠ .active)

variable {world host} {w : Station δ}

/-- What `diagnosticsOf` runs for the services beside the gateway. -/
private theorem diagnosticsOf_other {name : String} (other : name ≠ "safety_gateway") (m : Brain (Station δ)) :
    diagnosticsOf world host name m = match (overrides world host).lookup name with
      | some own => onRt (outside own) m
      | none => (.ok [serviceStatus name (m.table name)], m) := by
  unfold diagnosticsOf
  rw [if_neg other]
  rcases (overrides world host).lookup name with _ | own <;> rfl

/-- The services that a system registers after its gateway. -/
private def others : List String :=
  ["hardware", "diagnostics", "state_estimator", "world_model", "memory", "perception", "navigation",
    "motion", "update", "executive", "voice"]

private theorem services_eq (svc : Services (Station δ)) : (droidServices svc).services =
    SafetyGateway.safetyGateway svc :: (droidServices svc).services.tail ∧
    (droidServices svc).services.tail.map ManagedService.name = others := ⟨rfl, rfl⟩

/-- The services among them that keep the default. -/
private def plain : List String := ["diagnostics", "executive"]

private theorem entry_lookup {entry : String × Proc (Station δ) Exn (List DiagnosticStatus)}
    (listed : entry ∈ overrides world host) :
    entry.1 ∈ others ∧ (overrides world host).lookup entry.1 = some entry.2 := by
  simp only [overrides, List.mem_cons, List.not_mem_nil, or_false] at listed
  rcases listed with rfl | rfl | rfl | rfl | rfl | rfl | rfl | rfl | rfl <;> simp [others, overrides, List.lookup_cons]

variable (world host) in
private theorem plain_lookup {name : String} (listed : name ∈ plain) :
    name ∈ others ∧ (overrides world host).lookup name = none := by
  simp only [plain, List.mem_cons, List.not_mem_nil, or_false] at listed
  rcases listed with rfl | rfl <;> simp [others, overrides, List.lookup_cons]

variable (world host) in
private theorem other_cases {name : String} (listed : name ∈ others) :
    (∃ own, (name, own) ∈ overrides world host ∧ (overrides world host).lookup name = some own) ∨ name ∈ plain := by
  cases found : (overrides world host).lookup name with
  | some own =>
    obtain ⟨before, after, split, -⟩ := List.lookup_eq_some_iff.mp found
    refine .inl ⟨own, ?_, rfl⟩
    rw [split]
    exact List.mem_append_right _ List.mem_cons_self
  | none =>
    refine .inr ?_
    simp only [others, List.mem_cons, List.not_mem_nil, or_false] at listed
    rcases listed with rfl | rfl | rfl | rfl | rfl | rfl | rfl | rfl | rfl | rfl | rfl <;>
      simp_all [plain, overrides, List.lookup_cons]

private theorem other_ne {name : String} (listed : name ∈ others) : name ≠ "safety_gateway" := by
  rintro rfl
  simp [others] at listed

section

variable {m : Brain (Station δ)} (settled : Settled world m.rt.env)
include settled

variable (host) in
private theorem other_same {name : String} (listed : name ∈ others) :
    (diagnosticsOf world host name m).2 = m := by
  rw [diagnosticsOf_other (other_ne listed)]
  obtain ⟨own, entry, found⟩ | kept := other_cases world host listed
  · rw [found]
    change { m with rt := { m.rt with env := (own m.rt.env).2 } } = m
    rw [overrides_same settled entry]
  · rw [(plain_lookup world host kept).2]

omit settled in
private theorem other_override {entry : String × Proc (Station δ) Exn (List DiagnosticStatus)}
    (listed : entry ∈ overrides world host) :
    (diagnosticsOf world host entry.1 m).1 = (entry.2 m.rt.env).1 := by
  obtain ⟨other, found⟩ := entry_lookup listed
  rw [diagnosticsOf_other (other_ne other), found]
  rfl

omit settled in
private theorem other_plain {name : String} (kept : name ∈ plain) :
    (diagnosticsOf world host name m).1 = .ok [serviceStatus name (m.table name)] := by
  obtain ⟨other, found⟩ := plain_lookup world host kept
  rw [diagnosticsOf_other (other_ne other), found]

omit settled in
private theorem others_return : (∀ name ∈ others, ∃ items, (diagnosticsOf world host name m).1 = .ok items) ↔
    ∀ entry ∈ overrides world host, Returns entry.2 m.rt.env := by
  constructor
  · intro all entry listed
    obtain ⟨items, ran⟩ := all entry.1 (entry_lookup listed).1
    rw [other_override listed] at ran
    exact ⟨items, ran⟩
  · intro all name listed
    obtain ⟨own, entry, _⟩ | kept := other_cases world host listed
    · obtain ⟨items, ran⟩ := all (name, own) entry
      exact ⟨items, (other_override entry).trans ran⟩
    · exact ⟨_, other_plain kept⟩

variable (host) in
private theorem others_report (capable : ∃ mobile, world.body.capabilities.supportsMotion = .ok mobile) :
    (∃ name ∈ others, ∃ items, (diagnosticsOf world host name m).1 = .ok items ∧ ∃ d ∈ items, d.isFault = true) ↔
      (PlaceTrouble world m.rt.env ∨ GaitTrouble world m.rt.env ∨ CameraTrouble world m.rt.env) ∨
        ∃ name ∈ plain, m.state name ≠ .active := by
  have idle (name : String) : (serviceStatus name (m.table name)).isFault = true ↔ m.state name ≠ .active := by
    rw [isFault_iff]
    unfold serviceStatus Managed.state
    split <;> simp_all
  rw [← overrides_report settled capable]
  constructor
  · rintro ⟨name, listed, items, ran, fault⟩
    obtain ⟨own, entry, _⟩ | kept := other_cases world host listed
    · exact .inl ⟨(name, own), entry, items, (other_override entry).symm.trans ran, fault⟩
    · rw [other_plain kept] at ran
      cases ran
      obtain ⟨d, member, fault⟩ := fault
      rw [List.mem_singleton] at member
      subst member
      exact .inr ⟨name, kept, (idle name).mp fault⟩
  · rintro (⟨entry, listed, items, ran, fault⟩ | ⟨name, kept, inactive⟩)
    · exact ⟨entry.1, (entry_lookup listed).1, items, (other_override listed).trans ran, fault⟩
    · exact ⟨name, (plain_lookup world host kept).1, _, other_plain kept, _,
        List.mem_singleton_self _, (idle name).mpr inactive⟩

end

/-- The gateway finds an error exactly when its controller is in trouble, and nothing otherwise. -/
private theorem diagnostics_run (rt : Runtime (Station δ)) : ∃ level message,
    SafetyGateway.diagnostics rt = (.ok (level, message), Services.Readiness.heard rt) ∧
      (level = .error ∧ ControllerTrouble rt ∨ level = .ok ∧ ¬ ControllerTrouble rt) := by
  have same : (rt.controller.checkWatchdog rt.now).silent rt.now = rt.controller.silent rt.now := by
    simp [SimulatedSafetyController.silent]
  have faulty : ((rt.controller.checkWatchdog rt.now).snapshot rt.now).faults.isEmpty = rt.controller.faults.isEmpty := by
    rw [SimulatedSafetyController.snapshot_faults_isEmpty, SimulatedSafetyController.checkWatchdog_faults]
  have engaged : ((rt.controller.checkWatchdog rt.now).snapshot rt.now).estopEngaged = rt.controller.estop := by
    simp
  have linked : (!((rt.controller.checkWatchdog rt.now).snapshot rt.now).alive ||
      !((rt.controller.checkWatchdog rt.now).snapshot rt.now).watchdogOk) =
        (!rt.controller.alive || !rt.controller.linkUp || rt.controller.silent rt.now) := by
    simp only [SimulatedSafetyController.snapshot, same, SimulatedSafetyController.checkWatchdog_alive,
      SimulatedSafetyController.checkWatchdog_linkUp]
    cases rt.controller.alive <;> cases rt.controller.linkUp <;> cases rt.controller.silent rt.now <;> rfl
  unfold SafetyGateway.diagnostics
  rw [bind_ok (SafetyGateway.controllerStatus_run rt)]
  rw [engaged, faulty, linked]
  unfold ControllerTrouble
  cases estop : rt.controller.estop with
  | true => exact ⟨.error, _, rfl, .inl ⟨rfl, .inl rfl⟩⟩
  | false =>
    cases faults : rt.controller.faults.isEmpty with
    | false => exact ⟨.error, _, rfl, .inl ⟨rfl, .inr (.inl (by simpa using faults))⟩⟩
    | true =>
      have none : rt.controller.faults = [] := by simpa using faults
      cases broken : !rt.controller.alive || !rt.controller.linkUp || rt.controller.silent rt.now with
      | true =>
        refine ⟨.error, _, rfl, .inl ⟨rfl, .inr (.inr ?_)⟩⟩
        simpa [or_assoc] using broken
      | false =>
        refine ⟨.ok, _, rfl, .inr ⟨rfl, ?_⟩⟩
        simp only [Bool.or_eq_false_iff, Bool.not_eq_false'] at broken
        simp [none, broken]

private theorem gatewayStatus_run (rt : Runtime (Station δ)) : ∃ d, gatewayStatus rt = (.ok d, Services.Readiness.heard rt) ∧
    (d.level = .error ↔ ControllerTrouble rt) ∧ (d.isFault = true ↔ ControllerTrouble rt) := by
  obtain ⟨level, message, ran, found⟩ := diagnostics_run rt
  refine ⟨_, bind_ok ran, ?_, ?_⟩
  · obtain ⟨rfl, trouble⟩ | ⟨rfl, none⟩ := found <;> simp_all
  · rw [isFault_iff]
    obtain ⟨rfl, trouble⟩ | ⟨rfl, none⟩ := found <;> simp_all

private theorem robotLevel_same (state : DroidState) : (robotLevel world state w).2 = w :=
  bind_same rfl fun _ => rfl

private theorem robotLevel_iff (state : DroidState) (items : List DiagnosticStatus) :
    (robotLevel world state w).1 = .ok items ↔
      (∃ conf, localizationConfidence world w.backend = .ok conf) ∧
        [{ name := "robot/state", level := .ok, message := state.value }] = items := by
  unfold robotLevel
  rw [bind_same_iff rfl]
  simp only [pure_run, Except.ok.injEq, exists_and_right]
  rfl

/-- The brain once what had arrived has been received. -/
def receivedBrain (world : Setting) (m : Brain (Station δ)) : Brain (Station δ) :=
  { m with rt := { m.rt with env := m.rt.env.settled world } }

/-- The same brain after the gateway has read its controller. -/
private def heardBrain (world : Setting) (m : Brain (Station δ)) : Brain (Station δ) :=
  { receivedBrain world m with rt := Services.Readiness.heard (receivedBrain world m).rt }

section

variable {svc : Services (Station δ)} {m : Brain (Station δ)} (listed : actuatorNames m.rt.env.backend ≠ [])
include listed

variable (world) in
theorem receivedBrain_settled : Settled world (receivedBrain world m).rt.env where
  listed := by
    change actuatorNames (received world m.rt.env.backend) ≠ []
    rw [received_actuatorNames]
    exact listed
  received := received_received _

variable (world) in
/-- The first source that reads the backend receives what had arrived. -/
private theorem actuators_receive :
    (∃ e, (actuators world m.rt.env).1 = .error e ∧ (actuators world (receivedBrain world m).rt.env).1 = .error e) ∨
      actuators world m.rt.env = actuators world (receivedBrain world m).rt.env := by
  have read : onBackend (readAllActuators world) m.rt.env =
      onBackend (readAllActuators world) (receivedBrain world m).rt.env := by
    rw [readAllActuators_run (receivedBrain_settled world listed), onBackend, readAllActuators_eq listed]
    rfl
  unfold actuators
  rcases world.body.limits.motorWarnTemp world.text with e | warn
  · exact .inl ⟨e, rfl, rfl⟩
  rcases world.body.limits.motorFaultTemp world.text with e | fault
  · exact .inl ⟨e, rfl, rfl⟩
  · right
    change (onBackend (readAllActuators world) >>= fun states =>
        pure (states.map (actuatorStatus world warn fault))) m.rt.env =
      (onBackend (readAllActuators world) >>= fun states =>
        pure (states.map (actuatorStatus world warn fault))) (receivedBrain world m).rt.env
    rw [bind_run, bind_run, read]

/-- So the collection is that of the brain which has received it. -/
private theorem collect_receives : (collect world host (droidServices svc) m).1 =
    (collect world host (droidServices svc) (receivedBrain world m)).1 := by
  unfold collect
  obtain ⟨e, raised, raised'⟩ | same := actuators_receive world listed
  · have raises : ∀ n : Brain (Station δ), (actuators world n.rt.env).1 = .error e →
        ∃ n', onRt (outside (actuators world)) n = (.error e, n') := by
      intro n raised
      refine ⟨(onRt (outside (actuators world)) n).2, Prod.ext ?_ rfl⟩
      exact raised
    obtain ⟨n, first⟩ := raises m raised
    obtain ⟨n', second⟩ := raises (receivedBrain world m) raised'
    rw [bind_error first, bind_error second]
  · have step : onRt (outside (actuators world)) m =
        onRt (outside (actuators world)) (receivedBrain world m) := by
      rw [onRt_run, onRt_run, outside_run, outside_run, same]
      rfl
    rw [bind_run, bind_run, step]

/-- What the collection puts together. -/
private theorem collect_iff {found : Findings} : (collect world host (droidServices svc) m).1 = .ok found ↔
    ∃ acts, (actuators world (receivedBrain world m).rt.env).1 = .ok acts ∧
    ∃ sens, (sensors world host (receivedBrain world m).rt.env).1 = .ok sens ∧
    ∃ batt, (Diagnostics.battery world (receivedBrain world m).rt.env).1 = .ok batt ∧
    ∃ robot, (robotLevel world m.rt.machine.state (receivedBrain world m).rt.env).1 = .ok robot ∧
    ∃ gate, gatewayStatus (receivedBrain world m).rt = (.ok gate, (heardBrain world m).rt) ∧
    ∃ rest, (gather (serviceFindings world host) (droidServices svc).services.tail (heardBrain world m)).1 = .ok rest ∧
    found = {
      computer := computer world host, network := network host, actuators := acts, sensors := sens,
      battery := batt, robot := robot, services := ("safety_gateway", [gate]) :: rest } := by
  have settled := receivedBrain_settled world listed
  have outsideSame {α : Type} {p : Proc (Station δ) Exn α} (same : (p (receivedBrain world m).rt.env).2 =
      (receivedBrain world m).rt.env) : (onRt (outside p) (receivedBrain world m)).2 = receivedBrain world m := by
    rw [onRt_run, outside_run, same]
  rw [collect_receives listed]
  unfold collect
  rw [bind_same_iff (outsideSame (actuators_same settled))]
  refine exists_congr fun acts => and_congr_right fun _ => ?_
  rw [bind_same_iff (outsideSame sensors_same)]
  refine exists_congr fun sens => and_congr_right fun _ => ?_
  rw [bind_same_iff (outsideSame (battery_same settled))]
  refine exists_congr fun batt => and_congr_right fun _ => ?_
  rw [reads_bind, bind_same_iff (outsideSame (robotLevel_same _))]
  refine exists_congr fun robot => and_congr_right fun _ => ?_
  obtain ⟨gate, ran, _⟩ := gatewayStatus_run (receivedBrain world m).rt
  have step : onRt gatewayStatus (receivedBrain world m) = (.ok gate, heardBrain world m) := by
    rw [onRt_run, ran]
    rfl
  have first : serviceFindings world host (SafetyGateway.safetyGateway svc) (receivedBrain world m) =
      (.ok ("safety_gateway", [gate]), heardBrain world m) := by
    have own : diagnosticsOf world host "safety_gateway" (receivedBrain world m) = (.ok [gate], heardBrain world m) := by
      unfold diagnosticsOf
      rw [if_pos rfl]
      exact bind_ok step
    exact bind_ok own
  have split := (services_eq svc).1
  rw [split, gather, bind_bind, bind_ok first, bind_bind]
  rw [bind_returns_iff]
  constructor
  · rintro ⟨rest, later, done⟩
    cases done
    exact ⟨gate, ran, rest, later, rfl⟩
  · rintro ⟨gate', ran', rest, later, rfl⟩
    rw [ran] at ran'
    cases ran'
    exact ⟨rest, later, rfl⟩

variable (world host) in
private theorem tail_same {s : ManagedService (Runtime (Station δ))} (member : s ∈ (droidServices svc).services.tail) :
    s.name ∈ others ∧ (serviceFindings world host s (heardBrain world m)).2 = heardBrain world m := by
  have other : s.name ∈ others := by
    rw [← (services_eq svc).2]
    exact List.mem_map_of_mem member
  refine ⟨other, bind_same ?_ fun _ => rfl⟩
  exact other_same host (m := heardBrain world m) (receivedBrain_settled world listed) other

/-- The collection returns exactly when every source does. -/
theorem collect_returns_iff : (∃ found, (collect world host (droidServices svc) m).1 = .ok found) ↔
    Reporting world (receivedBrain world m).rt.env := by
  have settled := receivedBrain_settled world listed
  have each : ∀ s ∈ (droidServices svc).services.tail,
      (serviceFindings world host s (heardBrain world m)).2 = heardBrain world m :=
    fun s member => (tail_same world host listed member).2
  have services : (∃ rest, (gather (serviceFindings world host) (droidServices svc).services.tail
      (heardBrain world m)).1 = .ok rest) ↔
      ∀ entry ∈ overrides world host, Returns entry.2 (receivedBrain world m).rt.env := by
    rw [gather_returns_iff each]
    refine Iff.trans ?_ (others_return (m := heardBrain world m))
    rw [← (services_eq svc).2, List.forall_mem_map]
    refine forall₂_congr fun s member => ?_
    have other := (tail_same world host listed member).1
    have same := other_same host (m := heardBrain world m) settled other
    constructor
    · rintro ⟨row, ran⟩
      obtain ⟨items, own, _⟩ := (bind_same_iff same).mp ran
      exact ⟨items, own⟩
    · rintro ⟨items, own⟩
      exact ⟨_, (bind_same_iff same).mpr ⟨items, own, rfl⟩⟩
  constructor
  · rintro ⟨found, ran⟩
    obtain ⟨acts, a, sens, s, batt, b, robot, r, gate, g, rest, others, -⟩ := (collect_iff listed).mp ran
    obtain ⟨warn, warm, fault, hot, states, read, -⟩ := (actuators_iff settled acts).mp a
    obtain ⟨state, charge, wp, low, cp, empty, -⟩ := (battery_iff settled batt).mp b
    obtain ⟨-, -, -, blocked, has, mobile⟩ := (overrides_return settled).mp (services.mp ⟨rest, others⟩)
    exact ⟨⟨warn, warm⟩, ⟨fault, hot⟩, ⟨states, read⟩, sensors_returns.mp ⟨sens, s⟩, ⟨state, charge⟩,
      ⟨wp, low⟩, ⟨cp, empty⟩, blocked, has, mobile⟩
  · intro reporting
    obtain ⟨⟨warn, warm⟩, ⟨fault, hot⟩, ⟨states, read⟩, each, ⟨state, charge⟩, ⟨wp, low⟩, ⟨cp, empty⟩, blocked, has,
      mobile⟩ := reporting
    have located := confidence_returns each
    have sensed : ∃ sens, (sensors world host (receivedBrain world m).rt.env).1 = .ok sens := sensors_returns.mpr each
    obtain ⟨sens, s⟩ := sensed
    obtain ⟨rest, others⟩ := services.mpr ((overrides_return settled).mpr
      ⟨⟨states, read⟩, ⟨warn, warm⟩, located, blocked, has, mobile⟩)
    obtain ⟨gate, g, -⟩ := gatewayStatus_run (receivedBrain world m).rt
    have a := (actuators_iff settled _).mpr ⟨warn, warm, fault, hot, states, read, rfl⟩
    have b := (battery_iff settled _).mpr ⟨state, charge, wp, low, cp, empty, rfl⟩
    have r := (robotLevel_iff m.rt.machine.state _).mpr ⟨located, rfl⟩
    exact ⟨_, (collect_iff listed).mpr ⟨_, a, sens, s, _, b, _, r, gate, g, rest, others, rfl⟩⟩

/-- What it lists has a fault exactly when something is in trouble. -/
theorem collect_faults_iff {found : Findings} (ran : (collect world host (droidServices svc) m).1 = .ok found) :
    (∃ d ∈ found.all, d.isFault = true) ↔ Troubled world host (receivedBrain world m) := by
  have settled := receivedBrain_settled world listed
  have reporting := (collect_returns_iff listed).mp ⟨found, ran⟩
  obtain ⟨acts, a, sens, s, batt, b, robot, r, gate, g, rest, others, rfl⟩ := (collect_iff listed).mp ran
  have storage : (∃ d ∈ computer world host, d.isFault = true) ↔ PyFloat.lt 90 host.diskPercent = true := by
    simp [computer]
  have net : ¬ ∃ d ∈ network host, d.isFault = true := by simp [network]
  have robots : ¬ ∃ d ∈ robot, d.isFault = true := by
    obtain ⟨-, rfl⟩ := (robotLevel_iff _ robot).mp r
    simp
  have gateway : gate.isFault = true ↔ ControllerTrouble (receivedBrain world m).rt := by
    obtain ⟨gate', g', -, fault⟩ := gatewayStatus_run (receivedBrain world m).rt
    rw [g] at g'
    cases g'
    exact fault
  have services : (∃ row ∈ rest, ∃ d ∈ row.2, d.isFault = true) ↔
      (PlaceTrouble world (receivedBrain world m).rt.env ∨ GaitTrouble world (receivedBrain world m).rt.env ∨
        CameraTrouble world (receivedBrain world m).rt.env) ∨ ∃ name ∈ plain, m.state name ≠ .active := by
    rw [gather_exists_iff (fun s member => (tail_same world host listed member).2) others fun row => ∃ d ∈ row.2, d.isFault = true]
    refine Iff.trans ?_ (others_report host (m := heardBrain world m) settled reporting.mobile)
    rw [← (services_eq svc).2]
    simp only [List.mem_map, exists_exists_and_eq_and]
    refine exists_congr fun s => and_congr_right fun member => ?_
    have other := (tail_same world host listed member).1
    have same := other_same host (m := heardBrain world m) settled other
    constructor
    · rintro ⟨row, ran, fault⟩
      obtain ⟨items, own, done⟩ := (bind_same_iff same).mp ran
      cases done
      exact ⟨items, own, fault⟩
    · rintro ⟨items, own, fault⟩
      exact ⟨_, (bind_same_iff same).mpr ⟨items, own, rfl⟩, fault⟩
  constructor
  · rintro ⟨d, member, fault⟩
    rcases Findings.mem_all.mp member with listed | listed | listed | listed | listed | listed | ⟨row, listed, inside⟩
    · exact .storage (storage.mp ⟨d, listed, fault⟩)
    · exact absurd ⟨d, listed, fault⟩ net
    · exact .actuator ((actuators_faults settled a).mp ⟨d, listed, fault⟩)
    · exact .sensor ((sensors_faults s).mp ⟨d, listed, fault⟩)
    · exact .battery ((battery_faults settled b).mp ⟨d, listed, fault⟩)
    · exact absurd ⟨d, listed, fault⟩ robots
    · rcases List.mem_cons.mp listed with rfl | listed
      · rw [List.mem_singleton] at inside
        subst inside
        exact .controller (gateway.mp fault)
      · obtain (lost | gait | dark) | ⟨name, kept, idle⟩ := services.mp ⟨row, listed, d, inside, fault⟩
        · exact .place lost
        · exact .gait gait
        · exact .camera dark
        · exact .service name (by simpa [plain] using kept) idle
  · intro trouble
    have ofService (reports : ∃ row ∈ rest, ∃ d ∈ row.2, d.isFault = true) :
        ∃ d ∈ Findings.all {
          computer := computer world host, network := network host, actuators := acts, sensors := sens,
          battery := batt, robot := robot, services := ("safety_gateway", [gate]) :: rest }, d.isFault = true := by
      obtain ⟨row, listed, d, inside, fault⟩ := reports
      have row_listed := List.mem_cons_of_mem ("safety_gateway", [gate]) listed
      exact ⟨d, Findings.mem_all.mpr (.inr (.inr (.inr (.inr (.inr (.inr ⟨row, row_listed, inside⟩)))))), fault⟩
    cases trouble with
    | storage full =>
      obtain ⟨d, listed, fault⟩ := storage.mpr full
      exact ⟨d, Findings.mem_all.mpr (.inl listed), fault⟩
    | actuator hot =>
      obtain ⟨d, listed, fault⟩ := (actuators_faults settled a).mpr hot
      exact ⟨d, Findings.mem_all.mpr (.inr (.inr (.inl listed))), fault⟩
    | sensor silent =>
      obtain ⟨d, listed, fault⟩ := (sensors_faults s).mpr silent
      exact ⟨d, Findings.mem_all.mpr (.inr (.inr (.inr (.inl listed)))), fault⟩
    | battery low =>
      obtain ⟨d, listed, fault⟩ := (battery_faults settled b).mpr low
      exact ⟨d, Findings.mem_all.mpr (.inr (.inr (.inr (.inr (.inl listed))))), fault⟩
    | controller halted =>
      refine ⟨gate, Findings.mem_all.mpr (.inr (.inr (.inr (.inr (.inr (.inr ?_)))))), gateway.mpr halted⟩
      exact ⟨_, List.mem_cons_self, List.mem_singleton_self gate⟩
    | place lost => exact ofService (services.mpr (.inl (.inl lost)))
    | gait gait => exact ofService (services.mpr (.inl (.inr (.inl gait))))
    | camera dark => exact ofService (services.mpr (.inl (.inr (.inr dark))))
    | service name own idle => exact ofService (services.mpr (.inr ⟨name, by simpa [plain] using own, idle⟩))

/-- Its errors for an actuator, for a required sensor and for the safety controller. -/
theorem collect_errors_iff {found : Findings} (ran : (collect world host (droidServices svc) m).1 = .ok found) :
    ((∃ d ∈ found.actuators, d.level = .error) ↔ ActuatorError world (receivedBrain world m).rt.env) ∧
    ((∃ d ∈ found.sensors, d.level = .error) ↔ SensorError world (receivedBrain world m).rt.env) ∧
    ((∃ items, ("safety_gateway", items) ∈ found.services ∧ ∃ d ∈ items, d.level = .error) ↔
      ControllerTrouble m.rt) := by
  have settled := receivedBrain_settled world listed
  obtain ⟨acts, a, sens, s, batt, b, robot, r, gate, g, rest, others, rfl⟩ := (collect_iff listed).mp ran
  refine ⟨actuators_errors settled a, sensors_errors s, ?_⟩
  obtain ⟨gate', g', error, -⟩ := gatewayStatus_run (receivedBrain world m).rt
  rw [g] at g'
  cases g'
  constructor
  · rintro ⟨items, member, d, inside, level⟩
    rcases List.mem_cons.mp member with same | later
    · cases same
      rw [List.mem_singleton] at inside
      subst inside
      exact error.mp level
    · have rows : ∃ row ∈ rest, row.1 = "safety_gateway" := ⟨_, later, rfl⟩
      rw [gather_exists_iff (fun s member => (tail_same world host listed member).2) others] at rows
      obtain ⟨service, inTail, row, ran, name⟩ := rows
      have other := (tail_same world host listed inTail).1
      have same := other_same host (m := heardBrain world m) settled other
      obtain ⟨_, _, done⟩ := (bind_same_iff same).mp ran
      cases done
      exact absurd name (other_ne other)
  · intro trouble
    exact ⟨[gate], List.mem_cons_self, gate, List.mem_singleton_self gate, error.mpr trouble⟩

end

end DroidOs.System.FaultReports
