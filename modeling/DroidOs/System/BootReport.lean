/- GID: DroidOs/System/BootReport
   generality: I
   source: src/droidos/services/supervisor.py, src/droidos/backends/canfd_hardware.py
   digest: Exactly when a boot that ends ready has nothing but successes among the required steps it reports. -/

import DroidOs.Services.CleanStart
import DroidOs.System.DiagnosticAgreement
import DroidOs.System.HookFailures

set_option autoImplicit false
set_option relaxedAutoImplicit false

namespace DroidOs.System.BootReport

open DroidOs.Lib.Procedure
open DroidOs.Core.Values DroidOs.Core.States DroidOs.Core.Context
open DroidOs.Body.Package
open DroidOs.Backends.CanFd DroidOs.Backends.Simulation
open DroidOs.Backends.Unpowered DroidOs.Backends.Hardware
open DroidOs.Services
open DroidOs.Services.Lifecycle DroidOs.Services.SafetyGateway DroidOs.Services.Supervisor
open DroidOs.Services.Readiness DroidOs.Services.Inhibition DroidOs.Services.FaultSources
open DroidOs.Services.Attempts DroidOs.Services.CleanStart
open Boot HookFailures Registration

variable {δ : Type}

/-! The report. -/

/-- The steps that have to succeed; contacting the safety controller starts the gateway. -/
def requiredSteps : List String :=
  ["contact_safety_controller", "confirm_power_disabled", "load_body_manifest", "validate_body",
    "start_device_drivers", "start_state_estimator", "start_navigation", "start_motion"]

/-- The outcome of a step, if it is one of those. -/
def mark (name : String) (ok : Bool) : List (String × Bool) :=
  if name ∈ requiredSteps then [(name, ok)] else []

/-- The outcomes of the required steps in a report. -/
def outcomes (steps : List BootStep) : List (String × Bool) := steps.flatMap fun step => mark step.name step.ok

/-- If the droid is ready or degraded, each required step is in the boot report, and succeeded. -/
def Reported {ε : Type} (m : Brain ε) : Prop := m.rt.machine.state ∈ [DroidState.ready, .degraded] →
  ∀ name ∈ requiredSteps, (∃ step ∈ m.rt.bootReport, step.name = name) ∧
    ∀ step ∈ m.rt.bootReport, step.name = name → step.ok = true

theorem outcomes_append (steps : List BootStep) (step : BootStep) :
    outcomes (steps ++ [step]) = outcomes steps ++ mark step.name step.ok := by
  simp [outcomes]

theorem mem_outcomes (steps : List BootStep) (name : String) (ok : Bool) : (name, ok) ∈ outcomes steps ↔
    name ∈ requiredSteps ∧ ∃ step ∈ steps, step.name = name ∧ step.ok = ok := by
  simp only [outcomes, List.mem_flatMap]
  constructor
  · rintro ⟨step, member, marked⟩
    unfold mark at marked
    split at marked
    · next listed =>
      obtain ⟨rfl, rfl⟩ := Prod.mk.inj (List.mem_singleton.mp marked)
      exact ⟨listed, step, member, rfl, rfl⟩
    · cases marked
  · rintro ⟨listed, step, member, rfl, rfl⟩
    refine ⟨step, member, ?_⟩
    rw [mark, if_pos listed]
    exact List.mem_singleton_self _

/-! What the boot depends on. -/

/-- The attempts that the boot makes at one name of the activation order. -/
def attemptsAt {ρ : Type} (reg : Registry ρ) (name : String) : List String :=
  if name = "safety_gateway" then [] else ((reg.find name).map (attemptsFor reg)).getD []

/-- The attempts to activate a service that a boot makes, in order. -/
def bootAttempts {ρ : Type} (reg : Registry ρ) : List String :=
  "safety_gateway" :: activationOrder.flatMap (attemptsAt reg)

/-- Nothing that the boot starts from keeps the droid from moving after it. -/
structure Movable (l : Launch δ) : Prop where
  free : latchEngages l.latch = false
  services : ∀ name ∈ motionCritical, ComesUp (l.works name) ((bootAttempts l.registry).count name)
  answers : Answering l.svc l.connected
  sound : ¬ HardwareCause l.svc l.connected

/-- The backend connects, and each critical service comes up at the first attempt. -/
structure Smooth (l : Launch δ) : Prop where
  connects : (connect l.world l.backend).1 = .ok ()
  first : ∀ name ∈ motionCritical, ComesUp (l.works name) 1

/-! The boot on its way. -/

/-- In the state, with these outcomes of required steps so far. -/
structure At (l : Launch δ) (b : HardwareBackend) (st : DroidState) (noted : List (String × Bool))
    (rt : Runtime (Station (Tried δ))) : Prop where
  kept : Kept l b rt
  state : rt.machine.state = st
  noted : outcomes rt.bootReport = noted

/-- And with these attempts made. -/
abbrev Stage (l : Launch δ) (b : HardwareBackend) (st : DroidState) (noted : List (String × Bool))
    (attempts : List String) : Brain (Station (Tried δ)) → Prop :=
  Tallied triesOf l.works motionCritical (At l b st noted) attempts

variable {l : Launch δ} {b : HardwareBackend} {st : DroidState} {noted : List (String × Bool)}
  {attempts : List String}

private theorem registry_counts : ∀ s ∈ l.registry.services,
    Counts triesOf l.works motionCritical (At l b st noted) s := by
  intro s member h rt holds
  obtain ⟨spec, listed, rfl⟩ := List.mem_map.mp member
  obtain ⟨kept, machine, report, tries, foreseen⟩ := failing_run l listed h holds.kept
  refine ⟨⟨kept, ?_, ?_⟩, tries, foreseen⟩
  · rw [machine]
    exact holds.state
  · rw [report]
    exact holds.noted

/-- A change of the context that no service has a part in. -/
private theorem stage_context {b' : HardwareBackend} {st' : DroidState} {noted' : List (String × Bool)}
    {p : Proc (Runtime (Station (Tried δ))) Exn Unit}
    (runs : ∀ rt, At l b st noted rt → (p rt).1 = .ok () ∧ At l b' st' noted' (p rt).2 ∧ triesOf (p rt).2 = triesOf rt) :
    Runs (Stage l b st noted attempts) (onRt p) (Stage l b' st' noted' attempts) := by
  intro m stage
  obtain ⟨returns, holds, tries⟩ := runs m.rt stage.holds
  rcases run : p m.rt with ⟨e | _, rt⟩ <;> rw [run] at returns holds tries
  · cases returns
  · rw [onRt_run, run]
    refine ⟨holds, fun name listed => ?_⟩
    rw [← stage.tally name listed]
    change (⟨_, triesOf rt name .onConfigure, triesOf rt name .onActivate⟩ : Progress) = _
    rw [tries]
    rfl

private theorem stage_report (name : String) (ok : Bool) (detail : String) :
    Runs (Stage l b st noted attempts) (onRt (report name ok detail))
      (Stage l b st (noted ++ mark name ok) attempts) := by
  refine stage_context fun rt holds => ⟨rfl, ⟨⟨holds.kept.latch, holds.kept.free, holds.kept.engaged,
    holds.kept.backend⟩, holds.state, ?_⟩, rfl⟩
  change outcomes (rt.bootReport ++ [⟨name, ok, detail⟩]) = _
  rw [outcomes_append, holds.noted]

private theorem stage_transition {dst : DroidState} (reason : String) (moves : dst ≠ st)
    (legal : dst ∈ st.transitions) :
    Runs (Stage l b st noted attempts) (onRt (transition dst reason)) (Stage l b dst noted attempts) := by
  refine stage_context fun rt holds => ?_
  obtain ⟨⟨latch, free, engaged, backend⟩, rfl, same⟩ := holds
  rw [transition_legal moves legal]
  exact ⟨rfl, ⟨⟨latch, free, engaged, backend⟩, rfl, same⟩, rfl⟩

private theorem stage_validate : Runs (Stage l b st noted attempts) (onRt (validateBody l.svc))
    (Stage l b st (noted ++ [("load_body_manifest", true), ("validate_body", l.world.body.fatalIssues.isEmpty)])
      attempts) := by
  refine stage_context fun rt holds => ⟨rfl, ⟨⟨holds.kept.latch, holds.kept.free, holds.kept.engaged,
    holds.kept.backend⟩, holds.state, ?_⟩, rfl⟩
  change outcomes (rt.bootReport ++ [⟨"load_body_manifest", true, _⟩] ++ [⟨"validate_body", _, _⟩]) = _
  rw [outcomes_append, outcomes_append, holds.noted, List.append_assoc]
  rfl

/-- Before it is connected the backend has its motor power off. -/
theorem backend_off (l : Launch δ) : powerEnabled l.backend = false ∧ setPower false l.backend = l.backend := by
  unfold Launch.backend makeBackend
  split
  · exact ⟨rfl, rfl⟩
  split
  · exact ⟨rfl, rfl⟩
  · exact ⟨rfl, rfl⟩

/-- Before it is connected it is as it was made. -/
private theorem unconnected {rt : Runtime (Station (Tried δ))} (kept : Kept l l.backend rt) :
    rt.env.backend = l.backend := by
  rcases kept.backend with same | off
  · exact same
  · exact off.trans (backend_off l).2

private theorem stage_connect : Runs (Stage l l.backend st noted attempts) (onRt (startDrivers l.svc))
    (Stage l l.connected.backend st
      (noted ++ mark "start_device_drivers" (connect l.world l.backend).1.toOption.isSome) attempts) := by
  refine stage_context fun rt holds => ?_
  let after : Runtime (Station (Tried δ)) :=
    { rt with env := { rt.env with backend := (connect l.world l.backend).2 } }
  have called : attempt (outside l.svc.connect) rt = (.ok (connect l.world l.backend).1, after) := by
    change (Except.ok (connect l.world rt.env.backend).1,
      { rt with env := { rt.env with backend := (connect l.world rt.env.backend).2 } }) = _
    rw [unconnected holds.kept]
  have kept : Kept l l.connected.backend after :=
    ⟨holds.kept.latch, holds.kept.free, holds.kept.engaged, .inl rfl⟩
  have reported (ok : Bool) (detail : String) :
      (report "start_device_drivers" ok detail after).1 = .ok () ∧
        At l l.connected.backend st (noted ++ mark "start_device_drivers" ok)
          (report "start_device_drivers" ok detail after).2 ∧
        triesOf (report "start_device_drivers" ok detail after).2 = triesOf rt := by
    refine ⟨rfl, ⟨⟨kept.latch, kept.free, kept.engaged, kept.backend⟩, holds.state, ?_⟩, rfl⟩
    change outcomes (rt.bootReport ++ [⟨"start_device_drivers", ok, detail⟩]) = _
    rw [outcomes_append, holds.noted]
  unfold startDrivers
  rw [bind_ok called]
  rcases (connect l.world l.backend).1 with e | _
  · exact reported false e.msg
  · exact reported true l.svc.backendKind

/-- Starting the gateway. -/
private theorem stage_gateway (m : Brain (Station (Tried δ))) (stage : Stage l b st noted [] m) :
    (lifecycle (activate (failing l.failures (safetyGateway l.svc))) m).1 =
        .ok (decide (ComesUp (l.works "safety_gateway") 1)) ∧
      Stage l b st noted ["safety_gateway"]
        (lifecycle (activate (failing l.failures (safetyGateway l.svc))) m).2 := by
  have member : failing l.failures (safetyGateway l.svc) ∈ l.registry.services := by
    simp [Launch.registry, droidServices]
  obtain ⟨next, answer⟩ := activate_tallied (registry_counts _ member) stage
  have critical : "safety_gateway" ∈ motionCritical := by decide
  exact ⟨congrArg Except.ok (answer critical), next⟩

/-- The outcome that starting a service adds to those noted. -/
def startMark (l : Launch δ) (attempts : List String) (name : String) : List (String × Bool) :=
  mark ("start_" ++ name) (decide (ComesUp (l.works name) (attempts.count name)))

/-- Only the start of a critical service is required. -/
private theorem mark_start {name : String} (listed : name ∈ activationOrder) (idle : name ∉ motionCritical ∨
    name = "safety_gateway") (ok : Bool) : mark ("start_" ++ name) ok = [] := by
  refine if_neg ?_
  have each : ∀ name ∈ activationOrder, name ∉ motionCritical ∨ name = "safety_gateway" →
      "start_" ++ name ∉ requiredSteps := by decide
  exact each name listed idle

/-- One round of the loop over the activation order. -/
private theorem stage_start {name : String} (listed : name ∈ activationOrder)
    (registered : name ∈ motionCritical → l.registry.has name = true) :
    Runs (Stage l b st noted attempts) (startService l.registry name)
      (Stage l b st (noted ++ startMark l (attempts ++ attemptsAt l.registry name) name)
        (attempts ++ attemptsAt l.registry name)) := by
  unfold startService
  by_cases gateway : name = "safety_gateway"
  · rw [if_pos gateway, startMark, mark_start listed (.inr gateway), attemptsAt, if_pos gateway,
      List.append_nil, List.append_nil]
    exact fun m stage => stage
  rw [if_neg gateway]
  rcases found : l.registry.find name with _ | s
  · have idle : name ∉ motionCritical := by
      intro critical
      have has := registered critical
      rw [Registry.has, found] at has
      cases has
    rw [startMark, mark_start listed (.inl idle), attemptsAt, if_neg gateway, found, Option.map_none,
      Option.getD_none, List.append_nil, List.append_nil]
    exact fun m stage => stage
  obtain ⟨member, named⟩ := Registry.find_some found
  have made : attemptsAt l.registry name = attemptsFor l.registry s := by
    rw [attemptsAt, if_neg gateway, found]
    rfl
  rw [made]
  intro m stage
  obtain ⟨next, answer⟩ := activateWithDeps_tallied registry_counts member stage
  rcases run : activateWithDeps l.registry s m with ⟨ok, m'⟩
  rw [run] at next answer
  have ran : lifecycle (activateWithDeps l.registry s) m = (.ok ok, m') := by rw [lifecycle, run]
  have noting : mark ("start_" ++ name) ok = startMark l (attempts ++ attemptsFor l.registry s) name := by
    by_cases critical : name ∈ motionCritical
    · have up := answer (by rw [named]; exact critical)
      rw [named] at up
      rw [startMark, ← up]
    · rw [startMark, mark_start listed (.inl critical), mark_start listed (.inl critical)]
  dsimp only
  rw [bind_ok ran, reads_bind]
  have later : Runs (Stage l b st noted (attempts ++ attemptsFor l.registry s)) (do
      onRt (report ("start_" ++ name) ok (if ok then "" else (m'.table name).lastError))
      if !ok then modify fun m => { m with failedServices := m.failedServices ++ [name] })
      (Stage l b st (noted ++ mark ("start_" ++ name) ok) (attempts ++ attemptsFor l.registry s)) := by
    refine (stage_report _ _ _).bind fun _ => ?_
    cases ok with
    | true => exact fun m stage => stage
    | false => exact fun m stage => ⟨stage.holds, stage.tally⟩
  rw [← noting]
  exact later m' next

/-- The outcomes that starting the services adds. -/
def startMarks (l : Launch δ) : List String → List String → List (String × Bool)
  | _, [] => []
  | attempts, name :: names =>
    startMark l (attempts ++ attemptsAt l.registry name) name ++
      startMarks l (attempts ++ attemptsAt l.registry name) names

private theorem stage_starts (names : List String) (listed : ∀ name ∈ names, name ∈ activationOrder)
    (registered : ∀ name ∈ motionCritical, l.registry.has name = true) :
    Runs (Stage l b st noted attempts) (forEach names (startService l.registry))
      (Stage l b st (noted ++ startMarks l attempts names)
        (attempts ++ names.flatMap (attemptsAt l.registry))) := by
  induction names generalizing noted attempts with
  | nil =>
    rw [startMarks, List.flatMap_nil, List.append_nil, List.append_nil]
    exact fun m stage => stage
  | cons name names ih =>
    rw [startMarks, List.flatMap_cons, ← List.append_assoc, ← List.append_assoc]
    refine (stage_start (listed name (by simp)) (registered name)).bind fun _ => ?_
    exact ih fun other member => listed other (List.mem_cons_of_mem name member)

/-- Only the first attempt of a critical service is at its own start. -/
private theorem startMarks_eq (l : Launch δ) : startMarks l ["safety_gateway"] activationOrder =
    [("start_state_estimator", decide (ComesUp (l.works "state_estimator") 1)),
      ("start_navigation", decide (ComesUp (l.works "navigation") 1)),
      ("start_motion", decide (ComesUp (l.works "motion") 1))] := by
  rfl

private theorem critical_registered (l : Launch δ) : ∀ name ∈ motionCritical, l.registry.has name = true := by
  have all : motionCritical.map l.registry.has = [true, true, true, true] := rfl
  intro name critical
  have listed := List.mem_map_of_mem (f := l.registry.has) critical
  rw [all] at listed
  simpa using listed

/-- The outcomes of all required steps. -/
def reported (l : Launch δ) : List (String × Bool) :=
  [("contact_safety_controller", decide (ComesUp (l.works "safety_gateway") 1)), ("confirm_power_disabled", true),
    ("load_body_manifest", true), ("validate_body", l.world.body.fatalIssues.isEmpty),
    ("start_device_drivers", (connect l.world l.backend).1.toOption.isSome),
    ("start_state_estimator", decide (ComesUp (l.works "state_estimator") 1)),
    ("start_navigation", decide (ComesUp (l.works "navigation") 1)),
    ("start_motion", decide (ComesUp (l.works "motion") 1))]

/-- A refresh reports nothing. -/
private theorem refresh_report {svc : Services (Station (Tried δ))} {reg : Registry (Runtime (Station (Tried δ)))}
    (safety : hasSafety reg = true) (m : Brain (Station (Tried δ))) :
    (refresh svc reg m).2.rt.bootReport = m.rt.bootReport := by
  obtain ⟨controller, env, kept⟩ := @assess_keeps _ svc reg safety m
  rcases found : (assessReadiness svc reg m).1 with e | r
  · rw [refresh_error found, kept]
  · obtain ⟨machine, run, -⟩ := refresh_ok found
    rw [run, kept]

private theorem find_gateway (l : Launch δ) :
    l.registry.find "safety_gateway" = some (failing l.failures (safetyGateway l.svc)) := rfl

private theorem registry_hasSafety (l : Launch δ) : hasSafety l.registry = true := rfl

/-- What a boot ends in, a refresh of safe idle ends in. -/
private def Ended (l : Launch δ) (m' : Brain (Station (Tried δ))) : Prop :=
  ∃ m, Stage l l.connected.backend .safeIdle (reported l) (bootAttempts l.registry) m ∧
    m'.rt.machine = (refresh l.svc l.registry m).2.rt.machine ∧ outcomes m'.rt.bootReport = reported l

private theorem ends {α : Type} {P Q : Brain (Station (Tried δ)) → Prop} {p : Proc (Brain (Station (Tried δ))) Exn α}
    (runs : Runs P p Q) : Triple P p (fun _ => Q) fun _ => Ended l :=
  runs.weaken (fun _ holds => holds) (fun _ _ holds => holds) fun _ _ never => never.elim

private theorem ended_assessed : Triple
    (Stage l l.connected.backend .safeIdle (reported l) (bootAttempts l.registry)) (do
      let readiness ← refresh l.svc l.registry
      onRt (report "assess_readiness" true readiness.state.value)
      return readiness) (fun _ => Ended l) (fun _ => Ended l) := by
  intro m stage
  have same : (refresh l.svc l.registry m).2.rt.bootReport = m.rt.bootReport :=
    refresh_report (registry_hasSafety l) m
  rcases run : refresh l.svc l.registry m with ⟨e | r, m'⟩
  · rw [run] at same
    rw [bind_error run]
    refine ⟨m, stage, by rw [run], ?_⟩
    rw [same]
    exact stage.holds.noted
  · rw [run] at same
    have report_same : m'.rt.bootReport = m.rt.bootReport := same
    rw [bind_ok run]
    refine ⟨m, stage, by rw [run]; rfl, ?_⟩
    change outcomes (m'.rt.bootReport ++ [⟨"assess_readiness", true, r.state.value⟩]) = _
    rw [outcomes_append, report_same, stage.holds.noted]
    exact List.append_nil _

/-- The boot once the safety controller has been contacted. -/
private theorem ended_contacted : Triple
    (Stage l l.backend .booting [("contact_safety_controller", decide (ComesUp (l.works "safety_gateway") 1))]
      ["safety_gateway"]) (bootAfterContact l.svc l.registry) (fun _ => Ended l) (fun _ => Ended l) := by
  have off (m : Brain (Station (Tried δ))) (stage : Stage l l.backend .booting
      [("contact_safety_controller", decide (ComesUp (l.works "safety_gateway") 1))] ["safety_gateway"] m) :
      (!l.svc.powerEnabled m.rt.env) = true := by
    change (!powerEnabled m.rt.env.backend) = true
    rw [unconnected stage.holds.kept, (backend_off l).1]
    rfl
  unfold bootAfterContact
  refine Triple.bind_known (a := true) (fun m stage => ⟨congrArg Except.ok (off m stage), stage⟩) ?_
  refine Triple.bind (ends (stage_report _ _ _)) fun _ => ?_
  refine Triple.bind (ends (stage_transition _ (by decide) (by decide))) fun _ => ?_
  refine Triple.bind (ends stage_validate) fun _ => ?_
  refine Triple.bind (ends stage_connect) fun _ => ?_
  refine Triple.bind (ends (stage_starts activationOrder (fun _ listed => listed) (critical_registered l))) fun _ => ?_
  refine Triple.bind (ends (stage_transition _ (by decide) (by decide))) fun _ => ?_
  refine Triple.bind (ends (stage_report _ _ _)) fun _ => ?_
  rw [startMarks_eq]
  exact ended_assessed

/-- The boot from its start. -/
private theorem ended_boot : Triple (Stage l l.backend .poweredOff [] []) (boot l.svc l.registry)
    (fun _ => Ended l) (fun _ => Ended l) := by
  have cleared : Runs (Stage l l.backend .poweredOff [] [])
      (onRt (modify fun rt => { rt with bootReport := [] })) (Stage l l.backend .poweredOff [] []) :=
    stage_context fun rt holds => ⟨rfl, ⟨⟨holds.kept.latch, holds.kept.free, holds.kept.engaged,
      holds.kept.backend⟩, holds.state, rfl⟩, rfl⟩
  unfold boot
  refine Triple.bind (ends cleared) fun _ => ?_
  refine Triple.bind (ends (stage_transition _ (by decide) (by decide))) fun _ => ?_
  refine Triple.bind (ends (stage_report _ _ _)) fun _ => Triple.bind (ends (stage_report _ _ _)) fun _ => ?_
  refine Triple.bind (ends (stage_report _ _ _)) fun _ => Triple.bind (ends (stage_report _ _ _)) fun _ => ?_
  rw [find_gateway]
  refine Triple.bind_known (a := decide (ComesUp (l.works "safety_gateway") 1)) stage_gateway ?_
  refine Triple.reads_bind fun _ => ?_
  refine Triple.bind (ends (stage_report _ _ _)) fun _ => Triple.bind (ends (stage_report _ _ _)) fun _ => ?_
  exact ended_contacted

/-- The outcomes that a boot reports, and the state in which a refresh ends it. -/
theorem boot_ends (l : Launch δ) : ∃ m,
    Stage l l.connected.backend .safeIdle (reported l) (bootAttempts l.registry) m ∧
      l.booted.rt.machine = (refresh l.svc l.registry m).2.rt.machine ∧
      outcomes l.booted.rt.bootReport = reported l := by
  refine ended_boot.after ⟨⟨⟨rfl, fun _ => ?_, fun _ called => ?_, .inl rfl⟩, rfl, rfl⟩, fun name _ => rfl⟩
  · rw [grants_iff]
    refine ⟨rfl, ?_⟩
    change ¬ (1 : ℚ) < 0
    norm_num
  · obtain ⟨call, before, -⟩ := called
    exact absurd before (Nat.not_lt_zero call)

/-! Whether the boot lets the droid move. -/

/-- The backend of a boot that has connected reads as it did then. -/
private theorem kept_readings {rt : Runtime (Station (Tried δ))} (kept : Kept l l.connected.backend rt) :
    Settled l.world rt.env ∧ Agree l.svc rt.env l.connected := by
  obtain ⟨settled, names⟩ : received l.world l.connected.backend = l.connected.backend ∧
      actuatorNames l.connected.backend = actuatorNames l.backend :=
    connect_received l.world.body l.hardwareBackend
  have listed : actuatorNames l.connected.backend ≠ [] :=
    ne_of_eq_of_ne names (makeBackend_actuators l.world.body l.hardwareBackend)
  have read (alike : Alike l.world l.connected.backend rt.env.backend) : Agree l.svc rt.env l.connected := by
    refine ⟨alike.battery, alike.actuators, alike.sensor, fun online has => ?_, alike.names⟩
    cases has
    exact congrArg Except.ok alike.bus
  rcases kept.backend with same | off
  · refine ⟨⟨same ▸ listed, same ▸ settled⟩, read ?_⟩
    rw [same]
    exact ⟨rfl, rfl, fun _ => rfl, rfl, rfl⟩
  · obtain ⟨still, alike⟩ := alike_setPower settled false
    refine ⟨⟨?_, ?_⟩, read ?_⟩
    · rw [off, alike.names]
      exact listed
    · rw [off]
      exact still
    · rw [off]
      exact alike

/-- At the end of a boot the droid is fit exactly when nothing keeps it from moving. -/
private theorem fit_iff_movable {m : Brain (Station (Tried δ))}
    (stage : Stage l l.connected.backend st noted (bootAttempts l.registry) m) :
    Fit l.svc l.registry m ↔ Movable l := by
  obtain ⟨settled, agree⟩ := kept_readings stage.holds.kept
  have active : inactiveReasons l.registry m = [] ↔
      ∀ name ∈ motionCritical, ComesUp (l.works name) ((bootAttempts l.registry).count name) := by
    rw [inactiveReasons, List.map_eq_nil_iff, List.filter_eq_nil_iff]
    refine forall_congr' fun name => forall_congr' fun critical => ?_
    have reached : m.state name = (progress (l.works name) ((bootAttempts l.registry).count name)).state :=
      congrArg Progress.state (stage.tally name critical)
    simp [critical_registered l name critical, reached, ComesUp]
  have steady : Steady l.svc m.rt.env := DiagnosticAgreement.equipped_steady l.world _ settled
  rw [fit_iff steady rfl, active]
  constructor
  · rintro ⟨granted, services, answers, sound⟩
    refine ⟨?_, services, agree.answering answers, fun cause => sound (agree.symm.cause cause)⟩
    -- A gateway that is up has loaded the latch, and a controller that grants is not stopped.
    by_contra engages
    rw [Bool.not_eq_false] at engages
    have up := services "safety_gateway" (by decide)
    obtain ⟨call, before, works⟩ := progress_configured _ (by rw [up]; decide)
    have counts : triesOf m.rt "safety_gateway" .onConfigure = (progress (l.works "safety_gateway")
        ((bootAttempts l.registry).count "safety_gateway")).configures :=
      congrArg Progress.configures (stage.tally "safety_gateway" (by decide))
    have stopped := stage.holds.kept.engaged engages ⟨call, counts ▸ before, works⟩
    rw [grants_no_estop granted] at stopped
    cases stopped
  · rintro ⟨free, services, answers, sound⟩
    exact ⟨stage.holds.kept.free free, services, agree.symm.answering answers, fun cause => sound (agree.cause cause)⟩

/-- Of a droid that can move, every outcome is a success exactly when its start was smooth. -/
private theorem successes_iff (movable : Movable l) :
    (∀ name ∈ requiredSteps, (name, false) ∉ reported l) ↔ Smooth l := by
  have sound : l.world.body.fatalIssues = [] := by
    by_contra fatal
    exact movable.sound (.issue fatal)
  have connects : (connect l.world l.backend).1.toOption.isSome = true ↔ (connect l.world l.backend).1 = .ok () := by
    cases (connect l.world l.backend).1 <;> simp [Except.toOption]
  have first : (∀ name ∈ motionCritical, ComesUp (l.works name) 1) ↔
      ComesUp (l.works "safety_gateway") 1 ∧ ComesUp (l.works "state_estimator") 1 ∧
        ComesUp (l.works "motion") 1 ∧ ComesUp (l.works "navigation") 1 := by
    simp [motionCritical]
  have smooth : Smooth l ↔ (connect l.world l.backend).1.toOption.isSome = true ∧
      ComesUp (l.works "safety_gateway") 1 ∧ ComesUp (l.works "state_estimator") 1 ∧
        ComesUp (l.works "motion") 1 ∧ ComesUp (l.works "navigation") 1 := by
    rw [connects, ← first]
    exact ⟨fun smooth => ⟨smooth.connects, smooth.first⟩, fun both => ⟨both.1, both.2⟩⟩
  have outcomes : (∀ name ∈ requiredSteps, (name, false) ∉ reported l) ↔
      ComesUp (l.works "safety_gateway") 1 ∧ (connect l.world l.backend).1.toOption.isSome = true ∧
        ComesUp (l.works "state_estimator") 1 ∧ ComesUp (l.works "navigation") 1 ∧
        ComesUp (l.works "motion") 1 := by
    simp [requiredSteps, reported, sound, Option.isSome_iff_ne_none]
  rw [smooth, outcomes]
  constructor
  · rintro ⟨gateway, connected, estimator, navigation, motion⟩
    exact ⟨connected, gateway, estimator, motion, navigation⟩
  · rintro ⟨connected, gateway, estimator, motion, navigation⟩
    exact ⟨gateway, connected, estimator, navigation, motion⟩

/-- A body behind a CAN-FD bus whose package is not installed, with hooks that never fail. -/
def unplugged : Launch Unit where
  world := wheelSetting (wheelBody .physical [] []) { installed := false }
  hardwareBackend := some "canfd"
  latch := .missing
  gaitFiles := fun _ => none
  stores := fun _ => pure ()
  files := ()
  failures := fun _ _ _ => none
  rest := benchServices (wheelBody .physical [] [])

end DroidOs.System.BootReport
