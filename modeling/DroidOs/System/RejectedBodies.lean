/- GID: DroidOs/System/RejectedBodies
   generality: I
   source: src/droidos/body/loader.py, src/droidos/gait/policy.py, src/droidos/services/supervisor.py
   digest: Which bodies the supervisor keeps from moving, of those that their validation rejects. -/

import DroidOs.Language.Approval
import DroidOs.Services.CleanStart
import DroidOs.System.StateGraph

set_option autoImplicit false
set_option relaxedAutoImplicit false

namespace DroidOs.System.RejectedBodies

open DroidOs.Lib.Procedure DroidOs.Lib.Interleaving
open DroidOs.Lib.Interleaving.Coroutine (free)
open DroidOs.Core.Values DroidOs.Core.States DroidOs.Core.Context
open DroidOs.Backends.Simulation
open DroidOs.Body.Package DroidOs.Gait.Policy
open DroidOs.Services.Lifecycle DroidOs.Services.SafetyGateway DroidOs.Services.Supervisor
open DroidOs.Services.Readiness DroidOs.Services.CleanStart
open DroidOs.Language.Broker DroidOs.Language.Conversation DroidOs.Language.Approval
open Registration TaskSteps TaskLaw Operations Simulated Boot StepLaw LatchLaw StateGraph

/-! Bodies that must not move. -/

/-- What a validation has against a body: an issue other than the signature's, a gait
policy that is not loaded or has issues, or a placeholder signature at a physical backend. -/
inductive Rejected (text : PyText) (files : String → Option PolicyFile) (body : LoadedBody) : Prop
  | issue (found : String) : found ∈ body.issues → found ≠ LoadedBody.signatureIssue →
      Rejected text files body
  | gait (policy : Option GaitPolicy) (issues : List String) :
      body.manifest.locomotionType = "biped" → loadForBody text files body = .ok (policy, issues) →
      policy = none ∨ issues ≠ [] → Rejected text files body
  | signature : body.signatureIsPlaceholder text = .ok true → body.backendKind = .physical →
      Rejected text files body

/-- Whatever the backend and the other services do, no run leads to a state that permits
motion, and no request takes a step of a task that drives. -/
def Inhibited (text : PyText) (body : LoadedBody) : Prop :=
  ∀ {ε : Type} (svc : Services ε), svc.text = text → svc.body = body →
    (∀ {ι : Type} (world : ι → ε → ε) (now : ℚ) (latch : LatchFile) (env : ε) (moves : List (Move (Act ι))),
      (runMoves (Act.code svc world) (newPool now latch env) moves).state.rt.machine.state ∉
        DroidState.motionAllowedFrom) ∧
    ∀ (lang : LanguageService) (r : Request), (process svc (droidServices svc) lang r).Atoms
      (TaskStep svc (droidServices svc) (· ∉ drivingIntents))

/-- The supervisor counts an issue, or it cannot assess the body at all. -/
def Counted (text : PyText) (body : LoadedBody) : Prop :=
  body.fatalIssues ≠ [] ∨ ∃ e, body.limits.batteryMotionMinimum text = .error e

/-! Bodies whose issues count. -/

section

variable {ε ι : Type} {svc : Services ε} {world : ι → ε → ε}

private theorem battery_raises {e : Exn} (raises : svc.body.limits.batteryMotionMinimum svc.text = .error e)
    (env : ε) : ∃ e, (hardwareReasons svc env).1 = .error e := by
  unfold hardwareReasons batteryReasons
  rcases reading : svc.battery env with ⟨e' | battery, env'⟩
  · exact ⟨e', by simp [bind_run, reading]⟩
  · exact ⟨e, by simp [bind_run, reading, raises]⟩

/-- No droid with such a body is fit. -/
theorem unfit_of_counted {reg : Registry (Runtime ε)} (counted : Counted svc.text svc.body) (m : Brain ε) :
    ¬ Fit svc reg m := by
  rintro ⟨-, -, degraded, hardware⟩
  rcases counted with issues | ⟨e, raises⟩
  · have among := hardwareReasons_issues svc m.rt.env trivial
    rcases run : hardwareReasons svc m.rt.env with ⟨e | found, env⟩ <;> rw [run] at among hardware <;>
      cases hardware
    exact issues (List.prefix_nil.mp among)
  · obtain ⟨e', raised⟩ := battery_raises raises m.rt.env
    rw [raised] at hardware
    cases hardware

/-- The droid is not in a state that permits motion. -/
def Parked (machine : StateMachine) : Prop := machine.state ∉ DroidState.motionAllowedFrom

private theorem parked_transition (dst : DroidState) (reason : String)
    (forbidden : dst ∉ DroidState.motionAllowedFrom) :
    Keeps (fun rt : Runtime ε => Parked rt.machine) (transition dst reason) := by
  refine keeps_iff.mpr fun rt parked => ?_
  obtain ⟨machine, run, same | moved⟩ := transition_after dst reason rt <;> rw [run]
  · rw [same]
    exact parked
  · change machine.state ∉ _
    rw [moved]
    exact forbidden

private theorem parked_forbids : Forbids fun rt : Runtime ε => Parked rt.machine where
  transition := parked_transition
  force _ _ forbidden := keeps_iff.mpr fun _ _ => forbidden

private theorem parked_moves : Moves fun rt : Runtime ε => Parked rt.machine :=
  fun _ parked allowed => absurd allowed parked

private theorem parked_refresh (unfit : ∀ m : Brain ε, ¬ Fit svc (droidServices svc) m) :
    Keeps (fun m : Brain ε => Parked m.rt.machine) (refresh svc (droidServices svc)) := by
  refine keeps_iff.mpr fun m parked => ?_
  rcases found : (assessReadiness svc (droidServices svc) m).1 with e | r
  · obtain ⟨controller, env, ended⟩ := @assess_keeps _ svc _ (droidServices_hasSafety svc) m
    rw [refresh_error found, ended]
    exact parked
  · obtain ⟨machine, run, state⟩ := refresh_ok found
    rw [run]
    intro allowed
    change machine.state ∈ _ at allowed
    rw [state] at allowed
    exact unfit m ((assess_allowed_iff (droidServices_hasSafety svc) m).mp ⟨r, found, allowed⟩)

private theorem parked_upholds (unfit : ∀ m : Brain ε, ¬ Fit svc (droidServices svc) m) :
    Upholds svc world free (fun rt => Parked rt.machine) fun _ => True := by
  have prims : Primitives svc (fun rt => Parked rt.machine) fun _ => True := machine_primitives Parked
  exact prims.upholds parked_forbids parked_moves (keeps_iff.mpr fun _ parked => parked)
    (fun m parked _ => (machine_request Parked).after parked)
    (fun reason => machine_engage reason (parked_forbids.force _ _ (by decide)))
    (fun m parked _ => (machine_reset Parked).after parked)
    (fun m parked _ => (parked_refresh unfit).after parked) fun _ _ parked => parked

private theorem parked_code (unfit : ∀ m : Brain ε, ¬ Fit svc (droidServices svc) m) (act : Act ι) :
    (act.code svc world).Keeps free fun m => Parked m.rt.machine := by
  have upholds : Upholds svc world free (fun rt => Parked rt.machine) fun _ => True := parked_upholds unfit
  cases act with
  | operation op => exact upholds.keeps_code (fun _ _ => trivial) fun _ _ _ => trivial
  | boot =>
    have prims : Primitives svc (fun rt => Parked rt.machine) fun _ => True := machine_primitives Parked
    have boots : Boots svc fun rt => Parked rt.machine :=
      prims.boots parked_forbids (keeps_iff.mpr fun _ parked => parked) (parked_refresh unfit)
    exact Coroutine.keeps_void (Coroutine.keeps_atomically (boots.keeps_boot fun _ parked => parked))

/-- Nothing that drives is approved while no droid is fit. -/
theorem drives_unapproved (unfit : ∀ m : Brain ε, ¬ Fit svc (droidServices svc) m) :
    Approves svc (droidServices svc) (· ∉ drivingIntents) := by
  intro intent user confirmed m d decided approved drives
  obtain ⟨same, tool, registered, free⟩ := approved_cleared decided approved
  rw [same] at drives
  obtain ⟨limited, moving, -⟩ := driving_tool drives registered
  rcases free with always | cleared
  · rw [limited] at always
    cases always
  · exact unfit _ ((assess_allowed_iff (droidServices_hasSafety svc) _).mp (cleared.motion moving).ready)

/-- A body whose issues count keeps the droid where it is. -/
theorem inhibited_of_counted {text : PyText} {body : LoadedBody} (counted : Counted text body) :
    Inhibited text body := by
  intro ε svc texts bodies
  subst texts bodies
  have unfit : ∀ m : Brain ε, ¬ Fit svc (droidServices svc) m := unfit_of_counted counted
  refine ⟨fun world now latch env moves => ?_, fun lang r => atoms_process (drives_unapproved unfit)⟩
  have threads : (newPool now latch env).Keeps free fun m : Brain ε => Parked m.rt.machine := by
    intro c member
    cases member
  have start : Parked (newPool now latch env).state.rt.machine := by
    change DroidState.poweredOff ∉ DroidState.motionAllowedFrom
    decide
  exact state_runMoves threads start (parked_code unfit) (allowedRun_free moves)

end

/-! Bodies whose issues do not count. -/

/-- A world in which nothing else is wrong: its battery is as full as the limits ask for. -/
def spotless (text : PyText) (body : LoadedBody) (minimum : PyFloat) : Services Unit :=
  { inert text body with battery := pure { percent := minimum } }

section

variable {text : PyText} {body : LoadedBody} {minimum : PyFloat}

private theorem notResponding_none (message : String → String) (ids : List String) :
    notResponding (spotless text body minimum) message ids () = (.ok [], ()) := by
  induction ids with
  | nil => rfl
  | cons id ids ih =>
    have answers : (spotless text body minimum).readSensor id () =
        (.ok { sensorId := id, type := "unknown" }, ()) := rfl
    unfold notResponding
    rw [bind_ok answers, bind_ok ih]
    rfl

private theorem lt_self (x : PyFloat) : x.lt x = false := by
  cases x with
  | nan => rfl
  | inf negative => cases negative <;> rfl
  | fin q => simp [PyFloat.lt]

/-- Nothing inhibits a body without counted issues there. -/
private theorem spotless_hardware (sound : body.fatalIssues = [])
    (limit : body.limits.batteryMotionMinimum text = .ok minimum) :
    (hardwareReasons (spotless text body minimum) ()).1 = .ok ([], []) := by
  have battery : batteryReasons (spotless text body minimum) () = (.ok [], ()) := by
    have given : (ofExcept (body.limits.batteryMotionMinimum text) : Proc Unit Exn PyFloat) () =
        (.ok minimum, ()) := by rw [ofExcept_run, limit]
    have full : (spotless text body minimum).battery () = (.ok { percent := minimum }, ()) := rfl
    unfold batteryReasons
    rw [bind_ok full]
    change (ofExcept (body.limits.batteryMotionMinimum text) >>= _) () = _
    rw [bind_ok given]
    simp [lt_self]
  have actuators : missingActuators (spotless text body minimum) () = [] := by
    rw [missingActuators, List.map_eq_nil_iff, List.filter_eq_nil_iff]
    intro act required
    have present : act ∈ body.manifest.requiredActuators := required
    change ¬ decide (act ∉ body.manifest.requiredActuators) = true
    simp [present]
  have thermal : thermalReasons (spotless text body minimum) () = (.ok [], ()) := rfl
  have bus : busReasons (spotless text body minimum) () = (.ok [], ()) := rfl
  unfold hardwareReasons
  rw [bind_ok battery, reads_bind, actuators, bind_ok (notResponding_none _ _), bind_ok thermal,
    bind_ok (notResponding_none _ _), bind_ok bus]
  change Except.ok (body.fatalIssues ++ [] ++ [] ++ [] ++ [] ++ [], []) = _
  rw [sound]
  rfl

/-- A controller that grants motion, beside this latch file. -/
def Granting (latch : LatchFile) (rt : Runtime Unit) : Prop := rt.latch = latch ∧ grants rt = true

/-- All services come up there, if loading the latch file does nothing. -/
theorem granting_starts {latch : LatchFile}
    (loads : ∀ rt : Runtime Unit, rt.latch = latch → loadLatch (spotless text body minimum) rt = (.ok (), rt)) :
    Starts (spotless text body minimum) (droidServices (spotless text body minimum)) (Granting latch) where
  hooks st := by
    have plain (name : String) (requires : List String) :
        Succeeds (At (Granting latch) st) (plainService (ε := Unit) name requires) := fun _ _ holds => ⟨rfl, holds⟩
    have configured (name : String) (requires : List String) :
        Succeeds (At (Granting latch) st) (configuredService (spotless text body minimum) name requires) := by
      intro h rt holds
      cases h <;> exact ⟨rfl, holds⟩
    have gateway : Succeeds (At (Granting latch) st) (safetyGateway (spotless text body minimum)) := by
      intro h rt ⟨⟨file, grant⟩, state⟩
      have able := (grants_iff rt).mp grant
      cases h with
      | onConfigure =>
        have run : (safetyGateway (spotless text body minimum)).hook .onConfigure rt =
            (.ok true, { rt with controller := rt.controller.heartbeat rt.now }) := by
          change onConfigure (spotless text body minimum) rt = _
          unfold onConfigure
          rw [bind_ok (loads rt file)]
          rfl
        rw [run]
        exact ⟨rfl, ⟨file, (grants_iff _).mpr able⟩, state⟩
      | onActivate => exact ⟨rfl, ⟨file, (grants_iff _).mpr able⟩, state⟩
      | onDeactivate => exact ⟨rfl, ⟨file, grant⟩, state⟩
      | onCleanup => exact ⟨rfl, ⟨file, grant⟩, state⟩
    exact droidServices_each _ gateway plain configured
  beside _ _ _ holds := holds
  connect := keeps_iff.mpr fun _ holds => holds

/-- A body whose issues do not count is ready for motion after a boot there, unless loading the
latch file does something. -/
theorem spotless_boots {latch : LatchFile}
    (loads : ∀ rt : Runtime Unit, rt.latch = latch → loadLatch (spotless text body minimum) rt = (.ok (), rt))
    (sound : body.fatalIssues = []) (limit : body.limits.batteryMotionMinimum text = .ok minimum) :
    (booted (spotless text body minimum) (newRuntime 0 latch ())).rt.machine.state ∈
      DroidState.motionAllowedFrom := by
  have enabled : grants (newRuntime 0 .missing ()) = true := by decide +kernel
  have granting : Granting latch (newRuntime 0 latch ()) :=
    ⟨rfl, (grants_iff _).mpr ((grants_iff (newRuntime 0 .missing ())).mp enabled)⟩
  obtain ⟨m, assessed, ends⟩ := @Starts.boot_settles _ (spotless text body minimum) _ (Granting latch)
    (granting_starts loads) _ (find_safetyGateway _) (newRuntime 0 latch ()) rfl granting
  have fit : Fit (spotless text body minimum) (droidServices (spotless text body minimum)) m :=
    ⟨assessed.holds.1.2, assessed.active, [], spotless_hardware sound limit⟩
  obtain ⟨r, found, allowed⟩ := (assess_allowed_iff (droidServices_hasSafety _) m).mpr fit
  obtain ⟨machine, run, state⟩ := refresh_ok found
  unfold booted
  rw [ends, run]
  exact state ▸ allowed

end

/-- No boot leads to a state that permits motion. -/
theorem booted_parked {ε : Type} {text : PyText} {body : LoadedBody} (inhibited : Inhibited text body)
    (svc : Services ε) (texts : svc.text = text) (bodies : svc.body = body) (now : ℚ) (latch : LatchFile)
    (env : ε) : Parked (booted svc (newRuntime now latch env)).rt.machine := by
  have parked := (inhibited svc texts bodies).1 (fun (_ : Unit) env => env) now latch env
    [.start .boot, .resume 0]
  have run : (runMoves (Act.code svc fun (_ : Unit) env => env) (newPool now latch env)
      [.start .boot, .resume 0]).state = booted svc (newRuntime now latch env) := state_booted now latch env
  rw [run] at parked
  exact parked

/-- A rejected body never moves exactly when the supervisor counts an issue of it, or cannot
assess it. -/
theorem inhibited_iff (text : PyText) (files : String → Option PolicyFile) (body : LoadedBody) :
    (Rejected text files body → Inhibited text body) ↔ (Rejected text files body → Counted text body) := by
  refine imp_congr_right fun _ => ⟨fun inhibited => ?_, inhibited_of_counted⟩
  by_contra uncounted
  obtain ⟨sound, assessable⟩ := not_or.mp uncounted
  rcases limit : body.limits.batteryMotionMinimum text with e | minimum
  · exact assessable ⟨e, limit⟩
  have parked := booted_parked inhibited (spotless text body minimum) rfl rfl 0 .missing ()
  have loads (rt : Runtime Unit) (missing : rt.latch = .missing) :
      loadLatch (spotless text body minimum) rt = (.ok (), rt) := by
    unfold loadLatch
    rw [reads_bind, missing]
    rfl
  exact parked (spotless_boots loads (not_not.mp sound) limit)

/-! A biped whose gait policy is not the one that its manifest names. -/

/-- Its policy file has another digest. -/
def tamperedFiles : String → Option PolicyFile := fun _ =>
  some { sha256 := "sha256:b2", text := .document (.dict []) }

def walkerPackage : LoadedBody where
  manifest :=
    { bodyId := "ig-mk1", name := "IG", revision := "1", locomotionType := "biped"
      gaitPolicy := some { file := "gait-policy.json", checksum := "sha256:a1", approvedForPhysical := true }
      signature := .dict [(.str "value", .str "ed25519:7f")] }
  capabilities := { raw := .dict [(.str "locomotion", .dict [(.str "walk", .bool true)])] }
  backendKind := .physical

/-- The package as it is loaded. -/
def walker : LoadedBody := ((walkerPackage.validated .ascii).toOption).getD walkerPackage

def walkerDroid : Surroundings Unit := { hallwayDroid with body := walker, gaitFiles := tamperedFiles }

/-- The policy is rejected, and the droid is ready to walk without it. -/
theorem tampered_gait_ready : ¬ (Rejected .ascii tamperedFiles walker → Inhibited .ascii walker) := by
  intro inhibits
  have unloaded : ((loadForBody .ascii tamperedFiles walker).toOption.map fun loaded =>
      loaded.1.isNone) = some true := by decide +kernel
  have rejected : Rejected .ascii tamperedFiles walker := by
    rcases loaded : loadForBody .ascii tamperedFiles walker with e | ⟨policy, issues⟩ <;>
      rw [loaded] at unloaded
    · cases unloaded
    · refine .gait policy issues rfl loaded (.inl ?_)
      simpa [Except.toOption] using unloaded
  have parked := booted_parked (inhibits rejected) (simulated walkerDroid) rfl rfl 0 .missing
    { backend := SimulationBackend.new walker, store := () }
  have ready : (booted (simulated walkerDroid) (newRuntime 0 .missing
      { backend := SimulationBackend.new walker, store := () })).rt.machine.state = .ready := by
    decide +kernel
  rw [Parked, ready] at parked
  exact absurd parked (by decide)

end DroidOs.System.RejectedBodies
