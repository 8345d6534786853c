/- GID: DroidOs/System/Pacing
   generality: I
   digest: The executive drives in ticks of one length, so nothing depends on drives of another length. -/

import DroidOs.System.Boot

set_option autoImplicit false
set_option relaxedAutoImplicit false

namespace DroidOs.System.Pacing

open DroidOs.Lib.Procedure DroidOs.Lib.Interleaving
open DroidOs.Lib.Interleaving.Coroutine (atomically Guard)
open DroidOs.Core.Values DroidOs.Core.States DroidOs.Core.Context
open DroidOs.Backends.SafetyController
open DroidOs.Services.Lifecycle DroidOs.Services.HookLaw
open DroidOs.Services.SafetyGateway DroidOs.Services.Supervisor
open DroidOs.Executive.Drive DroidOs.Executive.RunIntent
open DroidOs.Language.Intent DroidOs.Language.Conversation
open Registration TaskSteps TaskLaw Operations Boot

variable {ε ι : Type} (svc : Services ε)

/-- The same services, whose every drive command spans one tick. -/
def paced : Services ε := { svc with drive := fun vel _ => svc.drive vel driveDt }

/-! The executive's drives span a tick as they are. -/

private theorem driveTick_paced (goal : Pose) (d : DriveData) :
    driveTick (paced svc) goal d = driveTick svc goal d := rfl

private theorem driveLoop_paced : driveLoop (paced svc) = driveLoop svc := by
  funext goal n
  induction n with
  | zero => rfl
  | succ n ih =>
    funext d
    show (Bind.bind _ _ : Coroutine _ _ _) = Bind.bind _ _
    simp only [ih, driveTick_paced]

theorem driveTo_paced : driveTo (paced svc) = driveTo svc := by
  have actions : navigateActions (paced svc) = navigateActions svc := by
    funext goal
    simp only [navigateActions, driveLoop_paced]
    rfl
  funext goal label taskId
  unfold driveTo
  rw [actions]
  rfl

private theorem notResponding_paced (message : String → String) (ids : List String) :
    notResponding (paced svc) message ids = notResponding svc message ids := by
  induction ids with
  | nil => rfl
  | cons id ids ih =>
    unfold notResponding
    rw [ih]
    rfl

private theorem assess_paced (reg : Registry (Runtime ε)) :
    assessReadiness (paced svc) reg = assessReadiness svc reg := by
  have hardware : hardwareReasons (paced svc) = hardwareReasons svc := by
    unfold hardwareReasons
    simp only [notResponding_paced]
    rfl
  unfold assessReadiness
  rw [hardware]

private theorem handlers_paced (reg : Registry (Runtime ε)) :
    handlers (paced svc) reg = handlers svc reg := by
  have navigates : hNavigate (paced svc) = hNavigate svc := by
    funext t
    unfold hNavigate
    rw [driveTo_paced]
    rfl
  have charges : hGoCharge (paced svc) = hGoCharge svc := by
    funext t
    unfold hGoCharge
    rw [driveTo_paced]
    rfl
  have inspects : hInspect (paced svc) = hInspect svc := by
    funext t
    unfold hInspect
    rw [driveTo_paced]
    rfl
  have status : hStatus (paced svc) reg = hStatus svc reg := by
    funext t
    unfold hStatus
    rw [assess_paced]
    rfl
  have explains : hExplain (paced svc) reg = hExplain svc reg := by
    funext t
    unfold hExplain
    rw [assess_paced]
  unfold handlers
  rw [navigates, charges, inspects, status, explains]
  rfl

/-- So it runs every intent as it did. -/
theorem runIntent_paced (reg : Registry (Runtime ε)) :
    runIntent (paced svc) reg = runIntent svc reg := by
  funext intent user
  unfold runIntent handlerFor
  rw [handlers_paced]
  rfl

private theorem validate_paced (reg : Registry (Runtime ε)) :
    Language.Broker.validate (paced svc) reg = Language.Broker.validate svc reg := by
  have permitted : Language.Broker.motionPermitted (paced svc) reg = Language.Broker.motionPermitted svc reg := by
    unfold Language.Broker.motionPermitted
    rw [assess_paced]
  have checked : Language.Broker.motionChecks (paced svc) reg = Language.Broker.motionChecks svc reg := by
    funext intent tool
    unfold Language.Broker.motionChecks
    rw [permitted]
    rfl
  funext intent user confirmed
  unfold Language.Broker.validate
  rw [checked]
  rfl

theorem process_paced (reg : Registry (Runtime ε)) :
    process (paced svc) reg = process svc reg := by
  have dispatches : dispatch (paced svc) reg = dispatch svc reg := by
    funext lang intent user c dg
    unfold dispatch execute
    rw [runIntent_paced, validate_paced]
    rfl
  funext lang r
  unfold process processFresh
  rw [dispatches]
  rfl

theorem services_paced : droidServices (paced svc) = droidServices svc := rfl

theorem refresh_paced (reg : Registry (Runtime ε)) : refresh (paced svc) reg = refresh svc reg := by
  unfold refresh
  rw [assess_paced]

private theorem shutdown_paced (reg : Registry (Runtime ε)) :
    requestShutdown (paced svc) reg = requestShutdown svc reg := rfl

/-- Every operation is the same coroutine. -/
theorem code_paced (world : ι → ε → ε) : code (paced svc) world = code svc world := by
  funext op
  unfold code
  rw [process_paced, runIntent_paced, refresh_paced, services_paced, shutdown_paced]
  cases op <;> rfl

/-- And so is the boot. -/
theorem booted_paced (rt : Runtime ε) : booted (paced svc) rt = booted svc rt := by
  have after : bootAfterContact (paced svc) (droidServices svc) = bootAfterContact svc (droidServices svc) := by
    unfold bootAfterContact
    rw [refresh_paced]
    rfl
  unfold booted boot
  rw [services_paced, after]

end DroidOs.System.Pacing
