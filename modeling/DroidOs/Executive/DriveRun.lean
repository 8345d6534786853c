/- GID: DroidOs/Executive/DriveRun
   generality: I
   digest: Exactly when a drive through a scripted world gives motor power back. -/

import DroidOs.Executive.CalmRun

set_option autoImplicit false
set_option relaxedAutoImplicit false

namespace DroidOs.Executive.DriveRun

open DroidOs.Lib.Procedure DroidOs.Lib.Interleaving
open DroidOs.Core.Values DroidOs.Core.States DroidOs.Core.Context
open DroidOs.Backends.SafetyController
open DroidOs.Services.Lifecycle DroidOs.Services.SafetyGateway DroidOs.Services.Supervisor
open BehaviourTree Drive ScriptedWorld CalmRun

/-- The states from which a drive passes through ACTIVE. -/
def passesActive (st : DroidState) : Prop := st = .ready ∨ st = .degraded ∨ st = .active

/-- The grant is completed: power is on and its event is logged. -/
def granted (s : Script) (now : ℚ) : Prop :=
  returns (s.setPower true) = true ∧ logs s "motion_permission_granted" (tokenAt now) false

/-- The release after the loop: a `set_power(False)` that raises does no harm only
if the bus has already told the backend that the contactor is open; with it, or
with a log that raises, the state is not settled. -/
def releases (s : Script) (now : ℚ) (st : DroidState) : Prop :=
  (returns (s.setPower false) = true ∨ s.HeardOpen maxDriveTicks) ∧
    ((returns (s.setPower false) = true ∧
        logs s "motion_permission_released" (tokenAt now) false) ∨ ¬ passesActive st)

/-- Nothing raises from the grant of a drive to its release. -/
def driveReleases (s : Script) (now : ℚ) (st : DroidState) : Prop :=
  granted s now ∧ ¬ s.DriveRaises maxDriveTicks ∧ releases s now st

variable {s : Script}

/-! The grant. -/

/-- The context once power is on. -/
structure Granted (rt rt' : Runtime World) : Prop where
  now : rt'.now = rt.now
  env : rt'.env = { power := true }
  contactor : rt'.controller.power = true
  estop : rt'.controller.estop = false
  token : rt'.token = tokenAt rt.now
  going : rt'.cancelled = false
  state : rt'.machine.state = rt.machine.state

inductive PermissionRun (s : Script) (rt : Runtime World) :
    Except Exn MotionPermission × Runtime World → Prop
  | refused {perm : MotionPermission} {rt' : Runtime World} : grants rt = false →
      perm.granted = false → Calm (rt.machine.state = .active) false rt' →
      PermissionRun s rt (.ok perm, rt')
  | raises {e : Exn} {rt' : Runtime World} : grants rt = true → ¬ granted s rt.now →
      rt'.controller.power = true → PermissionRun s rt (.error e, rt')
  | granted {perm : MotionPermission} {rt' : Runtime World} : grants rt = true →
      granted s rt.now → perm.granted = true → Granted rt rt' → PermissionRun s rt (.ok perm, rt')

/-- Logging the grant finds a healthy controller, so the watchdog leaves its contactor closed. -/
private theorem logGrant_run {rt rt' : Runtime World} (grant : grants rt = true)
    (on : returns (s.setPower true) = true) (opened : Granted rt rt')
    (healthy : (rt'.controller.snapshot rt'.now).healthy = true) (perm : MotionPermission)
    (given : perm.granted = true) :
    PermissionRun s rt ((do
      logSafetyEvent (scripted s) "motion_permission_granted" (tokenAt rt.now)
      return perm : Proc _ Exn _) rt') := by
  obtain ⟨r, run, logged⟩ :=
    logSafetyEvent_run (s := s) "motion_permission_granted" (tokenAt rt.now) rt'
  have closed : (rt'.controller.checkWatchdog rt'.now).power = true := by
    have fit := (SimulatedSafetyController.healthy_iff _ _).mp healthy
    have link : rt'.controller.linkUp = true := by
      have may := fit.1
      simp only [SimulatedSafetyController.mayEnable, Bool.and_eq_true] at may
      exact may.2
    simp [SimulatedSafetyController.checkWatchdog_power, opened.contactor, link, fit.2]
  rw [opened.estop] at logged
  rcases r with e | ⟨⟩
  · rw [bind_error run]
    refine .raises grant (fun complete => ?_) closed
    simpa using logged.mpr complete.2
  · rw [bind_ok run]
    refine .granted grant ⟨on, logged.mp rfl⟩ given ?_
    exact { opened with
      contactor := closed
      estop := (SimulatedSafetyController.checkWatchdog_estop _ _).trans opened.estop }

private theorem permission_run (rt : Runtime World) (env : rt.env = {})
    (contactor : rt.controller.power = false) (going : rt.cancelled = false) :
    PermissionRun s rt (requestMotionPermission (scripted s) rt) := by
  have idle : (contacted rt).power = false := by
    simp [contacted, SimulatedSafetyController.checkWatchdog_power, contactor]
  cases grant : grants rt with
  | false =>
    rw [request_refused grant]
    exact .refused grant rfl ⟨by rw [env], idle, Iff.rfl⟩
  | true =>
  have estop : (contacted rt).estop = false := by
    have may := grants_mayEnable grant
    simp only [SimulatedSafetyController.mayEnable, Bool.and_eq_true] at may
    simpa using may.1.1.1
  rw [request_granted grant, grantPermission]
  rcases on : s.setPower true with e | ⟨⟩
  · rw [bind_error (e := e)
      (t := { rt with controller := { contacted rt with power := true } }) (by simp [on])]
    exact .raises grant (fun complete => by simp [granted, on] at complete) rfl
  rw [bind_ok (a := ()) (t := { rt with
    controller := { contacted rt with power := true }, env := { power := true } })
    (by simp [on, env])]
  rw [reads_bind, modify_bind]
  exact @logGrant_run s rt { rt with
      controller := { contacted rt with power := true }, env := { power := true },
      token := tokenAt rt.now }
    grant (by simp [on]) ⟨rfl, rfl, rfl, estop, rfl, going, rfl⟩ grant _ rfl

/-! The drive. -/

/-- The context after a loop that no exception has left. -/
structure Drove (s : Script) (rt rt' : Runtime World) : Prop where
  now : rt'.now = rt.now
  power : rt'.env.power = false ↔ s.HeardOpen maxDriveTicks
  estop : rt'.controller.estop = false
  token : rt'.token = tokenAt rt.now
  state : rt'.machine.state = .active ↔ passesActive rt.machine.state

/-- The run of the `navigate` tree, and of any longer stretch that begins with it. -/
inductive TreeRun (s : Script) (m : Brain World) :
    Except Exn (Status × String × DriveData) × Brain World → Prop
  | refused {failed : String} {d : DriveData} {m' : Brain World} : grants m.rt = false →
      d.held = false → Calm (m.rt.machine.state = .active) false m'.rt →
      TreeRun s m (.ok (.failure, failed, d), m')
  | raises {e : Exn} {m' : Brain World} : grants m.rt = true →
      ¬ (granted s m.rt.now ∧ ¬ s.DriveRaises maxDriveTicks) → m'.rt.controller.power = true →
      TreeRun s m (.error e, m')
  | drove {status : Status} {failed : String} {d : DriveData} {m' : Brain World} :
      grants m.rt = true → granted s m.rt.now → ¬ s.DriveRaises maxDriveTicks →
      status ≠ .running → d.held = true → Drove s m.rt m'.rt →
      TreeRun s m (.ok (status, failed, d), m')

private theorem tick_run (goal : Pose) (d : DriveData) (m : Brain World) (env : m.rt.env = {})
    (contactor : m.rt.controller.power = false) (going : m.rt.cancelled = false) :
    TreeRun s m ((tick (navigateActions (scripted s) goal) d).run m) := by
  have first := permission_run (s := s) m.rt env contactor going
  simp only [navigateActions, tick, Coroutine.run_bind, Coroutine.run_atomically]
  generalize asked : requestMotionPermission (scripted s) m.rt = outcome at first
  cases first with
  | @refused perm rt' grant given calm =>
    have run : onRt (acquire (scripted s) d) m =
        (.ok (.failure, { d with permission := some perm, held := false }), { m with rt := rt' }) := by
      rw [onRt_run, acquire, bind_ok asked, given]
      rfl
    rw [bind_ok run]
    exact .refused grant rfl calm
  | @raises e rt' grant incomplete closed =>
    have run : onRt (acquire (scripted s) d) m = (.error e, { m with rt := rt' }) := by
      rw [onRt_run, acquire, bind_error asked]
    rw [bind_error run]
    exact .raises grant (fun both => incomplete both.1) closed
  | @granted perm rt' grant complete given opened =>
    have run : onRt (acquire (scripted s) d) m =
        (.ok (.success, { d with permission := some perm, held := true }), { m with rt := rt' }) := by
      rw [onRt_run, acquire, bind_ok asked, given]
      rfl
    obtain ⟨machine, entered, state⟩ :=
      enterActive_run (scripted s) { d with permission := some perm, held := true } rt'
    rw [bind_ok run]
    simp only [Coroutine.run_bind, Coroutine.run_atomically]
    rw [bind_ok (p := onRt _) (t := { m with rt := { rt' with machine := machine } })
      (by rw [onRt_run, entered])]
    simp only [Coroutine.run_bind]
    have loop := driveLoop_run s goal maxDriveTicks 0
      { d with permission := some perm, held := true }
      { m with rt := { rt' with machine := machine } } (by rw [opened.env]) (by rw [opened.env])
      opened.going
    generalize ran : (driveLoop (scripted s) goal maxDriveTicks
      { d with permission := some perm, held := true }).run
        { m with rt := { rt' with machine := machine } } = outcome at loop
    generalize power : s.powerAfter maxDriveTicks 0 _ = after at loop
    cases loop with
    | raises =>
      rw [bind_error ran]
      refine .raises grant (fun both => both.2 ?_) opened.contactor
      exact (powerAfter_none_iff _ _ _).mp power
    | @returns status d' w settled held =>
      have safe : ¬ s.DriveRaises maxDriveTicks := fun raises => by
        rw [(powerAfter_none_iff _ _ _).mpr raises] at power
        cases power
      have heard := powerAfter_some _ _ _ _ power
      rw [opened.env] at heard
      have drove : Drove s m.rt { rt' with machine := machine, env := w } :=
        { now := opened.now
          power := heard.trans (by simp)
          estop := opened.estop
          token := opened.token
          state := by rw [state, opened.state, passesActive] }
      rw [bind_ok ran]
      cases status with
      | running => exact absurd rfl settled
      | failure => exact .drove grant complete safe settled held drove
      | success => exact .drove grant complete safe settled held drove

/-- The tree settles in its first tick. -/
private theorem runTree_run (goal : Pose) (d : DriveData) (m : Brain World) (env : m.rt.env = {})
    (contactor : m.rt.controller.power = false) (going : m.rt.cancelled = false) (budget : Nat) :
    TreeRun s m ((runTree (navigateActions (scripted s) goal) (budget + 1) d).run m) := by
  have first := tick_run (s := s) goal d m env contactor going
  rw [runTree, Coroutine.run_bind]
  generalize ran : (tick (navigateActions (scripted s) goal) d).run m = outcome at first
  cases first with
  | refused grant held calm =>
    rw [bind_ok ran]
    exact .refused grant held calm
  | raises grant incomplete closed =>
    rw [bind_error ran]
    exact .raises grant incomplete closed
  | drove grant complete safe settled held drove =>
    rw [bind_ok ran]
    simp only [settled, if_false]
    exact .drove grant complete safe settled held drove

/-! The release. -/

/-- Without a permission a drive ends by leaving ACTIVE, which never fails. -/
private theorem endDrive_refused {active : Prop} {rt : Runtime World} (calm : Calm active false rt) :
    Released (endDrive (scripted s) false rt).2 := by
  change Released ((reads Runtime.machine >>= fun machine =>
    if machine.state = .active then transition .ready "task complete" else pure ()) rt).2
  rw [reads_bind]
  by_cases busy : rt.machine.state = .active
  · rw [if_pos busy]
    rw [transition_legal (by simp [busy]) (by simp [busy, DroidState.transitions])]
    exact ⟨calm.power, calm.contactor, by simp⟩
  · rw [if_neg busy]
    exact ⟨calm.power, calm.contactor, busy⟩

/-- How the release that follows the loop can end. -/
inductive ReleaseRun (s : Script) (rt rt' : Runtime World) :
    Except Exn Unit × Runtime World → Prop
  | cutOff {e : Exn} {rt'' : Runtime World} : ¬ returns (s.setPower false) = true →
      Calm (passesActive rt.machine.state) rt'.env.power rt'' → ReleaseRun s rt rt' (.error e, rt'')
  | unlogged {e : Exn} {rt'' : Runtime World} : returns (s.setPower false) = true →
      ¬ logs s "motion_permission_released" (tokenAt rt.now) false →
      Calm (passesActive rt.machine.state) false rt'' → ReleaseRun s rt rt' (.error e, rt'')
  | released {rt'' : Runtime World} : returns (s.setPower false) = true →
      logs s "motion_permission_released" (tokenAt rt.now) false →
      Calm (passesActive rt.machine.state) false rt'' → ReleaseRun s rt rt' (.ok (), rt'')

/-- Logging the release, once power is off. -/
private theorem logRelease_run {rt rt' opened : Runtime World} (off : returns (s.setPower false) = true)
    (calm : Calm (passesActive rt.machine.state) false opened)
    (unlatched : opened.controller.estop = false) :
    ReleaseRun s rt rt' ((do
      logSafetyEvent (scripted s) "motion_permission_released" (tokenAt rt.now)
      modify fun rt => { rt with token := "" } : Proc _ Exn _) opened) := by
  have ends := calm_logs (s := s) "motion_permission_released" (tokenAt rt.now) false opened
    ⟨calm, unlatched⟩
  rcases run : logSafetyEvent (scripted s) "motion_permission_released" (tokenAt rt.now) opened
    with ⟨e | ⟨⟩, rt''⟩ <;> rw [run] at ends
  · rw [bind_error run]
    exact .unlogged off ends.2 ends.1
  · rw [bind_ok run]
    exact .released off ends.2 ⟨ends.1.power, ends.1.contactor, ends.1.state⟩

private theorem release_run {rt rt' : Runtime World} (drove : Drove s rt rt') :
    ReleaseRun s rt rt' (releaseMotionPermission (scripted s) rt') := by
  unfold releaseMotionPermission
  rw [bind_ok (onController_run _ rt')]
  rcases off : s.setPower false with e | ⟨⟩
  · rw [bind_error (e := e) (t := { rt' with controller := rt'.controller.disablePower })
      (by simp [off])]
    exact .cutOff (by simp [off]) ⟨rfl, rfl, drove.state⟩
  rw [bind_ok (a := ()) (t := { rt' with
    controller := rt'.controller.disablePower, env := { rt'.env with power := false } })
    (by simp [off])]
  have held : rt'.token ≠ "" := by
    rw [drove.token]
    exact tokenAt_ne_empty rt.now
  rw [reads_bind, if_pos held]
  have logged := @logRelease_run s rt rt' { rt' with
      controller := rt'.controller.disablePower, env := { rt'.env with power := false } }
    (by simp [off]) ⟨rfl, rfl, drove.state⟩ drove.estop
  rwa [← drove.token] at logged

private theorem endDrive_drove {rt rt' : Runtime World} (drove : Drove s rt rt') :
    Released (endDrive (scripted s) true rt').2 ↔ releases s rt.now rt.machine.state := by
  have release := release_run drove
  unfold endDrive releases
  rw [if_pos rfl]
  generalize ran : releaseMotionPermission (scripted s) rt' = outcome at release
  cases release with
  | cutOff raised calm =>
    rw [bind_error ran, calm.released_iff, drove.power]
    tauto
  | unlogged returned unlogged calm =>
    rw [bind_error ran, calm.released_iff]
    tauto
  | released returned logged calm =>
    rw [bind_ok ran]
    have settled := endDrive_refused (s := s) calm
    tauto

/-- A drive gives power back exactly if it was refused or nothing from its grant to
its release raised. -/
theorem driveTo_run (goal : Pose) (label : PyVal) (taskId : String) (m : Brain World)
    (env : m.rt.env = {}) (contactor : m.rt.controller.power = false)
    (going : m.rt.cancelled = false) :
    Released ((driveTo (scripted s) goal label taskId).run m).2.rt ↔
      (grants m.rt = true → driveReleases s m.rt.now m.rt.machine.state) := by
  simp only [driveTo, Coroutine.run_bind, Coroutine.run_atomically]
  rw [bind_ok (onRt_run _ m), bind_ok (onRt_run _ _)]
  generalize begun : ({ m with rt := _ } : Brain World) = m'
  have tree := runTree_run (s := s) goal { label := label } m'
    (by rw [← begun]; exact env) (by rw [← begun]; exact contactor) (by rw [← begun]; exact going)
    9999
  have same : grants m'.rt = grants m.rt ∧ m'.rt.now = m.rt.now ∧
      m'.rt.machine.state = m.rt.machine.state := by
    rw [← begun]
    exact ⟨rfl, rfl, rfl⟩
  rw [← same.1, ← same.2.1, ← same.2.2]
  -- What `_drive_to` returns after the release does not touch the context.
  have finish (held : Bool) (status : Status) (failed : String) (d : DriveData) (m : Brain World) :
      ((onRt (endDrive (scripted s) held) >>= fun _ => (if status = .success then
          (pure (true, d.items, "") : Coroutine (Brain World) Exn _)
        else pure (false, d.items, driveReason (scripted s) d failed)).run) m).2.rt =
      (endDrive (scripted s) held m.rt).2 := by
    rw [bind_run, onRt_run]
    rcases endDrive (scripted s) held m.rt with ⟨e | ⟨⟩, rt⟩
    · rfl
    · dsimp only
      split <;> rfl
  generalize ran : (runTree (navigateActions (scripted s) goal) (9999 + 1) { label := label }).run m' =
    outcome at tree
  cases tree with
  | @refused failed d m'' grant held calm =>
    rw [bind_ok ran]
    dsimp only
    rw [finish, held]
    simp [endDrive_refused calm, grant]
  | raises grant incomplete closed =>
    rw [bind_error ran]
    constructor
    · intro released
      rw [released.contactor] at closed
      cases closed
    · exact fun complete => absurd ⟨(complete grant).1, (complete grant).2.1⟩ incomplete
  | @drove status failed d m'' grant complete safe settled held drove =>
    rw [bind_ok ran]
    dsimp only
    rw [finish, held, endDrive_drove drove]
    unfold driveReleases
    tauto

end DroidOs.Executive.DriveRun
