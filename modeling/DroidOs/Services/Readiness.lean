/- GID: DroidOs/Services/Readiness
   generality: I
   source: src/droidos/services/supervisor.py
   digest: What the readiness assessment finds, and exactly when it lets the droid move. -/

import DroidOs.Services.Supervisor

set_option autoImplicit false
set_option relaxedAutoImplicit false

namespace DroidOs.Services.Readiness

open DroidOs.Lib.Procedure
open DroidOs.Core.Values DroidOs.Core.States DroidOs.Core.Context
open DroidOs.Backends.SafetyController
open Lifecycle SafetyGateway Supervisor

variable {ε : Type} (svc : Services ε) (reg : Registry (Runtime ε))

/-- The fatal issues of the body are among what inhibits motion. -/
theorem hardwareReasons_issues : Triple (fun _ => True) (hardwareReasons svc)
    (fun found _ => svc.body.fatalIssues <+: found.1) fun _ _ => True := by
  have whatever {α : Type} (p : Proc ε Exn α) : Triple (fun _ => True) p (fun _ _ => True) fun _ _ => True := by
    intro env _
    rcases p env with ⟨_ | _, _⟩ <;> trivial
  refine (whatever _).bind fun battery => (whatever _).bind fun actuators => (whatever _).bind fun sensors => ?_
  refine (whatever _).bind fun thermal => (whatever _).bind fun degraded => (whatever _).bind fun bus => ?_
  refine Triple.pure fun _ _ => ?_
  simp only [List.append_assoc]
  exact List.prefix_append _ _

/-- The context after the first reading of the controller, before it is contacted. -/
def heard (rt : Runtime ε) : Runtime ε :=
  { rt with controller := rt.controller.checkWatchdog rt.now }

/-- The reason that an unhealthy controller gives. -/
def safetyReasons (rt : Runtime ε) : List String :=
  if grants rt then [] else ["safety controller is not healthy"]

/-- What the assessment finds if no e-stop is engaged. -/
def finding (m : Brain ε) : Except Exn Readiness :=
  (hardwareReasons svc m.rt.env).1.map fun found =>
    verdict (safetyReasons m.rt ++ inactiveReasons reg m ++ found.1) found.2

/-- The droid may move: the controller would grant a permission, the critical services
are active, and nothing in the body and the backend inhibits motion. -/
structure Fit (m : Brain ε) : Prop where
  granted : grants m.rt = true
  active : inactiveReasons reg m = []
  hardware : ∃ degraded, (hardwareReasons svc m.rt.env).1 = .ok ([], degraded)

/-- The states that an assessment can find. -/
def findable : List DroidState := [.emergencyStopped, .motionInhibited, .degraded, .ready]

variable {svc reg}

/-- The controller would grant a permission exactly when nothing stands in the way of its
contactor and its watchdog tolerates a host that has just been heard. -/
theorem grants_iff (rt : Runtime ε) :
    grants rt = true ↔ rt.controller.mayEnable = true ∧ ¬ rt.controller.watchdogTimeout < 0 := by
  unfold grants
  rw [SimulatedSafetyController.healthy_iff]
  simp [contacted, SimulatedSafetyController.mayEnable, SimulatedSafetyController.silent,
    SimulatedSafetyController.heartbeat]

/-- Without such a reason a critical service that is registered is active. -/
theorem critical_active {m : Brain ε} (none : inactiveReasons reg m = []) {name : String}
    (critical : name ∈ motionCritical) (registered : reg.has name = true) : m.state name = .active := by
  rw [inactiveReasons, List.map_eq_nil_iff, List.filter_eq_nil_iff] at none
  have unlisted := none name critical
  simpa [registered] using unlisted

theorem grants_heard (rt : Runtime ε) : grants (heard rt) = grants rt := by
  rw [Bool.eq_iff_iff, grants_iff, grants_iff]
  simp [heard, SimulatedSafetyController.mayEnable]

theorem grants_no_estop {rt : Runtime ε} (granted : grants rt = true) :
    rt.controller.estop = false := by
  have enabled := ((grants_iff rt).mp granted).1
  simp only [SimulatedSafetyController.mayEnable, Bool.and_eq_true, Bool.not_eq_true'] at enabled
  exact enabled.1.1.1

/-- An engaged e-stop is all that the assessment finds. -/
theorem assess_stopped (safety : hasSafety reg = true) {m : Brain ε}
    (engaged : m.rt.controller.estop = true) :
    assessReadiness svc reg m = (.ok ⟨.emergencyStopped, ["emergency stop engaged"], []⟩,
      { m with rt := heard m.rt }) := by
  have read : onRt (if hasSafety reg then estopEngaged else pure false) m =
      (.ok true, { m with rt := heard m.rt }) := by
    rw [if_pos safety, onRt_run]
    simp [estopEngaged, bind_run, engaged, heard]
  unfold assessReadiness
  rw [bind_ok read]
  rfl

/-- Without one it looks at everything else. -/
theorem assess_free (safety : hasSafety reg = true) {m : Brain ε}
    (free : m.rt.controller.estop = false) :
    assessReadiness svc reg m = (finding svc reg m, { m with rt := { m.rt with
      controller := contacted (heard m.rt), env := (hardwareReasons svc m.rt.env).2 } }) := by
  have read : onRt (if hasSafety reg then estopEngaged else pure false) m =
      (.ok false, { m with rt := heard m.rt }) := by
    rw [if_pos safety, onRt_run]
    simp [estopEngaged, bind_run, free, heard]
  have contact : onRt (safetyUnhealthy reg) { m with rt := heard m.rt } =
      (.ok !grants m.rt, { m with rt := { m.rt with controller := contacted (heard m.rt) } }) := by
    rw [onRt_run, safetyUnhealthy, if_pos safety]
    simp only [healthy, bind_run, status_run, pure_run]
    rw [← grants_heard]
    rfl
  have reasons : (if (!grants m.rt) = true then ["safety controller is not healthy"] else []) =
      safetyReasons m.rt := by
    cases granted : grants m.rt <;> simp [safetyReasons, granted]
  unfold assessReadiness
  rw [bind_ok read]
  simp only [Bool.false_eq_true, if_false]
  rw [bind_ok contact, reads_bind, bind_run, onRt_run, outside_run]
  unfold finding
  rcases (hardwareReasons svc m.rt.env).1 with e | ⟨hardware, degraded⟩
  · rfl
  · simp only [reasons]
    rfl

theorem verdict_findable (inhibit degraded : List String) :
    (verdict inhibit degraded).state ∈ findable := by
  unfold verdict
  split
  · simp [findable]
  split <;> simp [findable]

/-- A verdict lets the droid move exactly when nothing inhibits it. -/
theorem verdict_allowed_iff (inhibit degraded : List String) :
    (verdict inhibit degraded).state ∈ DroidState.motionAllowedFrom ↔ inhibit = [] := by
  unfold verdict
  cases inhibit with
  | nil => cases degraded <;> simp [DroidState.motionAllowedFrom]
  | cons reason rest => simp [DroidState.motionAllowedFrom]

theorem assess_findable (safety : hasSafety reg = true) {m : Brain ε} {r : Readiness}
    (found : (assessReadiness svc reg m).1 = .ok r) : r.state ∈ findable := by
  cases engaged : m.rt.controller.estop with
  | true =>
    rw [assess_stopped safety engaged] at found
    cases found
    simp [findable]
  | false =>
    rw [assess_free safety engaged, finding] at found
    rcases hardware : (hardwareReasons svc m.rt.env).1 with e | ⟨h, d⟩ <;> rw [hardware] at found
    · cases found
    · cases found
      exact verdict_findable _ _

/-- The assessment lets the droid move exactly when it is fit. -/
theorem assess_allowed_iff (safety : hasSafety reg = true) (m : Brain ε) :
    (∃ r, (assessReadiness svc reg m).1 = .ok r ∧ r.state ∈ DroidState.motionAllowedFrom) ↔
      Fit svc reg m := by
  cases engaged : m.rt.controller.estop with
  | true =>
    rw [assess_stopped safety engaged]
    constructor
    · rintro ⟨r, found, allowed⟩
      cases found
      simp [DroidState.motionAllowedFrom] at allowed
    · intro fit
      simp [grants_no_estop fit.granted] at engaged
  | false =>
    rw [assess_free safety engaged]
    constructor
    · rintro ⟨r, found, allowed⟩
      simp only [finding] at found
      rcases hardware : (hardwareReasons svc m.rt.env).1 with e | ⟨h, d⟩ <;> rw [hardware] at found
      · cases found
      · cases found
        have none := (verdict_allowed_iff _ _).mp allowed
        rw [List.append_eq_nil_iff, List.append_eq_nil_iff] at none
        obtain ⟨⟨silent, active⟩, rfl⟩ := none
        refine ⟨?_, active, d, hardware⟩
        by_contra refused
        simp [safetyReasons, refused] at silent
    · rintro ⟨granted, active, d, hardware⟩
      simp only [finding, hardware]
      refine ⟨_, rfl, (verdict_allowed_iff _ _).mpr ?_⟩
      simp [safetyReasons, granted, active]

/-- The assessment changes the controller and the outside world at most. -/
theorem assess_keeps (safety : hasSafety reg = true) (m : Brain ε) :
    ∃ controller env, (assessReadiness svc reg m).2 =
      { m with rt := { m.rt with controller := controller, env := env } } := by
  cases engaged : m.rt.controller.estop with
  | true =>
    rw [assess_stopped safety engaged]
    exact ⟨_, m.rt.env, rfl⟩
  | false =>
    rw [assess_free safety engaged]
    exact ⟨_, _, rfl⟩

/-! Refreshing. -/

/-- Settling always ends in its target. -/
theorem settle_run (target : DroidState) (rt : Runtime ε) :
    ∃ machine : StateMachine, settle target rt = (.ok (), { rt with machine := machine }) ∧
      machine.state = target := by
  unfold settle
  rw [reads_bind]
  split
  · next same => exact ⟨rt.machine, rfl, same⟩
  · next moves =>
    split
    · next legal =>
      refine ⟨_, transition_legal (fun same => moves same.symm) ?_, rfl⟩
      simpa [StateMachine.canTransition] using legal
    · exact ⟨_, rfl, rfl⟩

/-- A refresh keeps what it finds and ends in that state. -/
theorem refresh_ok {m : Brain ε} {r : Readiness} (found : (assessReadiness svc reg m).1 = .ok r) :
    ∃ machine : StateMachine, refresh svc reg m = (.ok r, { (assessReadiness svc reg m).2 with
      rt := { (assessReadiness svc reg m).2.rt with readiness := r, machine := machine } }) ∧
      machine.state = r.state := by
  rcases run : assessReadiness svc reg m with ⟨e | r', m'⟩ <;> rw [run] at found <;> cases found
  obtain ⟨machine, settles, state⟩ := settle_run r.state { m'.rt with readiness := r }
  refine ⟨machine, ?_, state⟩
  unfold refresh
  rw [bind_ok run]
  simp only [bind_run, onRt_run, modify_run, settles]
  rfl

theorem refresh_error {m : Brain ε} {e : Exn} (raises : (assessReadiness svc reg m).1 = .error e) :
    refresh svc reg m = (.error e, (assessReadiness svc reg m).2) := by
  rcases run : assessReadiness svc reg m with ⟨e' | r, m'⟩ <;> rw [run] at raises <;> cases raises
  exact bind_error run

/-- From a state that permits no motion a refresh makes the droid ready, or ready with
restrictions, exactly when it is fit. -/
theorem refresh_ready_iff (safety : hasSafety reg = true) {m : Brain ε}
    (parked : m.rt.machine.state ∉ [DroidState.ready, .degraded]) :
    (refresh svc reg m).2.rt.machine.state ∈ [DroidState.ready, .degraded] ↔ Fit svc reg m := by
  rw [← assess_allowed_iff safety m]
  rcases found : (assessReadiness svc reg m).1 with e | r
  · obtain ⟨controller, env, kept⟩ := @assess_keeps ε svc reg safety m
    rw [refresh_error found, kept]
    refine iff_of_false parked ?_
    rintro ⟨r, same, -⟩
    cases same
  · obtain ⟨machine, run, state⟩ := refresh_ok found
    have possible := assess_findable safety found
    rw [run]
    change machine.state ∈ _ ↔ _
    rw [state]
    constructor
    · intro ready
      refine ⟨r, rfl, ?_⟩
      simp only [List.mem_cons, List.not_mem_nil, or_false] at ready
      rcases ready with ready | degraded
      · simp [ready, DroidState.motionAllowedFrom]
      · simp [degraded, DroidState.motionAllowedFrom]
    · rintro ⟨r', same, allowed⟩
      cases same
      revert possible allowed
      cases r.state <;> simp [findable, DroidState.motionAllowedFrom]

end DroidOs.Services.Readiness
