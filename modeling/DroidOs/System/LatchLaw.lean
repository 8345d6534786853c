/- GID: DroidOs/System/LatchLaw
   generality: I
   digest: What an emergency stop in force forbids, and that every operation but a reset keeps it in force. -/

import DroidOs.System.Simulated
import DroidOs.System.StepLaw

set_option autoImplicit false
set_option relaxedAutoImplicit false

namespace DroidOs.System.LatchLaw

open DroidOs.Lib.Procedure DroidOs.Lib.Interleaving
open DroidOs.Lib.Interleaving.Coroutine (atomically Guard)
open DroidOs.Core.Values DroidOs.Core.States DroidOs.Core.Context
open DroidOs.Backends.SafetyController DroidOs.Backends.Simulation
open DroidOs.Services.Lifecycle DroidOs.Services.HookLaw
open DroidOs.Services.SafetyGateway DroidOs.Services.Supervisor
open DroidOs.Executive.Drive DroidOs.Executive.RunIntent
open DroidOs.Language.Intent
open Registration TaskLaw Operations Simulated Boot StepLaw

variable {δ : Type} {s : Surroundings δ}

/-- What happens to a simulated body from outside. -/
inductive SimEvent (δ : Type)
  | injectFault (kind : String) (params : Items)
  | clearFaults
  | store (f : δ → δ)

def happening : SimEvent δ → SimWorld δ → SimWorld δ
  | .injectFault kind params, w => { w with backend := w.backend.injectFault kind params }
  | .clearFaults, w => { w with backend := w.backend.clearFaults }
  | .store f, w => { w with store := f w.store }

/-- An emergency stop in force. -/
structure Latched (rt : Runtime (SimWorld δ)) : Prop where
  estop : rt.controller.estop = true
  contactor : rt.controller.power = false
  power : rt.env.backend.power = false
  file : rt.latchWrite = .succeeds → ∃ reason now, rt.latch = latchRecord true reason now
  state : rt.machine.state ∉ DroidState.motionAllowedFrom

/-- The latch file takes writes as given, and after any calls in `C` the stop is in
force with the pose in `Q`. -/
structure Kept (w : LatchWrite) (C : List EstopCall → Prop) (Q : Pose → Prop)
    (rt : Runtime (SimWorld δ)) : Prop where
  writes : rt.latchWrite = w
  latched : C rt.estopCalls → Latched rt
  pose : C rt.estopCalls → Q rt.env.backend.pose

variable {w : LatchWrite} {C : List EstopCall → Prop} {Q : Pose → Prop} {α : Type}

/-- Outside the calls in `C` nothing but the calls themselves matters. -/
theorem kept_of_not {rt : Runtime (SimWorld δ)} (writes : rt.latchWrite = w)
    (free : ¬ C rt.estopCalls) : Kept w C Q rt :=
  ⟨writes, fun called => absurd called free, fun called => absurd called free⟩

theorem kept_of_latched {rt : Runtime (SimWorld δ)} (writes : rt.latchWrite = w)
    (latched : Latched rt) (pose : C rt.estopCalls → Q rt.env.backend.pose) : Kept w C Q rt :=
  ⟨writes, fun _ => latched, pose⟩

/-! The primitive steps. -/

private theorem kept_quiet {p : Proc (SimWorld δ) Exn α} (call : QuietCall (simulated s) p) :
    Keeps (Kept w C Q) (outside p) := by
  refine keeps_iff.mpr fun rt kept => ?_
  have still (called : C rt.estopCalls) : Still false rt.env.backend.pose (p rt.env).2 :=
    Keeps.after (still_quiet s call) ⟨(kept.latched called).power, fun _ => rfl⟩
  refine ⟨kept.writes, fun called => ?_, fun called => ?_⟩
  · exact { kept.latched called with power := (still called).1 }
  · change Q (p rt.env).2.backend.pose
    rw [(still called).2 rfl]
    exact kept.pose called

private theorem kept_beside {P : String → Prop} {rt rt' : Runtime (SimWorld δ)} (kept : Kept w C Q rt)
    (beside : Beside P rt rt') : Kept w C Q rt' where
  writes := beside.latchWrite.trans kept.writes
  latched called := by
    obtain ⟨estop, contactor, power, file, state⟩ := kept.latched (beside.estopCalls ▸ called)
    rw [← beside.controller] at estop contactor
    rw [← beside.latch, ← beside.latchWrite] at file
    exact ⟨estop, contactor, beside.env ▸ power, file, beside.machine ▸ state⟩
  pose called := beside.env ▸ kept.pose (beside.estopCalls ▸ called)

theorem kept_primitives : Primitives (simulated s) (Kept w C Q) fun _ => True where
  quiet := kept_quiet
  off := keeps_iff.mpr fun _ kept =>
    ⟨kept.writes, fun called => { kept.latched called with power := rfl }, kept.pose⟩
  lower lowers _ kept :=
    ⟨kept.writes, fun called => { kept.latched called with
      estop := lowers.estop _ (kept.latched called).estop
      contactor := lowers.contactor _ (kept.latched called).contactor }, kept.pose⟩
  beside _ _ kept beside := kept_beside kept beside

/-- No transition to a state without motion ends the stop. -/
private theorem kept_machine {rt : Runtime (SimWorld δ)} {machine : StateMachine}
    (kept : Kept w C Q rt) (forbidden : rt.machine.state ∉ DroidState.motionAllowedFrom →
      machine.state ∉ DroidState.motionAllowedFrom) :
    Kept w C Q { rt with machine := machine } where
  writes := kept.writes
  latched called := { kept.latched called with state := forbidden (kept.latched called).state }
  pose := kept.pose

theorem kept_forbids : Forbids (Kept (δ := δ) w C Q) where
  transition dst reason forbidden := by
    refine keeps_iff.mpr fun rt kept => ?_
    obtain ⟨machine, run, same | moved⟩ := transition_after dst reason rt
    · rw [run, same]
      exact kept
    · rw [run]
      exact kept_machine kept fun _ => moved ▸ forbidden
  force dst reason forbidden := keeps_iff.mpr fun _ kept => kept_machine kept fun _ => forbidden

/-- The stop excludes the states that permit motion. -/
private theorem kept_moves : Moves (Kept (δ := δ) w C Q) := by
  intro rt kept allowed dst reason _
  obtain ⟨machine, run, -⟩ := transition_after dst reason rt
  rw [run]
  exact kept_machine kept fun forbidden => absurd allowed forbidden

private theorem kept_close : Keeps (Kept w C Q) (outside (simulated s).shutdown) :=
  keeps_iff.mpr fun _ kept =>
    ⟨kept.writes, fun called => { kept.latched called with power := rfl }, kept.pose⟩

/-! The e-stop, its reset and requests of motion permission. -/

/-- The context after an e-stop, which no service can keep from completing. -/
theorem engageEstop_run (reason : String) (rt : Runtime (SimWorld δ)) :
    ∃ controller store, controller.estop = true ∧ controller.power = false ∧
      engageEstop (simulated s) reason rt = (.ok (), { rt with
        controller := controller
        latch := match rt.latchWrite with
          | .succeeds => latchRecord true reason rt.now
          | .failsAtOpen => rt.latch
          | .failsWriting leaves => leaves
        machine := rt.machine.force .emergencyStopped ("estop: " ++ reason)
        estopCalls := rt.estopCalls ++ [.engaged]
        env := { rt.env with backend := rt.env.backend.setPower false, store := store } }) :=
  ⟨_, _, by simp, by simp [SimulatedSafetyController.checkWatchdog_power], rfl⟩

/-- An e-stop is in force once it is called, and it does not move the body. -/
private theorem kept_engage
    (appends : ∀ calls pose, C (calls ++ [.engaged]) → (C calls → Q pose) → Q pose)
    (reason : String) : Keeps (Kept w C Q) (engageEstop (simulated s) reason) := by
  refine keeps_iff.mpr fun rt kept => ?_
  obtain ⟨controller, store, estop, contactor, run⟩ := engageEstop_run (s := s) reason rt
  rw [run]
  refine kept_of_latched kept.writes ⟨estop, contactor, rfl, fun writes => ?_, ?_⟩ fun called => ?_
  · have succeeds : rt.latchWrite = .succeeds := writes
    exact ⟨reason, rt.now, by simp [succeeds]⟩
  · simp [DroidState.motionAllowedFrom]
  · exact appends rt.estopCalls _ called kept.pose

/-- A reset completes too. -/
theorem resetEstop_run (rt : Runtime (SimWorld δ)) :
    ∃ controller latch store, resetEstop (simulated s) rt = (.ok true, { rt with
      controller := controller
      latch := latch
      estopCalls := rt.estopCalls ++ [.reset]
      env := { rt.env with store := store } }) :=
  ⟨_, _, _, rfl⟩

/-- A stop in force refuses a request; a granted one is no call that ends or begins a stop. -/
private theorem kept_request {rt : Runtime (SimWorld δ)} (kept : Kept w C Q rt) :
    Kept w C Q (requestMotionPermission (simulated s) rt).2 := by
  refine kept_primitives.request_holds kept fun grant => ?_
  have free : ¬ C rt.estopCalls := by
    intro called
    have unhealthy : grants rt = false := by
      refine SimulatedSafetyController.estop_not_healthy ?_
      simp [contacted, (kept.latched called).estop]
    simp [unhealthy] at grant
  have untouched : Keeps (fun rt : Runtime (SimWorld δ) => rt.latchWrite = w ∧ ¬ C rt.estopCalls)
      (grantPermission (simulated s)) := by
    refine keeps_bind (keeps_iff.mpr fun _ holds => holds) fun _ => keeps_bind (keeps_reads _) fun _ => ?_
    refine keeps_bind (keeps_modify fun _ holds => holds) fun _ => keeps_bind ?_ fun _ => keeps_pure _
    refine keeps_bind (keeps_iff.mpr fun _ holds => holds) fun _ => ?_
    exact keeps_bind (keeps_iff.mpr fun _ holds => holds) fun _ => keeps_iff.mpr fun _ holds => holds
  obtain ⟨writes, still⟩ := Keeps.after untouched
    (s := { rt with controller := { contacted rt with power := true } }) ⟨kept.writes, free⟩
  exact kept_of_not writes still

/-! Refreshing. -/

/-- Under a stop in force the assessment finds just that. -/
private theorem assess_latched {reg : Registry (Runtime (SimWorld δ))} (safety : hasSafety reg = true)
    {m : Brain (SimWorld δ)} (estop : m.rt.controller.estop = true) :
    assessReadiness (simulated s) reg m =
      (.ok ⟨.emergencyStopped, ["emergency stop engaged"], []⟩, { m with rt := { m.rt with
        controller := m.rt.controller.checkWatchdog m.rt.now } }) := by
  have engaged : onRt (if hasSafety reg = true then estopEngaged else pure false) m =
      (.ok true, { m with rt := { m.rt with
        controller := m.rt.controller.checkWatchdog m.rt.now } }) := by
    rw [if_pos safety, onRt_run]
    simp [estopEngaged, bind_run, estop]
  unfold assessReadiness
  rw [bind_ok engaged]
  rfl

private theorem uncalled_settle {calls : List EstopCall} (target : DroidState) :
    Keeps (Kept (δ := δ) w (· ≠ calls) fun _ => False) (settle target) := by
  have moved (rt : Runtime (SimWorld δ)) (machine : StateMachine)
      (kept : Kept w (· ≠ calls) (fun _ => False) rt) :
      Kept w (· ≠ calls) (fun _ => False) { rt with machine := machine } :=
    kept_of_not kept.writes fun called => kept.pose called
  refine keeps_reads_bind fun rt kept => ?_
  split
  · exact kept
  split
  · obtain ⟨machine, run, -⟩ := transition_after target "readiness settle" rt
    rw [run]
    exact moved rt machine kept
  · exact moved rt _ kept

/-- Refreshing under a stop in force leaves the droid stopped; otherwise the calls are
as they were. -/
private theorem kept_refresh {reg : Registry (Runtime (SimWorld δ))} (safety : hasSafety reg = true)
    {m : Brain (SimWorld δ)} (kept : Kept w C Q m.rt) :
    Kept w C Q (refresh (simulated s) reg m).2.rt := by
  have noted {C : List EstopCall → Prop} {Q : Pose → Prop} (readiness : Readiness) :
      Keeps (Kept (δ := δ) w C Q) (modify fun rt => { rt with readiness := readiness } : Proc _ Exn _) :=
    (kept_primitives (s := s)).keeps_note fun _ =>
      ⟨rfl, rfl, rfl, rfl, rfl, rfl, rfl, rfl, rfl⟩
  by_cases called : C m.rt.estopCalls
  · have stops : Keeps (Kept (δ := δ) w C Q) (settle .emergencyStopped) :=
      keeps_bind (keeps_reads _) fun _ => keeps_ite (fun _ => keeps_pure _) fun _ =>
        keeps_ite (fun _ => kept_forbids.transition _ _ (by decide))
          fun _ => kept_forbids.force _ _ (by decide)
    have rest : Keeps (fun m : Brain (SimWorld δ) => Kept w C Q m.rt) (do
        onRt (modify fun rt => { rt with
          readiness := ⟨.emergencyStopped, ["emergency stop engaged"], []⟩ })
        onRt (settle .emergencyStopped)
        return (⟨.emergencyStopped, ["emergency stop engaged"], []⟩ : Readiness)) :=
      keeps_bind (keeps_onRt_of (noted _)) fun _ => keeps_bind (keeps_onRt_of stops) fun _ =>
        keeps_pure _
    unfold refresh
    rw [bind_ok (assess_latched safety (kept.latched called).estop)]
    exact rest.after ((kept_primitives (s := s)).lower
      (lowers_checkWatchdog m.rt.now) m.rt kept)
  · have same : Kept w (· ≠ m.rt.estopCalls) (fun _ => False) (refresh (simulated s) reg m).2.rt := by
      refine Keeps.after (I := fun m' : Brain (SimWorld δ) =>
        Kept w (· ≠ m.rt.estopCalls) (fun _ => False) m'.rt) ?_ (kept_of_not kept.writes fun ne => ne rfl)
      refine keeps_bind kept_primitives.attends.toReads.keeps_assessReadiness fun _ => ?_
      refine keeps_bind (keeps_onRt_of (noted _)) fun _ => ?_
      exact keeps_bind (keeps_onRt_of (uncalled_settle _)) fun _ => keeps_pure _
    have calls : (refresh (simulated s) reg m).2.rt.estopCalls = m.rt.estopCalls :=
      Classical.byContradiction same.pose
    exact kept_of_not same.writes (calls ▸ called)

/-! The boot and all operations. -/

theorem kept_boots : Boots (simulated s) (Kept w C Q) :=
  kept_primitives.boots kept_forbids
    (keeps_iff.mpr fun _ kept =>
      ⟨kept.writes, fun called => { kept.latched called with power := rfl }, kept.pose⟩)
    (keeps_iff.mpr fun _ kept => kept_refresh (droidServices_hasSafety _) kept)

theorem kept_upholds {G : Guard (Brain (SimWorld δ))}
    (appends : ∀ calls pose, C (calls ++ [.engaged]) → (C calls → Q pose) → Q pose)
    (resets : ∀ m, G m (onRt (resetEstop (simulated s))).after →
      ¬ C (m.rt.estopCalls ++ [.reset])) :
    Upholds (simulated s) happening G (Kept w C Q) fun _ => True := by
  refine kept_primitives.upholds kept_forbids kept_moves kept_close ?_ (kept_engage appends) ?_ ?_ ?_
  · exact fun m kept _ => kept_request kept
  · intro m kept allowed
    obtain ⟨controller, latch, store, run⟩ := resetEstop_run (s := s) m.rt
    rw [run]
    exact kept_of_not kept.writes (resets m allowed)
  · exact fun m kept _ => kept_refresh (droidServices_hasSafety _) kept
  · intro event rt kept
    cases event with
    | injectFault kind params =>
      exact ⟨kept.writes, fun called => { kept.latched called with power := (kept.latched called).power },
        kept.pose⟩
    | clearFaults =>
      exact ⟨kept.writes, fun called => { kept.latched called with power := (kept.latched called).power },
        kept.pose⟩
    | store f =>
      exact ⟨kept.writes, fun called => { kept.latched called with power := (kept.latched called).power },
        kept.pose⟩

end DroidOs.System.LatchLaw
