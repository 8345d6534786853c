/- GID: DroidOs/Backends/Unpowered
   generality: I
   source: src/droidos/backends/base.py
   digest: What a command does to a body whose motor power is disabled, backend by backend. -/

import DroidOs.Backends.CanFd
import DroidOs.Backends.Simulation

set_option autoImplicit false
set_option relaxedAutoImplicit false

namespace DroidOs.Backends.Unpowered

open DroidOs.Core.Values DroidOs.Core.Context
open DroidOs.Body.Package
open Simulation CanFd

/-- The backends of the repository; the mock is a simulation with a bus state. -/
inductive HardwareBackend
  | simulation (b : SimulationBackend)
  | canFd (b : CanFdBackend)

inductive Command
  | velocity (vel : BodyVelocity) (dt : PyFloat)
  | joints (targets : List (PyVal × PyFloat))

/-- What the backends work with: the body, the math library, the package and the clock. -/
structure Setting where
  text : PyText
  math : Libm
  body : LoadedBody
  can : PythonCan
  now : ℚ

def powerEnabled : HardwareBackend → Bool
  | .simulation b => b.power
  | .canFd b => b.power

variable (world : Setting)

/-- The backend after the command, whether it returned or raised. -/
def perform : Command → HardwareBackend → HardwareBackend
  | .velocity vel dt, .simulation b => match b.commandVelocity world.text world.math world.body vel dt with
    | .ok b' => .simulation b'
    | .error _ => .simulation b
  | .velocity _ _, .canFd b => match b.commandVelocity world.now with
    | .ok b' => .canFd b'
    | .error _ => .canFd b
  | .joints targets, .simulation b => .simulation (b.commandJoints targets)
  | .joints targets, .canFd b => .canFd (b.commandJoints world.can targets).2

/-- The set-point frames that have been sent. -/
def sentOn (b : CanFdBackend) : List Message := (b.bus.map Bus.sent).getD []

/-- Pose and joint positions are as they were, those of a bus apart from the telemetry that had
already arrived, and no frame was sent. -/
def Effectless : HardwareBackend → HardwareBackend → Prop
  | .simulation b, .simulation b' => b'.pose = b.pose ∧ b'.positions = b.positions
  | .canFd b, .canFd b' => b'.pose = b.pose ∧
    (b'.telemetry = b.telemetry ∨ b'.telemetry = (b.drain world.now).telemetry) ∧ sentOn b' = sentOn b
  | _, _ => False

/-- The frame of the first target that names an actuator. -/
def firstSetPoint (b : CanFdBackend) (targets : List (PyVal × PyFloat)) : Option (Except Exn Message) :=
  targets.findSome? fun target => (b.index target.1).map fun joint => CanFdBackend.setPoint joint.2 target.2

/-- The bus is open and takes that frame. -/
def SendsSetPoint : HardwareBackend → Command → Prop
  | .canFd b, .joints targets => b.bus ≠ none ∧ world.can.installed = true ∧
    ∃ msg, firstSetPoint b targets = some (.ok msg) ∧ world.can.refuses msg = none
  | _, _ => False

/-! The bus. -/

variable {world}

/-- Receiving sends nothing. -/
private theorem drain_silent (b : CanFdBackend) (now : ℚ) : sentOn (b.drain now) = sentOn b := by
  rw [sentOn, CanFdBackend.drain_bus, sentOn]
  cases b.bus <;> rfl

/-- Frames are only added. -/
private theorem sendTargets_grows (b : CanFdBackend) (can : PythonCan) (targets : List (PyVal × PyFloat))
    (bus : Bus) : bus.sent <+: (b.sendTargets can bus targets).2.sent := by
  induction targets generalizing bus with
  | nil => exact List.prefix_refl _
  | cons target targets ih =>
    obtain ⟨name, value⟩ := target
    unfold CanFdBackend.sendTargets
    split
    · exact ih bus
    split
    · exact List.prefix_refl _
    split
    · exact List.prefix_refl _
    · refine List.IsPrefix.trans ?_ (ih _)
      exact List.prefix_append _ _

/-- Nothing is sent exactly when the first frame there would be is not taken. -/
private theorem sendTargets_silent_iff (b : CanFdBackend) (can : PythonCan) (targets : List (PyVal × PyFloat))
    (bus : Bus) : (b.sendTargets can bus targets).2.sent = bus.sent ↔
      ¬ ∃ msg, firstSetPoint b targets = some (.ok msg) ∧ can.refuses msg = none := by
  induction targets with
  | nil => simp [CanFdBackend.sendTargets, firstSetPoint]
  | cons target targets ih =>
    obtain ⟨name, value⟩ := target
    cases known : b.index name with
    | none =>
      have skipped : firstSetPoint b ((name, value) :: targets) = firstSetPoint b targets := by
        simp [firstSetPoint, known]
      rw [skipped, ← ih, CanFdBackend.sendTargets, known]
    | some joint =>
      have first : firstSetPoint b ((name, value) :: targets) = some (CanFdBackend.setPoint joint.2 value) := by
        simp [firstSetPoint, known]
      rw [first, CanFdBackend.sendTargets, known]
      cases packed : CanFdBackend.setPoint joint.2 value with
      | error e => simp [packed]
      | ok msg =>
        cases taken : can.refuses msg with
        | some reason => simp [packed, taken]
        | none =>
          refine iff_of_false (fun same => ?_) fun silent => silent ⟨msg, rfl, taken⟩
          have grows := sendTargets_grows b can targets { bus with sent := bus.sent ++ [msg] }
          have longer := grows.length_le
          simp only [packed, taken] at same
          rw [same] at longer
          simp at longer

private theorem effectless_refl (b : HardwareBackend) : Effectless world b b := by
  cases b with
  | simulation b => exact And.intro rfl rfl
  | canFd b => exact And.intro rfl ⟨.inl rfl, rfl⟩

/-- Without motor power a command is without effect exactly when it sends no set-point frame. -/
theorem unpowered_effectless_iff {b : HardwareBackend} (off : powerEnabled b = false) (c : Command) :
    Effectless world b (perform world c b) ↔ ¬ SendsSetPoint world b c := by
  cases b with
  | simulation b =>
    have unpowered : b.power = false := off
    refine iff_of_true ?_ fun sends => by cases c <;> exact sends
    have still : perform world c (.simulation b) = .simulation b := by
      cases c with
      | velocity vel dt => simp [perform, SimulationBackend.commandVelocity, unpowered, pure, Except.pure]
      | joints targets => simp [perform, SimulationBackend.commandJoints, unpowered]
    rw [still]
    exact effectless_refl _
  | canFd b =>
    cases c with
    | velocity vel dt =>
      refine iff_of_true ?_ fun sends => sends
      cases opened : b.bus with
      | none =>
        have still : perform world (.velocity vel dt) (.canFd b) = .canFd b := by
          simp [perform, CanFdBackend.commandVelocity, opened]
        rw [still]
        exact effectless_refl _
      | some bus =>
        have received : perform world (.velocity vel dt) (.canFd b) = .canFd (b.drain world.now) := by
          simp [perform, CanFdBackend.commandVelocity, opened]
        rw [received]
        exact And.intro (CanFdBackend.drain_pose b world.now) ⟨.inr rfl, drain_silent b world.now⟩
    | joints targets =>
      cases opened : b.bus with
      | none =>
        have still : perform world (.joints targets) (.canFd b) = .canFd b := by
          simp [perform, CanFdBackend.commandJoints, opened]
        rw [still]
        exact iff_of_true (effectless_refl _) fun sends => sends.1 opened
      | some bus =>
        cases present : world.can.installed with
        | false =>
          have still : perform world (.joints targets) (.canFd b) = .canFd b := by
            simp [perform, CanFdBackend.commandJoints, opened, present]
          rw [still]
          refine iff_of_true (effectless_refl _) fun sends => ?_
          rw [sends.2.1] at present
          cases present
        | true =>
          have ran : perform world (.joints targets) (.canFd b) =
              .canFd { b with bus := some (b.sendTargets world.can bus targets).2 } := by
            simp [perform, CanFdBackend.commandJoints, opened, present]
          have same : Effectless world (.canFd b)
              (.canFd { b with bus := some (b.sendTargets world.can bus targets).2 }) ↔
                (b.sendTargets world.can bus targets).2.sent = bus.sent := by
            simp [Effectless, sentOn, opened]
          rw [ran, same, sendTargets_silent_iff]
          simp [SendsSetPoint, opened, present]

/-! A gait over a bus. -/

/-- A body of one hip joint. -/
def hipBody : LoadedBody where
  manifest :=
    { bodyId := "ig-mk1", name := "IG", revision := "1", locomotionType := "biped",
      requiredActuators := ["left_hip"] }

def benchSetting : Setting where
  text := .ascii
  math := { sin := fun x => x, cos := fun x => x, atan2 := fun y _ => y, hypot := fun x _ => x }
  body := hipBody
  can := {}
  now := 0

/-- The backend of that body on an open bus, its motor power off. -/
def hipBackend : CanFdBackend := { CanFdBackend.new hipBody with bus := some {} }

def swing : Command := .joints [(.str "left_hip", 1)]

/-- A set point goes out on the bus although the power is off. -/
theorem unpowered_set_point_sent : powerEnabled (.canFd hipBackend) = false ∧
    sentOn (hipBackend.commandJoints {} [(.str "left_hip", 1)]).2 = [⟨0x200, [0, 0, 128, 63]⟩] ∧
    ¬ Effectless benchSetting (.canFd hipBackend) (perform benchSetting swing (.canFd hipBackend)) := by
  have sent : sentOn (hipBackend.commandJoints {} [(.str "left_hip", 1)]).2 = [⟨0x200, [0, 0, 128, 63]⟩] := by
    decide +kernel
  refine ⟨rfl, sent, fun effectless => ?_⟩
  have silent : sentOn (hipBackend.commandJoints {} [(.str "left_hip", 1)]).2 = [] := effectless.2.2
  rw [sent] at silent
  cases silent

theorem unpowered_drive_effectless : Effectless benchSetting (.canFd hipBackend)
    (perform benchSetting (.velocity { linearX := 1 } 1) (.canFd hipBackend)) := by
  have unpowered : powerEnabled (.canFd hipBackend) = false := rfl
  exact (unpowered_effectless_iff unpowered (.velocity { linearX := 1 } 1)).mpr fun sends => sends

end DroidOs.Backends.Unpowered
