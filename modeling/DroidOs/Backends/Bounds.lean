/- GID: DroidOs/Backends/Bounds
   generality: I
   source: src/droidos/backends/simulation.py
   digest: The simulated body stays within physical bounds under every command, fault and step. -/

import DroidOs.Backends.Simulation
import DroidOs.Core.Numbers

set_option autoImplicit false
set_option relaxedAutoImplicit false

namespace DroidOs.Backends.Bounds

open DroidOs.Lib.Procedure
open DroidOs.Core.Values DroidOs.Core.Context
open DroidOs.Body.Package DroidOs.Backends.Simulation
open SimulationBackend (maxLinear maxAngular clamp integrate warmActuator applyOverheat step)

/-! Numbers within bounds. -/

def Finite (x : PyFloat) : Prop := ∃ q : ℚ, x = .fin q

def Between (lo hi : ℚ) (x : PyFloat) : Prop := ∃ q : ℚ, x = .fin q ∧ lo ≤ q ∧ q ≤ hi

/-- A heading of the half-open turn around straight ahead. -/
def Heading (x : PyFloat) : Prop := ∃ q : ℚ, x = .fin q ∧ -mathPi ≤ q ∧ q < mathPi

/-- A number from the ambient temperature up to the hottest one. -/
def Warm (hottest : ℚ) (v : PyVal) : Prop := ∃ x, v.number = .ok x ∧ Between 25 hottest x

theorem Finite.add {x y : PyFloat} (first : Finite x) (second : Finite y) : Finite (x + y) := by
  obtain ⟨p, rfl⟩ := first
  obtain ⟨q, rfl⟩ := second
  exact ⟨p + q, rfl⟩

theorem Finite.mul {x y : PyFloat} (first : Finite x) (second : Finite y) : Finite (x * y) := by
  obtain ⟨p, rfl⟩ := first
  obtain ⟨q, rfl⟩ := second
  exact ⟨p * q, rfl⟩

theorem Finite.sub {x y : PyFloat} (first : Finite x) (second : Finite y) : Finite (x - y) := by
  obtain ⟨p, rfl⟩ := first
  obtain ⟨q, rfl⟩ := second
  exact ⟨p + -q, rfl⟩

/-- Angles are wrapped into one turn. -/
theorem Finite.wrap {x : PyFloat} (finite : Finite x) : Heading (wrap x) := by
  obtain ⟨a, rfl⟩ := finite
  have turn : (0 : ℚ) < 2 * mathPi := by unfold mathPi; norm_num
  have lower := Int.sub_floor_div_mul_nonneg (a + mathPi) turn
  have upper := Int.sub_floor_div_mul_lt (a + mathPi) turn
  refine ⟨_, rfl, ?_, ?_⟩ <;> linarith

/-- A limit that a velocity can be clamped to. -/
def Limiting (limit : PyFloat) : Prop := limit = .inf false ∨ Finite limit

theorem Limiting.clamp {limit x : PyFloat} (limiting : Limiting limit) (finite : Finite x) :
    Finite (clamp limit x) := by
  obtain ⟨u, rfl⟩ := finite
  rcases limiting with rfl | ⟨q, rfl⟩
  · exact ⟨u, rfl⟩
  · refine ⟨max (-q) (min q u), ?_⟩
    unfold SimulationBackend.clamp
    rw [PyFloat.min_fin]
    exact PyFloat.max_fin (-q) _

/-! The bounds of a body. -/

/-- What the simulated body never leaves: its charge is a percentage, its place is
somewhere, its heading is within one turn, and no motor is colder than its
surroundings or hotter than given. -/
structure Physical (hottest : ℚ) (b : SimulationBackend) : Prop where
  battery : Between 0 100 b.battery
  x : Finite b.pose.x
  y : Finite b.pose.y
  heading : Heading b.pose.theta
  motors : ∀ name, Warm hottest (b.temps name)
  injected : ∀ params, b.faults.lookup "motor_overheat" = some params →
    Warm hottest ((PyVal.lookup "temp" params).getD (.float 88))

/-- The velocities that the body can be limited to, and the angles it can turn by. -/
structure Sound (text : PyText) (math : Libm) (body : LoadedBody) : Prop where
  linear : ∀ limit, maxLinear text body = .ok limit → Limiting limit
  angular : ∀ limit, maxAngular text body = .ok limit → Limiting limit
  sin : ∀ x, Finite x → Finite (math.sin x)
  cos : ∀ x, Finite x → Finite (math.cos x)

/-- A temperature that a motor may be injected with. -/
def Injectable (hottest : ℚ) (kind : String) (params : Items) : Prop :=
  kind = "motor_overheat" → Warm hottest ((PyVal.lookup "temp" params).getD (.float 88))

variable {hottest : ℚ} {text : PyText} {math : Libm} {body : LoadedBody} {b : SimulationBackend}

theorem new_physical (hot : 62 ≤ hottest) : Physical hottest (SimulationBackend.new body) where
  battery := ⟨78, rfl, by norm_num, by norm_num⟩
  x := ⟨0, rfl⟩
  y := ⟨0, rfl⟩
  heading := ⟨0, rfl, by unfold mathPi; norm_num, by unfold mathPi; norm_num⟩
  motors _ := ⟨_, rfl, 25, rfl, le_rfl, by linarith⟩
  injected := by
    intro params injected
    cases injected

/-- The fault that replaces one of its kind leaves the others in force. -/
private theorem lookup_kept {kind key : String} (other : kind ≠ key) (faults : List (String × Items)) :
    (faults.filter fun fault => fault.1 ≠ kind).lookup key = faults.lookup key := by
  induction faults with
  | nil => rfl
  | cons fault faults ih =>
    obtain ⟨name, params⟩ := fault
    by_cases same : name = kind
    · have apart : (key == name) = false := beq_false_of_ne fun equal => other (equal.trans same).symm
      rw [List.filter_cons_of_neg (by simp [same]), ih, List.lookup_cons, apart]
    · rw [List.filter_cons_of_pos (by simp [same]), List.lookup_cons, List.lookup_cons, ih]

/-- Joint targets are kept as positions, and change nothing else. -/
private theorem commandJoints_positions (b : SimulationBackend) (targets : List (PyVal × PyFloat)) :
    ∃ positions, b.commandJoints targets = { b with positions := positions } := by
  have tracked (targets : List (PyVal × PyFloat)) (b : SimulationBackend) :
      ∃ positions, targets.foldl SimulationBackend.trackJoint b = { b with positions := positions } := by
    induction targets generalizing b with
    | nil => exact ⟨b.positions, rfl⟩
    | cons target targets ih =>
      have first : ∃ positions, b.trackJoint target = { b with positions := positions } := by
        unfold SimulationBackend.trackJoint
        split
        · split
          · exact ⟨_, rfl⟩
          · exact ⟨b.positions, rfl⟩
        · exact ⟨b.positions, rfl⟩
      obtain ⟨positions, first⟩ := first
      obtain ⟨positions', rest⟩ := ih (b.trackJoint target)
      rw [List.foldl_cons, rest, first]
      exact ⟨positions', rfl⟩
  unfold SimulationBackend.commandJoints
  split
  · exact ⟨b.positions, rfl⟩
  · exact tracked targets b

namespace Physical

variable (physical : Physical hottest b)
include physical

theorem connect : Physical hottest b.connect := ⟨physical.1, physical.2, physical.3, physical.4, physical.5, physical.6⟩

theorem shutdown : Physical hottest b.shutdown := ⟨physical.1, physical.2, physical.3, physical.4, physical.5, physical.6⟩

theorem setPower (on : Bool) : Physical hottest (b.setPower on) :=
  ⟨physical.1, physical.2, physical.3, physical.4, physical.5, physical.6⟩

theorem charge (on : Bool) : Physical hottest { b with charging := on } :=
  ⟨physical.1, physical.2, physical.3, physical.4, physical.5, physical.6⟩

/-! Injected faults. -/

theorem injectFault {kind : String} {params : Items} (mild : Injectable hottest kind params) :
    Physical hottest (b.injectFault kind params) := by
  refine ⟨physical.1, physical.2, physical.3, physical.4, physical.5, ?_⟩
  intro found injected
  change List.lookup "motor_overheat" ((kind, _) :: b.faults.filter _) = some found at injected
  by_cases overheats : kind = "motor_overheat"
  · subst overheats
    rw [List.lookup_cons_self] at injected
    cases injected
    split
    · next empty =>
      have mild := mild rfl
      rw [List.isEmpty_iff.mp empty] at mild
      exact mild
    · exact mild rfl
  · rw [List.lookup_cons, beq_false_of_ne (Ne.symm overheats)] at injected
    exact physical.injected found ((lookup_kept overheats b.faults).symm.trans injected)

theorem clearFaults : Physical hottest b.clearFaults := by
  refine ⟨physical.1, physical.2, physical.3, physical.4, physical.5, ?_⟩
  intro params injected
  cases injected

/-! Commands. -/

theorem integrate (sound : Sound text math body) (vel : BodyVelocity) {dt : PyFloat} (time : Finite dt)
    (linearX : Finite vel.linearX) (linearY : Finite vel.linearY) (angularZ : Finite vel.angularZ) :
    Finite (integrate math b.pose vel dt).x ∧ Finite (integrate math b.pose vel dt).y ∧
      Heading (integrate math b.pose vel dt).theta := by
  have turned : Finite b.pose.theta := by
    obtain ⟨q, heading, -⟩ := physical.heading
    exact ⟨q, heading⟩
  have sine := sound.sin _ turned
  have cosine := sound.cos _ turned
  refine ⟨?_, ?_, ?_⟩
  · exact physical.x.add (((linearX.mul cosine).sub (linearY.mul sine)).mul time)
  · exact physical.y.add (((linearX.mul sine).add (linearY.mul cosine)).mul time)
  · exact (turned.add (angularZ.mul time)).wrap

theorem commandVelocity (sound : Sound text math body) {vel : BodyVelocity} {dt : PyFloat} (time : Finite dt)
    (linearX : Finite vel.linearX) (linearY : Finite vel.linearY) (angularZ : Finite vel.angularZ)
    {b' : SimulationBackend} (run : b.commandVelocity text math body vel dt = .ok b') : Physical hottest b' := by
  unfold SimulationBackend.commandVelocity at run
  by_cases off : b.power = false
  · rw [if_pos (by simp [off])] at run
    cases run
    exact physical
  rw [if_neg (by simp [off])] at run
  obtain ⟨maxLin, linear, run⟩ := except_bind_ok run
  obtain ⟨maxAng, angular, run⟩ := except_bind_ok run
  cases run
  have limitedX := (sound.linear _ linear).clamp linearX
  have limitedY := (sound.linear _ linear).clamp linearY
  have limitedZ := (sound.angular _ angular).clamp angularZ
  obtain ⟨x, y, heading⟩ := physical.integrate sound
    ⟨clamp maxLin vel.linearX, clamp maxLin vel.linearY, clamp maxAng vel.angularZ⟩ time limitedX limitedY limitedZ
  exact ⟨physical.battery, x, y, heading, physical.motors, physical.injected⟩

theorem commandJoints (targets : List (PyVal × PyFloat)) : Physical hottest (b.commandJoints targets) := by
  obtain ⟨positions, same⟩ := commandJoints_positions b targets
  rw [same]
  exact ⟨physical.1, physical.2, physical.3, physical.4, physical.5, physical.6⟩

end Physical

/-! Time. -/

/-- A motor tends to its equilibrium, and never goes beyond it. -/
private theorem tends {q target share : ℚ} (low : 25 ≤ q) (high : q ≤ hottest) (low' : 25 ≤ target)
    (high' : target ≤ hottest) (some_ : 0 ≤ share) (whole : share ≤ 1) :
    25 ≤ q + (target - q) * share ∧ q + (target - q) * share ≤ hottest := by
  constructor
  · nlinarith
  · nlinarith

private theorem warm_warm (hot : 62 ≤ hottest) {dt : ℚ} (passes : 0 ≤ dt) {temp temp' : PyVal}
    (warm : Warm hottest temp) (run : b.warm (.fin dt) temp = .ok temp') : Warm hottest temp' := by
  obtain ⟨x, number, q, rfl, low, high⟩ := warm
  unfold SimulationBackend.warm at run
  rw [number] at run
  have shared (rate target : ℚ) (heats : 0 ≤ rate) (low' : 25 ≤ target) (high' : target ≤ hottest) :
      Warm hottest (.float (.fin q + (.fin target - .fin q) * PyFloat.min 1 (.fin rate * .fin dt))) := by
    have product : 0 ≤ rate * dt := mul_nonneg heats passes
    have bounds := tends low high low' high' (le_min zero_le_one product) (min_le_left 1 (rate * dt))
    refine ⟨_, rfl, _, ?_, bounds.1, bounds.2⟩
    have share : PyFloat.min 1 (.fin rate * .fin dt) = .fin (min 1 (rate * dt)) := PyFloat.min_fin 1 _
    rw [share, sub_eq_add_neg target q]
    rfl
  cases run
  by_cases moving : b.moving = true
  · rw [if_pos moving, if_pos moving]
    exact shared (2 / 25) 62 (by norm_num) (by norm_num) hot
  · rw [if_neg moving, if_neg moving]
    exact shared (1 / 25) 25 (by norm_num) (by norm_num) (by linarith)

private theorem heat (physical : Physical hottest b) {temp : PyVal} (warm : Warm hottest temp) (name : String) :
    Physical hottest { b with temps := Function.update b.temps name temp } := by
  refine ⟨physical.battery, physical.x, physical.y, physical.heading, fun motor => ?_, physical.injected⟩
  change Warm hottest (Function.update b.temps name temp motor)
  by_cases same : motor = name
  · subst same
    rw [Function.update_self]
    exact warm
  · rw [Function.update_of_ne same]
    exact physical.motors motor

private theorem warmActuator_physical (hot : 62 ≤ hottest) {dt : ℚ} (passes : 0 ≤ dt) (name : String) :
    Keeps (Physical hottest) (warmActuator (.fin dt) name) := by
  refine keeps_reads_bind fun b physical => ?_
  rcases read : b.warm (.fin dt) (b.temps name) with e | temp
  · exact physical
  · exact heat physical (warm_warm hot passes (physical.motors name) read) name

/-- The temperature of an injected overheating is one that may be injected. -/
theorem overheat_warm (physical : Physical hottest b) {joint temp : PyVal} (fault : b.overheat = some (joint, temp)) :
    Warm hottest temp := by
  unfold SimulationBackend.overheat at fault
  rcases injected : b.faults.lookup "motor_overheat" with _ | params <;> rw [injected] at fault
  · cases fault
  · change (if params.isEmpty then none else some (_, _)) = _ at fault
    split at fault
    · cases fault
    · cases fault
      exact physical.injected params injected

private theorem applyOverheat_physical : Keeps (Physical hottest) applyOverheat := by
  refine keeps_reads_bind fun b physical => ?_
  rcases fault : b.overheat with _ | ⟨joint, temp⟩
  · exact physical
  · have warm := overheat_warm physical fault
    cases joint with
    | str joint => exact heat physical warm joint
    | none => exact physical
    | bool flag => exact physical
    | int n => exact physical
    | float x => exact physical
    | list items => exact physical
    | dict items => exact physical

private theorem drainBattery_physical (physical : Physical hottest b) {dt : ℚ} (passes : 0 ≤ dt) :
    Physical hottest (b.drainBattery (.fin dt)) := by
  obtain ⟨q, level, empty, full⟩ := physical.battery
  refine ⟨?_, physical.x, physical.y, physical.heading, physical.motors, physical.injected⟩
  unfold SimulationBackend.drainBattery
  dsimp only
  rw [level]
  split
  · have charged : PyFloat.min 100 (.fin q + .fin (1 / 2) * .fin dt) = .fin (min 100 (q + 1 / 2 * dt)) :=
      PyFloat.min_fin 100 _
    rw [charged]
    exact ⟨_, rfl, le_min (by norm_num) (by positivity), min_le_left _ _⟩
  · have drained (rate : ℚ) (drains : 0 ≤ rate) :
        Between 0 100 (PyFloat.max 0 (.fin q - .fin rate * .fin dt)) := by
      have left : PyFloat.max 0 (.fin q - .fin rate * .fin dt) = .fin (max 0 (q + -(rate * dt))) := PyFloat.max_fin 0 _
      have lost : 0 ≤ rate * dt := mul_nonneg drains passes
      rw [left]
      exact ⟨_, rfl, le_max_left _ _, max_le (by norm_num) (by linarith)⟩
    split
    · exact drained (1 / 50) (by norm_num)
    · exact drained (1 / 250) (by norm_num)

/-- Time passes, and the body stays within its bounds. -/
theorem step_physical (hot : 62 ≤ hottest) {dt : ℚ} (passes : 0 ≤ dt) :
    Keeps (Physical hottest) (step (.fin dt)) := by
  refine keeps_bind (keeps_modify fun b physical => ?_) fun _ => keeps_bind (keeps_reads _) fun _ => ?_
  · exact ⟨physical.1, physical.2, physical.3, physical.4, physical.5, physical.6⟩
  refine keeps_bind (keeps_forEach fun name _ => warmActuator_physical hot passes name) fun _ => ?_
  exact keeps_bind applyOverheat_physical fun _ =>
    keeps_modify fun b physical => drainBattery_physical physical passes

/-! Readings of a body within its bounds. -/

/-- A reported temperature is a motor's own or an injected one. -/
theorem temperature_warm (physical : Physical hottest b) (name : String) :
    Warm hottest (b.temperature name) := by
  unfold SimulationBackend.temperature
  rcases fault : b.overheat with _ | ⟨joint, temp⟩
  · exact physical.motors name
  · dsimp only
    split
    · exact overheat_warm physical fault
    · exact physical.motors name

/-- An actuator reports its temperature, and no fault below the limit. -/
private theorem readActuator_cool {name : String} {a : ActuatorState} {limit : PyFloat} (physical : Physical hottest b)
    (declared : body.limits.motorFaultTemp text = .ok limit) (cool : PyFloat.lt (.fin hottest) limit = true)
    (read : b.readActuator text body name = .ok a) : a.faultCode = "" := by
  obtain ⟨x, number, q, rfl, -, below⟩ := temperature_warm physical name
  have free : limit.le (.fin q) = false := by
    cases limit with
    | nan => cases cool
    | inf negative =>
      cases negative with
      | true => cases cool
      | false => rfl
    | fin l =>
      have less : hottest < l := of_decide_eq_true cool
      have apart : ¬ l ≤ q := not_le.mpr (lt_of_le_of_lt below less)
      simp [PyFloat.le, PyFloat.lt, PyFloat.eq]
      exact ⟨le_of_not_ge apart, fun same => apart same.le⟩
  unfold SimulationBackend.readActuator at read
  obtain ⟨temp, reported, read⟩ := except_bind_ok read
  rw [number] at reported
  cases reported
  obtain ⟨fault, declared', read⟩ := except_bind_ok read
  rw [declared] at declared'
  cases declared'
  obtain ⟨voltage, -, read⟩ := except_bind_ok read
  cases read
  exact if_neg (by simp [free])

private theorem readAll_mem {f : String → Except Exn ActuatorState} {names : List String} {states : List ActuatorState}
    (read : names.mapM f = .ok states) : ∀ a ∈ states, ∃ name ∈ names, f name = .ok a := by
  induction names generalizing states with
  | nil =>
    cases read
    exact fun a member => absurd member List.not_mem_nil
  | cons name names ih =>
    rw [List.mapM_cons] at read
    obtain ⟨first, reported, read⟩ := except_bind_ok read
    obtain ⟨others, rest, read⟩ := except_bind_ok read
    cases read
    intro a member
    rcases List.mem_cons.mp member with rfl | member
    · exact ⟨name, List.mem_cons_self, reported⟩
    · obtain ⟨name', listed, reported'⟩ := ih rest a member
      exact ⟨name', List.mem_cons_of_mem name listed, reported'⟩

/-- Below the limit that the body declares, no actuator reports a fault. -/
theorem readAllActuators_cool {states : List ActuatorState} {limit : PyFloat} (physical : Physical hottest b)
    (declared : body.limits.motorFaultTemp text = .ok limit) (cool : PyFloat.lt (.fin hottest) limit = true)
    (read : b.readAllActuators text body = .ok states) : ∀ a ∈ states, a.faultCode = "" := by
  intro a member
  obtain ⟨name, -, reported⟩ := readAll_mem read a member
  exact readActuator_cool physical declared cool reported

/-- What a body declares of its battery and its motors can be computed with. -/
structure Legible (text : PyText) (body : LoadedBody) : Prop where
  voltage : ∃ declared x, body.limits.battery.get "nominal_voltage" (.float 36) = .ok declared ∧ declared.number = .ok x
  minimum : ∃ percent, body.limits.batteryMotionMinimum text = .ok percent
  faultTemp : ∃ limit, body.limits.motorFaultTemp text = .ok limit

variable (b) in
theorem Legible.readBattery (legible : Legible text body) : ∃ state, b.readBattery body = .ok state := by
  obtain ⟨declared, x, voltage, number⟩ := legible.voltage
  exact except_bind_known voltage (except_bind_known number ⟨_, rfl⟩)

theorem Legible.readAllActuators (legible : Legible text body) (physical : Physical hottest b) :
    ∃ states, b.readAllActuators text body = .ok states := by
  refine except_mapM_returns fun name _ => ?_
  obtain ⟨temp, number, -⟩ := temperature_warm physical name
  obtain ⟨limit, declared⟩ := legible.faultTemp
  obtain ⟨voltage, -, nominal, -⟩ := legible.voltage
  exact except_bind_known number (except_bind_known declared (except_bind_known nominal ⟨_, rfl⟩))

variable (b) in
theorem Legible.readSensor (legible : Legible text body) (id : String) :
    ∃ reading, b.readSensor body id = .ok reading := by
  obtain ⟨state, battery⟩ := legible.readBattery b
  refine except_ite_returns (fun _ => ⟨_, rfl⟩) fun _ => ?_
  refine except_ite_returns (fun _ => except_bind_known battery ⟨_, rfl⟩) fun _ => ⟨_, rfl⟩

end DroidOs.Backends.Bounds
