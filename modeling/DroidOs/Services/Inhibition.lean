/- GID: DroidOs/Services/Inhibition
   generality: G
   digest: When the readings of the assessment answer, and what behind its reasons inhibits motion. -/

import DroidOs.Services.Readiness

set_option autoImplicit false
set_option relaxedAutoImplicit false

namespace DroidOs.Services.Inhibition

open DroidOs.Lib.Procedure
open DroidOs.Core.Values DroidOs.Core.States DroidOs.Core.Context
open DroidOs.Body.Package
open Lifecycle SafetyGateway Supervisor Readiness

variable {ε α : Type} (svc : Services ε) (w : ε)

/-- Reading the backend leaves the world as it is. -/
structure Steady : Prop where
  battery : (svc.battery w).2 = w
  actuators : (svc.readAllActuators w).2 = w
  sensor : ∀ id, (svc.readSensor id w).2 = w
  bus : ∀ online, svc.busOnline = some online → (online w).2 = w

/-- Every reading that the assessment makes returns. -/
structure Answering : Prop where
  battery : ∃ state, (svc.battery w).1 = .ok state
  minimum : ∃ percent, svc.body.limits.batteryMotionMinimum svc.text = .ok percent
  actuators : ∃ states, (svc.readAllActuators w).1 = .ok states
  sensor : ∀ id, id ∈ svc.body.manifest.requiredSensors ∨ id ∈ svc.body.sensorIds →
    ∃ reading, (svc.readSensor id w).1 = .ok reading
  bus : ∀ online, svc.busOnline = some online → ∃ up, (online w).1 = .ok up

/-- The battery is below the motion minimum. -/
def LowBattery : Prop := ∃ state percent, (svc.battery w).1 = .ok state ∧
  svc.body.limits.batteryMotionMinimum svc.text = .ok percent ∧ state.percent.lt percent = true

/-- The sensor is read and does not respond. -/
def Silent (id : String) : Prop := ∃ reading, (svc.readSensor id w).1 = .ok reading ∧ reading.ok = false

/-- Some actuator reports a fault code. -/
def Faulted : Prop := ∃ states, (svc.readAllActuators w).1 = .ok states ∧ ∃ a ∈ states, a.faultCode ≠ ""

/-- The bus is read and is down. -/
def BusDown : Prop := ∃ online, svc.busOnline = some online ∧ (online w).1 = .ok false

/-- What inhibits motion in the body and the backend. -/
inductive HardwareCause : Prop
  | issue (fatal : svc.body.fatalIssues ≠ [])
  | battery (low : LowBattery svc w)
  | missing (act : String) (required : act ∈ svc.body.manifest.requiredActuators)
      (absent : act ∉ svc.actuatorNames w)
  | sensor (id : String) (required : id ∈ svc.body.manifest.requiredSensors) (silent : Silent svc w id)
  | fault (faulted : Faulted svc w)
  | bus (down : BusDown svc w)

/-- Only the first reading of the assessment may change the world: two worlds that answer it
alike are assessed alike. -/
theorem hardwareReasons_congr {w w' : ε} (same : svc.battery w = svc.battery w') :
    hardwareReasons svc w = hardwareReasons svc w' := by
  have first : batteryReasons svc w = batteryReasons svc w' := by
    rw [batteryReasons, bind_run, bind_run, same]
  rw [hardwareReasons, bind_run, bind_run, first]

variable {svc}

/-- In the two worlds the readings of the assessment give the same. -/
structure Agree (svc : Services ε) (w w' : ε) : Prop where
  battery : (svc.battery w).1 = (svc.battery w').1
  actuators : (svc.readAllActuators w).1 = (svc.readAllActuators w').1
  sensor : ∀ id, (svc.readSensor id w).1 = (svc.readSensor id w').1
  bus : ∀ online, svc.busOnline = some online → (online w).1 = (online w').1
  names : svc.actuatorNames w = svc.actuatorNames w'

namespace Agree

variable {w w' : ε}

theorem symm (agree : Agree svc w w') : Agree svc w' w where
  battery := agree.battery.symm
  actuators := agree.actuators.symm
  sensor := fun id => (agree.sensor id).symm
  bus := fun online has => (agree.bus online has).symm
  names := agree.names.symm

theorem answering (agree : Agree svc w w') (answers : Answering svc w) : Answering svc w' where
  battery := by
    rw [← agree.battery]
    exact answers.battery
  minimum := answers.minimum
  actuators := by
    rw [← agree.actuators]
    exact answers.actuators
  sensor := by
    intro id known
    rw [← agree.sensor id]
    exact answers.sensor id known
  bus := by
    intro online has
    rw [← agree.bus online has]
    exact answers.bus online has

theorem cause (agree : Agree svc w w') (cause : HardwareCause svc w) : HardwareCause svc w' := by
  cases cause with
  | issue fatal => exact .issue fatal
  | battery low =>
    obtain ⟨state, percent, read, limit, below⟩ := low
    exact .battery ⟨state, percent, agree.battery ▸ read, limit, below⟩
  | missing act required absent => exact .missing act required (agree.names ▸ absent)
  | sensor id required silent =>
    obtain ⟨reading, read, responds⟩ := silent
    exact .sensor id required ⟨reading, agree.sensor id ▸ read, responds⟩
  | fault faulted =>
    obtain ⟨states, read, some⟩ := faulted
    exact .fault ⟨states, agree.actuators ▸ read, some⟩
  | bus down =>
    obtain ⟨online, has, read⟩ := down
    exact .bus ⟨online, has, agree.bus online has ▸ read⟩

end Agree

/-! Each kind of reason. -/

variable {w} (steady : Steady svc w)
include steady

private theorem batteryReasons_same : (batteryReasons svc w).2 = w :=
  bind_same steady.battery fun _ => bind_same rfl fun _ => rfl

private theorem batteryReasons_answers : (∃ reasons, (batteryReasons svc w).1 = .ok reasons) ↔
    (∃ state, (svc.battery w).1 = .ok state) ∧
      ∃ percent, svc.body.limits.batteryMotionMinimum svc.text = .ok percent := by
  constructor
  · rintro ⟨reasons, ran⟩
    obtain ⟨state, read, ran⟩ := (bind_same_iff steady.battery).mp ran
    obtain ⟨percent, limit, _⟩ := (bind_same_iff rfl).mp ran
    exact ⟨⟨state, read⟩, percent, limit⟩
  · rintro ⟨⟨state, read⟩, percent, limit⟩
    exact ⟨_, (bind_same_iff steady.battery).mpr ⟨state, read, (bind_same_iff rfl).mpr ⟨percent, limit, rfl⟩⟩⟩

private theorem batteryReasons_cause {reasons : List String} (ran : (batteryReasons svc w).1 = .ok reasons) :
    reasons ≠ [] ↔ LowBattery svc w := by
  obtain ⟨state, read, ran⟩ := (bind_same_iff steady.battery).mp ran
  obtain ⟨percent, limit, ran⟩ := (bind_same_iff rfl).mp ran
  change svc.body.limits.batteryMotionMinimum svc.text = .ok percent at limit
  cases ran
  cases low : state.percent.lt percent with
  | true => exact iff_of_true (by simp) ⟨state, percent, read, limit, low⟩
  | false =>
    refine iff_of_false (by simp) ?_
    rintro ⟨state', percent', read', limit', low'⟩
    rw [read] at read'
    rw [limit] at limit'
    cases read'
    cases limit'
    rw [low] at low'
    cases low'

private theorem notResponding_same (message : String → String) (ids : List String) :
    (notResponding svc message ids w).2 = w := by
  induction ids with
  | nil => rfl
  | cons id ids ih => exact bind_same (steady.sensor id) fun _ => bind_same ih fun _ => rfl

private theorem notResponding_answers (message : String → String) (ids : List String) :
    (∃ reasons, (notResponding svc message ids w).1 = .ok reasons) ↔
      ∀ id ∈ ids, ∃ reading, (svc.readSensor id w).1 = .ok reading := by
  induction ids with
  | nil => exact iff_of_true ⟨[], rfl⟩ (by simp)
  | cons id ids ih =>
    rw [List.forall_mem_cons, ← ih]
    constructor
    · rintro ⟨reasons, ran⟩
      obtain ⟨reading, read, ran⟩ := (bind_same_iff (steady.sensor id)).mp ran
      obtain ⟨rest, later, _⟩ := (bind_same_iff (notResponding_same steady message ids)).mp ran
      exact ⟨⟨reading, read⟩, rest, later⟩
    · rintro ⟨⟨reading, read⟩, rest, later⟩
      exact ⟨_, (bind_same_iff (steady.sensor id)).mpr ⟨reading, read,
        (bind_same_iff (notResponding_same steady message ids)).mpr ⟨rest, later, rfl⟩⟩⟩

private theorem notResponding_cause {message : String → String} {ids : List String} {reasons : List String}
    (ran : (notResponding svc message ids w).1 = .ok reasons) :
    reasons ≠ [] ↔ ∃ id ∈ ids, Silent svc w id := by
  induction ids generalizing reasons with
  | nil =>
    cases ran
    simp
  | cons id ids ih =>
    obtain ⟨reading, read, ran⟩ := (bind_same_iff (steady.sensor id)).mp ran
    obtain ⟨rest, later, ran⟩ := (bind_same_iff (notResponding_same steady message ids)).mp ran
    cases ran
    cases responds : reading.ok with
    | true =>
      have heard : ¬ Silent svc w id := by
        rintro ⟨reading', read', silent⟩
        rw [read] at read'
        cases read'
        rw [responds] at silent
        cases silent
      simp only [if_true, ih later, List.exists_mem_cons_iff, heard, false_or]
    | false =>
      refine iff_of_true (by simp) ⟨id, List.mem_cons_self, reading, read, responds⟩

private theorem thermalReasons_same : (thermalReasons svc w).2 = w :=
  bind_same steady.actuators fun _ => rfl

private theorem thermalReasons_answers : (∃ reasons, (thermalReasons svc w).1 = .ok reasons) ↔
    ∃ states, (svc.readAllActuators w).1 = .ok states := by
  constructor
  · rintro ⟨reasons, ran⟩
    obtain ⟨states, read, _⟩ := (bind_same_iff steady.actuators).mp ran
    exact ⟨states, read⟩
  · rintro ⟨states, read⟩
    exact ⟨_, (bind_same_iff steady.actuators).mpr ⟨states, read, rfl⟩⟩

private theorem thermalReasons_cause {reasons : List String} (ran : (thermalReasons svc w).1 = .ok reasons) :
    reasons ≠ [] ↔ Faulted svc w := by
  obtain ⟨states, read, ran⟩ := (bind_same_iff steady.actuators).mp ran
  cases ran
  constructor
  · intro some
    obtain ⟨reason, listed⟩ := List.exists_mem_of_ne_nil _ some
    simp only [List.mem_map, List.mem_filter, decide_eq_true_eq] at listed
    obtain ⟨a, ⟨member, fault⟩, _⟩ := listed
    exact ⟨states, read, a, member, fault⟩
  · rintro ⟨states', read', a, member, fault⟩
    rw [read] at read'
    cases read'
    apply List.ne_nil_of_mem
    exact List.mem_map_of_mem (List.mem_filter.mpr ⟨member, decide_eq_true fault⟩)

private theorem busReasons_same : (busReasons svc w).2 = w := by
  unfold busReasons
  cases has : svc.busOnline with
  | none => rfl
  | some online => exact bind_same (steady.bus online has) fun _ => rfl

private theorem busReasons_answers : (∃ reasons, (busReasons svc w).1 = .ok reasons) ↔
    ∀ online, svc.busOnline = some online → ∃ up, (online w).1 = .ok up := by
  unfold busReasons
  cases has : svc.busOnline with
  | none => exact iff_of_true ⟨[], rfl⟩ fun online absent => by cases absent
  | some online =>
    constructor
    · rintro ⟨reasons, ran⟩ _ same
      cases same
      obtain ⟨up, read, _⟩ := (bind_same_iff (steady.bus online has)).mp ran
      exact ⟨up, read⟩
    · intro all
      obtain ⟨up, read⟩ := all online rfl
      exact ⟨_, (bind_same_iff (steady.bus online has)).mpr ⟨up, read, rfl⟩⟩

private theorem busReasons_cause {reasons : List String} (ran : (busReasons svc w).1 = .ok reasons) :
    reasons ≠ [] ↔ BusDown svc w := by
  unfold busReasons at ran
  unfold BusDown
  cases has : svc.busOnline with
  | none =>
    rw [has] at ran
    cases ran
    simp
  | some online =>
    rw [has] at ran
    obtain ⟨up, read, ran⟩ := (bind_same_iff (steady.bus online has)).mp ran
    cases ran
    cases up <;> simp [read]

omit steady in
private theorem missingActuators_cause : missingActuators svc w ≠ [] ↔
    ∃ act ∈ svc.body.manifest.requiredActuators, act ∉ svc.actuatorNames w := by
  simp [missingActuators, List.filter_eq_nil_iff]

/-! All of them. -/

/-- The parts of the assessment of the hardware. -/
private theorem hardwareReasons_parts (found : List String × List String) :
    (hardwareReasons svc w).1 = .ok found ↔
      ∃ battery, (batteryReasons svc w).1 = .ok battery ∧
      ∃ sensors, (notResponding svc
        (fun id => "required sensor " ++ svc.text.repr (.str id) ++ " not responding")
        svc.body.manifest.requiredSensors w).1 = .ok sensors ∧
      ∃ thermal, (thermalReasons svc w).1 = .ok thermal ∧
      ∃ degraded, (notResponding svc (fun id => "optional sensor " ++ id ++ " unavailable")
        (svc.body.sensorIds.filter fun id => decide (id ∉ svc.body.manifest.requiredSensors)) w).1 = .ok degraded ∧
      ∃ bus, (busReasons svc w).1 = .ok bus ∧
      found = (svc.body.fatalIssues ++ battery ++ missingActuators svc w ++ sensors ++ thermal ++ bus,
        degraded) := by
  unfold hardwareReasons
  rw [bind_same_iff (batteryReasons_same steady)]
  refine exists_congr fun battery => and_congr_right fun _ => ?_
  rw [reads_bind, bind_same_iff (notResponding_same steady _ _)]
  refine exists_congr fun sensors => and_congr_right fun _ => ?_
  rw [bind_same_iff (thermalReasons_same steady)]
  refine exists_congr fun thermal => and_congr_right fun _ => ?_
  rw [bind_same_iff (notResponding_same steady _ _)]
  refine exists_congr fun degraded => and_congr_right fun _ => ?_
  rw [bind_same_iff (busReasons_same steady)]
  refine exists_congr fun bus => and_congr_right fun _ => ?_
  rw [pure_run, Except.ok.injEq, eq_comm]

/-- The assessment of the hardware returns exactly when each of its readings does. -/
theorem hardwareReasons_answers : (∃ found, (hardwareReasons svc w).1 = .ok found) ↔ Answering svc w := by
  constructor
  · rintro ⟨found, ran⟩
    obtain ⟨battery, b, sensors, s, thermal, t, degraded, d, bus, o, _⟩ := (hardwareReasons_parts steady found).mp ran
    obtain ⟨state, percent⟩ := (batteryReasons_answers steady).mp ⟨battery, b⟩
    refine ⟨state, percent, (thermalReasons_answers steady).mp ⟨thermal, t⟩, ?_, (busReasons_answers steady).mp ⟨bus, o⟩⟩
    intro id known
    by_cases required : id ∈ svc.body.manifest.requiredSensors
    · exact (notResponding_answers steady _ _).mp ⟨sensors, s⟩ id required
    · refine (notResponding_answers steady _ _).mp ⟨degraded, d⟩ id ?_
      exact List.mem_filter.mpr ⟨known.resolve_left required, decide_eq_true required⟩
  · intro answers
    obtain ⟨battery, b⟩ := (batteryReasons_answers steady).mpr ⟨answers.battery, answers.minimum⟩
    obtain ⟨sensors, s⟩ := (notResponding_answers steady
      (fun id => "required sensor " ++ svc.text.repr (.str id) ++ " not responding") _).mpr
      fun id required => answers.sensor id (.inl required)
    obtain ⟨thermal, t⟩ := (thermalReasons_answers steady).mpr answers.actuators
    obtain ⟨degraded, d⟩ := (notResponding_answers steady (fun id => "optional sensor " ++ id ++ " unavailable")
      (svc.body.sensorIds.filter fun id => decide (id ∉ svc.body.manifest.requiredSensors))).mpr
      fun id optional => answers.sensor id (.inr (List.mem_filter.mp optional).1)
    obtain ⟨bus, o⟩ := (busReasons_answers steady).mpr answers.bus
    exact ⟨_, (hardwareReasons_parts steady _).mpr
      ⟨battery, b, sensors, s, thermal, t, degraded, d, bus, o, rfl⟩⟩

/-- What it finds inhibits motion exactly when there is a cause. -/
theorem hardwareReasons_cause {found : List String × List String}
    (ran : (hardwareReasons svc w).1 = .ok found) : found.1 ≠ [] ↔ HardwareCause svc w := by
  obtain ⟨battery, b, sensors, s, thermal, t, degraded, d, bus, o, rfl⟩ := (hardwareReasons_parts steady found).mp ran
  have low := batteryReasons_cause steady b
  have silent := notResponding_cause steady s
  have faulted := thermalReasons_cause steady t
  have down := busReasons_cause steady o
  have absent : missingActuators svc w ≠ [] ↔ ∃ act ∈ svc.body.manifest.requiredActuators,
      act ∉ svc.actuatorNames w := missingActuators_cause
  constructor
  · intro some
    by_contra none
    apply some
    have no_issue : svc.body.fatalIssues = [] := by_contra fun fatal => none (.issue fatal)
    have charged : battery = [] := by_contra fun some => none (.battery (low.mp some))
    have present : missingActuators svc w = [] := by_contra fun some =>
      let ⟨act, required, absent⟩ := absent.mp some
      none (.missing act required absent)
    have responding : sensors = [] := by_contra fun some =>
      let ⟨id, required, silent⟩ := silent.mp some
      none (.sensor id required silent)
    have cool : thermal = [] := by_contra fun some => none (.fault (faulted.mp some))
    have up : bus = [] := by_contra fun some => none (.bus (down.mp some))
    simp [no_issue, charged, present, responding, cool, up]
  · intro cause nothing
    simp only [List.append_eq_nil_iff] at nothing
    obtain ⟨⟨⟨⟨⟨issue, charged⟩, present⟩, responding⟩, cool⟩, up⟩ := nothing
    cases cause with
    | issue fatal => exact fatal issue
    | battery holds => exact low.mpr holds charged
    | missing act required missing => exact absent.mpr ⟨act, required, missing⟩ present
    | sensor id required holds => exact silent.mpr ⟨id, required, holds⟩ responding
    | fault holds => exact faulted.mpr holds cool
    | bus holds => exact down.mpr holds up

/-! The assessment. -/

omit steady
variable {reg : Registry (Runtime ε)} {m : Brain ε}

/-- The assessment returns and forbids motion. -/
def Inhibited (svc : Services ε) (reg : Registry (Runtime ε)) (m : Brain ε) : Prop :=
  ∃ r, (assessReadiness svc reg m).1 = .ok r ∧ r.state ∈ [DroidState.motionInhibited, .emergencyStopped]

private theorem verdict_inhibited_iff (inhibit degraded : List String) :
    (verdict inhibit degraded).state ∈ [DroidState.motionInhibited, .emergencyStopped] ↔ inhibit ≠ [] := by
  unfold verdict
  cases inhibit with
  | nil => cases degraded <;> simp
  | cons reason rest => simp

/-- The droid is fit exactly when the controller would grant a permission, the critical services
are active, and the hardware answers without a cause. -/
theorem fit_iff (steady : Steady svc w) (same : svc.battery m.rt.env = svc.battery w) : Fit svc reg m ↔
    grants m.rt = true ∧ inactiveReasons reg m = [] ∧ Answering svc w ∧ ¬ HardwareCause svc w := by
  have hardware : (∃ degraded, (hardwareReasons svc m.rt.env).1 = .ok ([], degraded)) ↔
      Answering svc w ∧ ¬ HardwareCause svc w := by
    rw [hardwareReasons_congr svc same, ← hardwareReasons_answers steady]
    constructor
    · rintro ⟨degraded, ran⟩
      exact ⟨⟨_, ran⟩, fun cause => (hardwareReasons_cause steady ran).mpr cause rfl⟩
    · rintro ⟨⟨⟨reasons, degraded⟩, ran⟩, none⟩
      have nothing : reasons = [] := by_contra fun some => none ((hardwareReasons_cause steady ran).mp some)
      exact ⟨degraded, nothing ▸ ran⟩
  constructor
  · intro fit
    exact ⟨fit.granted, fit.active, hardware.mp fit.hardware⟩
  · rintro ⟨granted, active, sound⟩
    exact ⟨granted, active, hardware.mpr sound⟩

/-- The assessment returns exactly under an e-stop, or when the hardware answers. -/
theorem assess_returns_iff (safety : hasSafety reg = true) (steady : Steady svc m.rt.env) :
    (∃ r, (assessReadiness svc reg m).1 = .ok r) ↔ m.rt.controller.estop = true ∨ Answering svc m.rt.env := by
  cases engaged : m.rt.controller.estop with
  | true =>
    rw [assess_stopped safety engaged]
    exact iff_of_true ⟨_, rfl⟩ (.inl rfl)
  | false =>
    rw [assess_free safety engaged, finding, ← hardwareReasons_answers steady]
    rcases (hardwareReasons svc m.rt.env).1 with e | found
    · refine iff_of_false ?_ (by simp)
      rintro ⟨r, raised⟩
      cases raised
    · exact iff_of_true ⟨_, rfl⟩ (.inr ⟨found, rfl⟩)

/-- Motion is forbidden exactly by an e-stop, or when the hardware answers and there is some
other reason. -/
theorem assess_inhibited_iff (safety : hasSafety reg = true) (steady : Steady svc w)
    (same : svc.battery m.rt.env = svc.battery w) : Inhibited svc reg m ↔
      m.rt.controller.estop = true ∨ Answering svc w ∧
        (grants m.rt = false ∨ inactiveReasons reg m ≠ [] ∨ HardwareCause svc w) := by
  cases engaged : m.rt.controller.estop with
  | true =>
    refine iff_of_true ⟨⟨.emergencyStopped, ["emergency stop engaged"], []⟩, ?_, ?_⟩ (.inl rfl)
    · rw [assess_stopped safety engaged]
    · simp
  | false =>
    have verdicts (found : List String × List String) :
        (verdict (safetyReasons m.rt ++ inactiveReasons reg m ++ found.1) found.2).state ∈
            [DroidState.motionInhibited, .emergencyStopped] ↔
          grants m.rt = false ∨ inactiveReasons reg m ≠ [] ∨ found.1 ≠ [] := by
      rw [verdict_inhibited_iff]
      cases granted : grants m.rt <;> simp [safetyReasons, granted, ← or_assoc, imp_iff_not_or]
    unfold Inhibited
    rw [assess_free safety engaged, finding, hardwareReasons_congr svc same, ← hardwareReasons_answers steady]
    constructor
    · rintro ⟨r, ran, inhibits⟩
      rcases hardware : (hardwareReasons svc w).1 with e | found <;> rw [hardware] at ran
      · cases ran
      · cases ran
        refine .inr ⟨⟨found, rfl⟩, ?_⟩
        rw [← hardwareReasons_cause steady hardware]
        exact (verdicts found).mp inhibits
    · rintro (absurd | ⟨⟨found, hardware⟩, reason⟩)
      · cases absurd
      · rw [← hardwareReasons_cause steady hardware] at reason
        rw [hardware]
        exact ⟨_, rfl, (verdicts found).mpr reason⟩

end DroidOs.Services.Inhibition
