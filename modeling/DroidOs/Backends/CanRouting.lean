/- GID: DroidOs/Backends/CanRouting
   generality: I
   source: src/droidos/backends/canfd_hardware.py
   digest: Which frame belongs to which joint: identifiers, set points and received telemetry. -/

import DroidOs.Backends.CanFd

set_option autoImplicit false
set_option relaxedAutoImplicit false

namespace DroidOs.Backends.CanRouting

open DroidOs.Core.Values
open DroidOs.Body.Package
open CanFd CanFdBackend

/-! Identifiers. -/

def setPointIds (joints : Nat) : List Nat := (List.range joints).map (baseCmdId + ·)

def telemetryIds (joints : Nat) : List Nat := (List.range joints).map (baseStateId + ·)

/-- Every identifier that the layout gives to so many joints, the battery and the safety controller. -/
def identifiers (joints : Nat) : List Nat :=
  setPointIds joints ++ (telemetryIds joints ++ [batteryStateId, safetyStateId])

/-- The battery's identifier is the one of joint 240. -/
theorem identifiers_nodup_iff (joints : Nat) : (identifiers joints).Nodup ↔ joints ≤ 240 := by
  constructor
  · intro once
    by_contra many
    obtain ⟨-, -, apart⟩ := List.nodup_append'.mp (List.nodup_append'.mp once).2.1
    refine @apart batteryStateId ?_ List.mem_cons_self
    exact List.mem_map.mpr ⟨240, List.mem_range.mpr (by omega), rfl⟩
  · intro few
    have shifted (base : Nat) : ((List.range joints).map (base + ·)).Nodup :=
      List.nodup_range.map fun i j same => Nat.add_left_cancel same
    have telemetry : (telemetryIds joints ++ [batteryStateId, safetyStateId]).Nodup := by
      refine List.nodup_append'.mpr ⟨shifted _, by decide, fun id inside fixed => ?_⟩
      obtain ⟨i, range, rfl⟩ := List.mem_map.mp inside
      simp only [List.mem_range, List.mem_cons, List.not_mem_nil, or_false, baseStateId, batteryStateId,
        safetyStateId] at range fixed
      omega
    refine List.nodup_append'.mpr ⟨shifted _, telemetry, fun id inside other => ?_⟩
    obtain ⟨i, range, rfl⟩ := List.mem_map.mp inside
    rcases List.mem_append.mp other with reports | fixed
    · obtain ⟨j, range', same⟩ := List.mem_map.mp reports
      simp only [List.mem_range, baseCmdId, baseStateId] at range range' same
      omega
    · simp only [List.mem_range, List.mem_cons, List.not_mem_nil, or_false, baseCmdId, batteryStateId,
        safetyStateId] at range fixed
      omega

/-! Receiving. -/

/-- What a telemetry frame reports. -/
def telemetryOf (data : List UInt8) : Telemetry :=
  let field (i : Nat) : PyFloat := unpackFloat ((data.drop (4 * i)).take 4)
  { position := field 0, velocity := field 1, temperatureC := field 2, currentA := field 3 }

/-- The backend after some frames, each with the time at which it was received. -/
def receive (b : CanFdBackend) (frames : List (ℚ × Message)) : CanFdBackend :=
  frames.foldl (fun b frame => decode { b with lastRecv := frame.1 } frame.2) b

/-- `_drain` receives what has arrived. -/
theorem drain_receive {b : CanFdBackend} {bus : Bus} (opened : b.bus = some bus) (now : ℚ) :
    b.drain now =
      receive { b with bus := some { bus with inbox := [] } } (bus.inbox.map fun msg => (now, msg)) := by
  rw [drain, opened, receive, List.foldl_map]

/-- A frame is telemetry of the joint with a given index. -/
def Reports (idx : Nat) (msg : Message) : Prop :=
  msg.arbitrationId = baseStateId + idx ∧ 16 ≤ msg.data.length

instance (idx : Nat) (msg : Message) : Decidable (Reports idx msg) := by
  unfold Reports
  infer_instance

variable {b : CanFdBackend} {msg : Message} {idx : Nat}

theorem decode_telemetry (reports : Reports idx msg) (inside : idx < b.actuators.length) :
    b.decode msg = { b with
      telemetry := Function.update b.telemetry b.actuators[idx] (telemetryOf msg.data) } := by
  obtain ⟨id, long⟩ := reports
  have range : baseStateId ≤ msg.arbitrationId ∧ msg.arbitrationId < baseStateId + b.actuators.length := by
    omega
  have here : msg.arbitrationId - baseStateId = idx := by omega
  unfold decode
  simp only [if_pos range, if_pos long, here, List.getD_eq_getElem?_getD, List.getElem?_eq_getElem inside,
    Option.getD_some]
  rfl

theorem decode_reported (reports : Reports idx msg) (inside : idx < b.actuators.length) :
    (b.decode msg).telemetry b.actuators[idx] = telemetryOf msg.data := by
  rw [decode_telemetry reports inside]
  exact Function.update_self ..

/-- A frame that is telemetry of no joint leaves all telemetry as it is. -/
theorem decode_silent (silent : ∀ idx < b.actuators.length, ¬ Reports idx msg) :
    (b.decode msg).telemetry = b.telemetry := by
  unfold decode
  dsimp only
  split
  case isTrue range =>
    split
    case isTrue long =>
      exact absurd ⟨by omega, long⟩ (silent (msg.arbitrationId - baseStateId) (by omega))
    case isFalse => rfl
  case isFalse =>
    split
    · rfl
    split <;> rfl

/-! What consistent routing means. -/

/-- What is known of a joint once the frames are received: the last telemetry with its index. -/
def lastReport (idx : Nat) (frames : List (ℚ × Message)) : Option Telemetry :=
  ((frames.filter fun frame => Reports idx frame.2).getLast?).map fun frame => telemetryOf frame.2.data

/-- The set-point frame of one target, if its name is known. -/
def setPointOf (b : CanFdBackend) (target : PyVal × PyFloat) : Option Message :=
  (b.index target.1).bind fun joint => (setPoint joint.2 target.2).toOption

/-- A backend over these joints routes consistently, whatever it has received so far. -/
structure Routed (joints : List String) : Prop where
  /-- What `command_joints` sends are set points by the index of each name. -/
  commands : ∀ b : CanFdBackend, b.actuators = joints → ∀ can bus targets, ∃ first,
    first <+: targets ∧ (b.sendTargets can bus targets).2.sent = bus.sent ++ first.filterMap (setPointOf b)
  /-- Only a frame with the index of the set points changes the telemetry of a name. -/
  sameIndex : ∀ b : CanFdBackend, b.actuators = joints → ∀ name idx msg,
    b.index (.str name) = some (name, idx) → (b.decode msg).telemetry name ≠ b.telemetry name →
      msg.arbitrationId = baseStateId + idx
  telemetry : ∀ b : CanFdBackend, b.actuators = joints → ∀ name idx frames,
    b.index (.str name) = some (name, idx) →
      (receive b frames).telemetry name = (lastReport idx frames).getD (b.telemetry name)
  battery : ∀ b : CanFdBackend, b.actuators = joints → ∀ msg, msg.arbitrationId = batteryStateId →
    b.decode msg = { b with battery := (b.decode msg).battery }
  safety : ∀ b : CanFdBackend, b.actuators = joints → ∀ msg, msg.arbitrationId = safetyStateId →
    b.decode msg = { b with power := (b.decode msg).power }
  distinct : (identifiers joints.length).Nodup
  others : ∀ b : CanFdBackend, b.actuators = joints → ∀ msg,
    msg.arbitrationId ≠ batteryStateId → msg.arbitrationId ≠ safetyStateId →
      (∀ idx < joints.length, ¬ Reports idx msg) → b.decode msg = b

/-! The index of a name. -/

theorem index_listed_iff (name : String) (joint : String × Nat) : b.index (.str name) = some joint ↔
    name ∈ b.actuators ∧ joint = (name, b.actuators.length - 1 - b.actuators.reverse.idxOf name) := by
  show (if name ∈ b.actuators then some _ else none) = some joint ↔ _
  rw [Option.ite_none_right_eq_some, Option.some.injEq, eq_comm (a := joint)]

/-- The index of a name is a place at which it is listed. -/
theorem index_place {name : String} (found : b.index (.str name) = some (name, idx)) :
    ∃ inside : idx < b.actuators.length, b.actuators[idx] = name := by
  obtain ⟨listed, same⟩ := (index_listed_iff name _).mp found
  obtain rfl := (Prod.mk.inj same).2
  have back := List.idxOf_lt_length_of_mem (List.mem_reverse.mpr listed)
  have here := List.getElem_idxOf back
  rw [List.getElem_reverse] at here
  rw [List.length_reverse] at back
  exact ⟨by omega, here⟩

theorem index_congr {b' : CanFdBackend} (same : b'.actuators = b.actuators) (name : PyVal) :
    b'.index name = b.index name := by
  unfold index
  rw [same]

/-! What always holds. -/

theorem sendTargets_setPoints (can : PythonCan) (bus : Bus) (targets : List (PyVal × PyFloat)) : ∃ first,
    first <+: targets ∧ (b.sendTargets can bus targets).2.sent = bus.sent ++ first.filterMap (setPointOf b) := by
  induction targets generalizing bus with
  | nil => exact ⟨[], List.prefix_rfl, (List.append_nil _).symm⟩
  | cons target targets ih =>
    obtain ⟨name, value⟩ := target
    have stopped {r : Except Exn Unit × Bus} (same : r.2 = bus) : ∃ first,
        first <+: (name, value) :: targets ∧ r.2.sent = bus.sent ++ first.filterMap (setPointOf b) :=
      ⟨[], List.nil_prefix, by rw [same]; exact (List.append_nil _).symm⟩
    unfold sendTargets
    rcases known : b.index name with _ | ⟨joint, idx⟩
    · obtain ⟨first, before, sent⟩ := ih bus
      refine ⟨(name, value) :: first, List.cons_prefix_cons.mpr ⟨rfl, before⟩, sent.trans ?_⟩
      rw [List.filterMap_cons_none (by rw [setPointOf, known, Option.bind_none])]
    · dsimp only
      rcases packed : setPoint idx value with e | msg
      · exact stopped rfl
      · dsimp only
        rcases refused : can.refuses msg with _ | reason
        · obtain ⟨first, before, sent⟩ := ih { bus with sent := bus.sent ++ [msg] }
          refine ⟨(name, value) :: first, List.cons_prefix_cons.mpr ⟨rfl, before⟩, sent.trans ?_⟩
          have here : setPointOf b (name, value) = some msg := by
            rw [setPointOf, known, Option.bind_some, packed]
            rfl
          rw [List.filterMap_cons_some here, List.append_assoc]
          rfl
        · exact stopped rfl

theorem decode_others (battery : msg.arbitrationId ≠ batteryStateId) (safety : msg.arbitrationId ≠ safetyStateId)
    (silent : ∀ idx < b.actuators.length, ¬ Reports idx msg) : b.decode msg = b := by
  unfold decode
  simp only [battery, safety, false_and, if_false]
  split
  case isTrue range =>
    split
    case isTrue long =>
      exact absurd ⟨by omega, long⟩ (silent (msg.arbitrationId - baseStateId) (by omega))
    case isFalse => rfl
  case isFalse => rfl

theorem decode_safety (safety : msg.arbitrationId = safetyStateId) :
    b.decode msg = { b with power := (b.decode msg).power } := by
  unfold decode
  simp only [safety, baseStateId, safetyStateId, batteryStateId]
  simp only [show ¬ (768 ≤ 16 ∧ 16 < 768 + b.actuators.length) by omega, if_false,
    show ¬ (16 = 1008 ∧ 8 ≤ msg.data.length) by omega]
  split <;> rfl

/-! With few joints, each listed once. -/

variable {joints : List String}

private theorem decode_battery (few : b.actuators.length ≤ 240) (battery : msg.arbitrationId = batteryStateId) :
    b.decode msg = { b with battery := (b.decode msg).battery } := by
  unfold decode
  simp only [battery, baseStateId, safetyStateId, batteryStateId]
  simp only [show ¬ (768 ≤ 1008 ∧ 1008 < 768 + b.actuators.length) by omega, if_false,
    show ¬ (1008 = 16 ∧ 1 ≤ msg.data.length) by omega]
  split <;> rfl

/-- A frame reports on a name exactly if it has the index of the name. -/
private theorem decode_of_index (once : b.actuators.Nodup) {name : String}
    (found : b.index (.str name) = some (name, idx)) :
    (b.decode msg).telemetry name =
      if Reports idx msg then telemetryOf msg.data else b.telemetry name := by
  obtain ⟨inside, here⟩ := index_place found
  by_cases reports : Reports idx msg
  · rw [if_pos reports, ← here, decode_reported reports inside]
  · rw [if_neg reports]
    by_cases other : ∃ i, ∃ _ : i < b.actuators.length, Reports i msg
    · obtain ⟨i, inside', reports'⟩ := other
      have apart : name ≠ b.actuators[i] := by
        rintro same
        have equal : i = idx := (once.getElem_inj_iff).mp (same.symm.trans here.symm)
        exact reports (equal ▸ reports')
      rw [decode_telemetry reports' inside']
      exact Function.update_of_ne apart ..
    · rw [decode_silent fun i inside' reports' => other ⟨i, inside', reports'⟩]

private theorem receive_cons (b : CanFdBackend) (frame : ℚ × Message) (frames : List (ℚ × Message)) :
    receive b (frame :: frames) = receive (decode { b with lastRecv := frame.1 } frame.2) frames := rfl

private theorem lastReport_reports {frame : ℚ × Message} (reports : Reports idx frame.2)
    (frames : List (ℚ × Message)) : lastReport idx (frame :: frames) =
      some ((lastReport idx frames).getD (telemetryOf frame.2.data)) := by
  rw [lastReport, List.filter_cons, if_pos (decide_eq_true reports), List.getLast?_cons, lastReport]
  cases (frames.filter fun frame => decide (Reports idx frame.2)).getLast? <;> rfl

private theorem lastReport_silent {frame : ℚ × Message} (silent : ¬ Reports idx frame.2)
    (frames : List (ℚ × Message)) : lastReport idx (frame :: frames) = lastReport idx frames := by
  rw [lastReport, List.filter_cons_of_neg (by simpa using silent), lastReport]

private theorem receive_telemetry (once : b.actuators.Nodup) {name : String} (frames : List (ℚ × Message))
    (found : b.index (.str name) = some (name, idx)) :
    (receive b frames).telemetry name = (lastReport idx frames).getD (b.telemetry name) := by
  induction frames generalizing b with
  | nil => rfl
  | cons frame frames ih =>
    have same : (decode { b with lastRecv := frame.1 } frame.2).actuators = b.actuators :=
      decode_actuators _ _
    have one : (decode { b with lastRecv := frame.1 } frame.2).telemetry name =
        if Reports idx frame.2 then telemetryOf frame.2.data else b.telemetry name :=
      @decode_of_index { b with lastRecv := frame.1 } frame.2 idx once name found
    have once' : (decode { b with lastRecv := frame.1 } frame.2).actuators.Nodup := by
      rw [same]
      exact once
    have found' : (decode { b with lastRecv := frame.1 } frame.2).index (.str name) = some (name, idx) := by
      rw [index_congr same]
      exact found
    rw [receive_cons, ih once' found', one]
    by_cases reports : Reports idx frame.2
    · rw [if_pos reports, lastReport_reports reports, Option.getD_some]
    · rw [if_neg reports, lastReport_silent reports]

/-! Each name at two indices. -/

/-- A frame of zeros tells of a joint that is not as warm as one not yet heard of. -/
private theorem changes {name : String} (inside : idx < joints.length) (here : joints[idx] = name) :
    (decode { actuators := joints } ⟨baseStateId + idx, List.replicate 16 0⟩).telemetry name ≠
      ({ actuators := joints } : CanFdBackend).telemetry name := by
  have reports : Reports idx ⟨baseStateId + idx, List.replicate 16 0⟩ := ⟨rfl, Nat.le_refl 16⟩
  have told := decode_reported (b := { actuators := joints }) reports inside
  rw [show (({ actuators := joints } : CanFdBackend).actuators)[idx] = name from here] at told
  rw [told]
  intro same
  have cold := congrArg Telemetry.temperatureC same
  have zero : (telemetryOf (List.replicate 16 0)).temperatureC ≠ 25 := by decide +kernel
  exact zero cold

private theorem nodup_of_sameIndex (routed : Routed joints) : joints.Nodup := by
  by_contra twice
  rw [List.nodup_iff_injective_get, Function.not_injective_iff] at twice
  obtain ⟨i, j, same, apart⟩ := twice
  have found := (index_listed_iff (b := { actuators := joints }) (joints.get i) _).mpr ⟨List.get_mem joints i, rfl⟩
  have only (k : Fin joints.length) (here : joints.get k = joints.get i) :
      k.val = joints.length - 1 - joints.reverse.idxOf (joints.get i) := by
    have id := routed.sameIndex { actuators := joints } rfl _ _ _ found (changes k.isLt here)
    exact Nat.add_left_cancel id
  exact apart (Fin.ext ((only i rfl).trans (only j same.symm).symm))

theorem routed_of_distinct (once : joints.Nodup) (few : joints.length ≤ 240) : Routed joints where
  commands := fun _ _ can bus targets => sendTargets_setPoints can bus targets
  sameIndex := by
    rintro b rfl name idx msg found changed
    by_contra other
    rw [decode_of_index once found, if_neg fun reports => other reports.1] at changed
    exact changed rfl
  telemetry := by
    rintro b rfl name idx frames found
    exact receive_telemetry once frames found
  battery := by
    rintro b rfl msg battery
    exact decode_battery few battery
  safety := fun _ _ _ safety => decode_safety safety
  distinct := (identifiers_nodup_iff _).mpr few
  others := by
    rintro b rfl msg battery safety silent
    exact decode_others battery safety silent

/-- The joints of a body without actuators are one drive. -/
private theorem joints_iff (body : LoadedBody) :
    ((CanFdBackend.new body).actuators.Nodup ∧ (CanFdBackend.new body).actuators.length ≤ 240) ↔
      (body.manifest.requiredActuators.Nodup ∧ body.manifest.requiredActuators.length ≤ 240) := by
  unfold CanFdBackend.new
  dsimp only
  split
  case isTrue empty =>
    rw [List.isEmpty_iff.mp empty]
    simp
  case isFalse => exact Iff.rfl

/-- Frames are routed consistently exactly for at most 240 joints of different names. -/
theorem routed_iff (body : LoadedBody) : Routed (CanFdBackend.new body).actuators ↔
    body.manifest.requiredActuators.Nodup ∧ body.manifest.requiredActuators.length ≤ 240 := by
  rw [← joints_iff]
  constructor
  · intro routed
    exact ⟨nodup_of_sameIndex routed, (identifiers_nodup_iff _).mp routed.distinct⟩
  · rintro ⟨once, few⟩
    exact routed_of_distinct once few

/-- A body of 241 joints. -/
def manyJoints : LoadedBody where
  manifest :=
    { bodyId := "hexapod", name := "HX", revision := "1", locomotionType := "legs",
      requiredActuators := (List.range 241).map fun i => "joint" ++ toString i }

/-- Its battery is never heard of: the battery's frames are telemetry of its last joint. -/
theorem manyJoints_misrouted : ¬ Routed (CanFdBackend.new manyJoints).actuators ∧
    ((CanFdBackend.new manyJoints).decode ⟨batteryStateId, List.replicate 16 0⟩).battery.percent = 100 ∧
    ((CanFdBackend.new manyJoints).decode ⟨batteryStateId, List.replicate 16 0⟩).telemetry "joint240" =
      telemetryOf (List.replicate 16 0) := by
  have length : (CanFdBackend.new manyJoints).actuators.length = 241 := rfl
  have listed : (CanFdBackend.new manyJoints).actuators[240]? = some "joint240" := by decide +kernel
  obtain ⟨inside, last⟩ := List.getElem?_eq_some_iff.mp listed
  have reports : Reports 240 ⟨batteryStateId, List.replicate 16 0⟩ := ⟨rfl, Nat.le_refl 16⟩
  refine ⟨fun routed => ?_, ?_, ?_⟩
  · have few := (identifiers_nodup_iff _).mp routed.distinct
    rw [length] at few
    exact absurd few (by decide)
  · rw [decode_telemetry reports inside]
    rfl
  · rw [← last, decode_reported reports inside]

end DroidOs.Backends.CanRouting
