/- GID: DroidOs/System/JointTargets
   generality: I
   source: src/droidos/gait/policy.py, src/droidos/services/motion.py, src/droidos/body/manifest.py
   digest: When the joint targets of a gait policy stay within the body's joint limits. -/

import DroidOs.System.DriveLimits

set_option autoImplicit false
set_option relaxedAutoImplicit false

namespace DroidOs.System.JointTargets

open DroidOs.Lib.Procedure
open DroidOs.Core.Values
open DroidOs.Body.Package DroidOs.Backends.Simulation DroidOs.Gait.Policy
open SimulationBackend (clamp)
open Simulated DriveLimits

/-! Declared position ranges. -/

/-- A range of positions; a bound that is not declared is open. -/
structure Range where
  low : Option PyFloat
  high : Option PyFloat

def Range.Holds (r : Range) (x : PyFloat) : Prop :=
  (∀ low ∈ r.low, low.le x = true) ∧ ∀ high ∈ r.high, x.le high = true

/-- The entry of a joint, or the one for joints without an entry. -/
def jointEntry (limits : BodyLimits) (name : String) : PyVal :=
  match limits.joints with
  | .dict items => (PyVal.lookup name items).getD ((PyVal.lookup "default" items).getD (.dict []))
  | _ => .dict []

def range (limits : BodyLimits) (name : String) : Range where
  low := declaredNumber (jointEntry limits name) "position_min"
  high := declaredNumber (jointEntry limits name) "position_max"

private theorem le_fin_trans {low : PyFloat} {a c : ℚ} (below : low.le (.fin a) = true) (less : a ≤ c) :
    low.le (.fin c) = true := by
  cases low with
  | nan => cases below
  | inf negative => cases negative <;> first | rfl | cases below
  | fin q =>
    simp only [PyFloat.le, PyFloat.lt, PyFloat.eq, Bool.or_eq_true, decide_eq_true_eq,
      PyFloat.fin.injEq] at below ⊢
    rcases lt_or_eq_of_le less with strict | same
    · exact Or.inl (below.elim (fun lt => lt.trans strict) fun eq => eq ▸ strict)
    · exact same ▸ below

private theorem fin_le_trans {high : PyFloat} {b c : ℚ} (above : (PyFloat.fin b).le high = true)
    (less : c ≤ b) : (PyFloat.fin c).le high = true := by
  cases high with
  | nan => cases above
  | inf negative => cases negative <;> first | rfl | cases above
  | fin q =>
    simp only [PyFloat.le, PyFloat.lt, PyFloat.eq, Bool.or_eq_true, decide_eq_true_eq,
      PyFloat.fin.injEq] at above ⊢
    rcases lt_or_eq_of_le less with strict | same
    · exact Or.inl (above.elim (fun lt => strict.trans lt) fun eq => eq ▸ strict)
    · exact same ▸ above

/-- The clamp is monotone, so what it gives for two numbers bounds what it gives in between. -/
private theorem holds_between {r : Range} {limit : PyFloat} {a b c : ℚ}
    (first : r.Holds (clamp limit (.fin a))) (last : r.Holds (clamp limit (.fin b))) (low : a ≤ c)
    (high : c ≤ b) : r.Holds (clamp limit (.fin c)) := by
  cases limit with
  | nan => exact first
  | inf negative =>
    cases negative with
    | true => exact first
    | false =>
      rw [clamp_unlimited] at *
      exact ⟨fun bound declared => le_fin_trans (first.1 bound declared) low,
        fun bound declared => fin_le_trans (last.2 bound declared) high⟩
  | fin q =>
    rw [clamp_fin] at *
    refine ⟨fun bound declared => le_fin_trans (first.1 bound declared) ?_,
      fun bound declared => fin_le_trans (last.2 bound declared) ?_⟩
    · exact max_le_max le_rfl (min_le_min le_rfl low)
    · exact max_le_max le_rfl (min_le_min le_rfl high)

/-! The targets of one joint over a whole turn. -/

/-- What the joint of a swing reaches: its amplitude on either side, and the middle. -/
def swing (amplitude : PyFloat) : List PyFloat := [-amplitude, amplitude * 0, amplitude]

/-- What a knee reaches: straight, and bent by its amplitude. -/
def bend (amplitude : PyFloat) : List PyFloat := [0, PyFloat.max 0 amplitude]

private theorem fin_mul (p q : ℚ) : PyFloat.fin p * PyFloat.fin q = .fin (p * q) := rfl

private theorem neg_fin (q : ℚ) : -PyFloat.fin q = .fin (-q) := rfl

/-- A swing stays between its extremes. -/
private theorem holds_swing {r : Range} {limit amplitude : PyFloat}
    (reached : ∀ x ∈ swing amplitude, r.Holds (clamp limit x)) {s : ℚ} (unit : |s| ≤ 1) :
    r.Holds (clamp limit (amplitude * .fin s)) := by
  have left : r.Holds (clamp limit (-amplitude)) := reached _ (by simp [swing])
  have middle : r.Holds (clamp limit (amplitude * 0)) := reached _ (by simp [swing])
  have right : r.Holds (clamp limit amplitude) := reached _ (by simp [swing])
  obtain ⟨low, high⟩ := abs_le.mp unit
  cases amplitude with
  | nan => exact right
  | inf negative =>
    by_cases zero : s = 0
    · subst zero
      exact middle
    · have side : PyFloat.inf negative * .fin s = .inf (negative != decide (s < 0)) := if_neg zero
      rw [side]
      by_cases below : s < 0
      · rw [decide_eq_true below, Bool.bne_true]
        exact left
      · rw [decide_eq_false below, Bool.bne_false]
        exact right
  | fin q =>
    rw [fin_mul]
    rw [neg_fin] at left
    rcases le_total 0 q with sign | sign
    · exact holds_between left right (by nlinarith) (by nlinarith)
    · exact holds_between right left (by nlinarith) (by nlinarith)

/-- So does a knee. -/
private theorem holds_bend {r : Range} {limit amplitude : PyFloat}
    (reached : ∀ x ∈ bend amplitude, r.Holds (clamp limit x)) {t : ℚ} (low : 0 ≤ t) (high : t ≤ 1) :
    r.Holds (clamp limit (PyFloat.max 0 (amplitude * .fin t))) := by
  have straight : r.Holds (clamp limit 0) := reached _ (by simp [bend])
  have bent : r.Holds (clamp limit (PyFloat.max 0 amplitude)) := reached _ (by simp [bend])
  cases amplitude with
  | nan => exact straight
  | inf negative =>
    by_cases zero : t = 0
    · subst zero
      exact straight
    · have side : PyFloat.inf negative * .fin t = .inf (negative != decide (t < 0)) := if_neg zero
      rw [side, decide_eq_false (not_lt.mpr low), Bool.bne_false]
      exact bent
  | fin q =>
    have value (u : ℚ) : PyFloat.max 0 (.fin u) = .fin (max 0 u) := PyFloat.max_fin 0 u
    rw [value] at bent
    rw [fin_mul, value]
    refine holds_between (a := 0) straight bent (le_max_left _ _) (max_le (le_max_left _ _) ?_)
    rcases le_total 0 q with sign | sign
    · exact le_max_of_le_right (by nlinarith)
    · exact le_max_of_le_left (by nlinarith)

/-! The targets of a policy. -/

/-- Sine and cosine are known to lie between -1 and 1. -/
structure Bounded (math : Libm) : Prop where
  sin : ∀ x, ∃ q : ℚ, math.sin x = .fin q ∧ |q| ≤ 1
  cos : ∀ x, ∃ q : ℚ, math.cos x = .fin q ∧ |q| ≤ 1

/-- The targets of both legs, before the envelope. -/
def cycle (math : Libm) (hip knee ankle phase : PyFloat) : List (String × PyFloat) :=
  GaitPolicy.leg math "left" hip knee ankle phase ++
    GaitPolicy.leg math "right" hip knee ankle (phase + .fin mathPi)

/-- The joints of a leg; any other one is held at zero. -/
inductive JointKind
  | hip | knee | ankle | held

def kind (name : String) : JointKind :=
  if name ∈ ["left_hip_pitch", "right_hip_pitch"] then .hip
  else if name ∈ ["left_knee", "right_knee"] then .knee
  else if name ∈ ["left_ankle", "right_ankle"] then .ankle
  else .held

/-- The target of such a joint at a phase of its leg. -/
def targetAt (math : Libm) (hip knee ankle phase : PyFloat) : JointKind → PyFloat
  | .hip => hip * math.sin phase
  | .knee => PyFloat.max 0 (knee * (.fin (1 / 2) - .fin (1 / 2) * math.cos phase))
  | .ankle => ankle * -math.sin phase
  | .held => 0

/-- What a joint reaches over a turn. -/
def extremes (hip knee ankle : PyFloat) : JointKind → List PyFloat
  | .hip => swing hip
  | .knee => bend knee
  | .ankle => swing ankle
  | .held => [0]

def gain (vx : PyFloat) : PyFloat :=
  if vx.abs.lt (.fin (1 / 1000)) then 0 else PyFloat.min 1 (vx.abs * .fin (20 / 7))

private theorem inferCpg_eq (text : PyText) (math : Libm) (policy : GaitPolicy) (vx : PyFloat) :
    policy.inferCpg text math vx = (do
      let hip ← policy.param text "hip_amp" (.fin (7 / 20))
      let knee ← policy.param text "knee_amp" (.fin (3 / 5))
      let ankle ← policy.param text "ankle_amp" (.fin (1 / 5))
      policy.action.mapM (GaitPolicy.target
        (cycle math (hip * gain vx) (knee * gain vx) (ankle * gain vx) policy.phase))) := rfl

/-- The value of a joint in a cycle, by the kind of the joint. -/
private theorem cycle_lookup (math : Libm) (hip knee ankle phase : PyFloat) (name : String) :
    ∃ p, ((cycle math hip knee ankle phase).lookup name).getD 0 =
      targetAt math hip knee ankle p (kind name) := by
  by_cases leftHip : name = "left_hip_pitch"
  · exact ⟨phase, leftHip ▸ rfl⟩
  by_cases rightHip : name = "right_hip_pitch"
  · exact ⟨phase + .fin mathPi, rightHip ▸ rfl⟩
  by_cases leftKnee : name = "left_knee"
  · exact ⟨phase, leftKnee ▸ rfl⟩
  by_cases rightKnee : name = "right_knee"
  · exact ⟨phase + .fin mathPi, rightKnee ▸ rfl⟩
  by_cases leftAnkle : name = "left_ankle"
  · exact ⟨phase, leftAnkle ▸ rfl⟩
  by_cases rightAnkle : name = "right_ankle"
  · exact ⟨phase + .fin mathPi, rightAnkle ▸ rfl⟩
  have held : kind name = .held := by simp [kind, *]
  refine ⟨0, ?_⟩
  rw [held]
  change (List.lookup name [("left_hip_pitch", _), ("left_knee", _), ("left_ankle", _),
    ("right_hip_pitch", _), ("right_knee", _), ("right_ankle", _)]).getD 0 = 0
  simp [List.lookup_cons, beq_false_of_ne, *]

/-- A target stays between the extremes of its joint. -/
private theorem targetAt_holds {math : Libm} (bounded : Bounded math) {r : Range}
    {limit hip knee ankle : PyFloat} {joint : JointKind}
    (reached : ∀ x ∈ extremes hip knee ankle joint, r.Holds (clamp limit x)) (phase : PyFloat) :
    r.Holds (clamp limit (targetAt math hip knee ankle phase joint)) := by
  cases joint with
  | hip =>
    obtain ⟨s, sine, unit⟩ := bounded.sin phase
    rw [targetAt, sine]
    exact holds_swing reached unit
  | knee =>
    obtain ⟨c, cosine, unit⟩ := bounded.cos phase
    obtain ⟨low, high⟩ := abs_le.mp unit
    have turn : PyFloat.fin (1 / 2) - .fin (1 / 2) * .fin c = .fin (1 / 2 + -(1 / 2 * c)) := rfl
    rw [targetAt, cosine, turn]
    exact holds_bend reached (by linarith) (by linarith)
  | ankle =>
    obtain ⟨s, sine, unit⟩ := bounded.sin phase
    rw [targetAt, sine, neg_fin]
    exact holds_swing reached ((abs_neg s).trans_le unit)
  | held => exact reached 0 (by simp [extremes])

/-- Sine and cosine of constant values. -/
def constantMath (s c : ℚ) : Libm where
  sin := fun _ => .fin s
  cos := fun _ => .fin c
  atan2 := fun _ _ => 0
  hypot := fun _ _ => 0

private theorem constantMath_bounded {s c : ℚ} (sine : |s| ≤ 1) (cosine : |c| ≤ 1) :
    Bounded (constantMath s c) :=
  ⟨fun _ => ⟨s, rfl, sine⟩, fun _ => ⟨c, rfl, cosine⟩⟩

private theorem mul_one_eq (x : PyFloat) : x * .fin 1 = x := by
  cases x with
  | nan => rfl
  | inf negative => cases negative <;> rfl
  | fin q => rw [fin_mul, mul_one]

private theorem mul_neg_one_eq (x : PyFloat) : x * .fin (-1) = -x := by
  cases x with
  | nan => rfl
  | inf negative => cases negative <;> decide +kernel
  | fin q => rw [fin_mul, mul_neg_one, neg_fin]

private theorem max_mul_zero (x : PyFloat) : PyFloat.max 0 (x * .fin 0) = 0 := by
  cases x with
  | nan => rfl
  | inf negative => rfl
  | fin q =>
    rw [fin_mul, mul_zero]
    exact PyFloat.max_fin 0 0

/-- A swing reaches its extremes at some sines. -/
private theorem swing_reached {amplitude x : PyFloat} (extreme : x ∈ swing amplitude) :
    ∃ s : ℚ, |s| ≤ 1 ∧ amplitude * .fin s = x := by
  simp only [swing, List.mem_cons, List.not_mem_nil, or_false] at extreme
  rcases extreme with rfl | rfl | rfl
  · exact ⟨-1, by norm_num, mul_neg_one_eq amplitude⟩
  · exact ⟨0, by norm_num, rfl⟩
  · exact ⟨1, by norm_num, mul_one_eq x⟩

/-- Every extreme of a joint is reached for some values of sine and cosine, whatever the phase. -/
private theorem extremes_reached {hip knee ankle x : PyFloat} {joint : JointKind}
    (extreme : x ∈ extremes hip knee ankle joint) : ∃ s c : ℚ, |s| ≤ 1 ∧ |c| ≤ 1 ∧
      ∀ phase, targetAt (constantMath s c) hip knee ankle phase joint = x := by
  cases joint with
  | hip =>
    obtain ⟨s, unit, reached⟩ := swing_reached extreme
    exact ⟨s, 0, unit, by norm_num, fun _ => reached⟩
  | knee =>
    simp only [extremes, bend, List.mem_cons, List.not_mem_nil, or_false] at extreme
    rcases extreme with rfl | rfl
    · refine ⟨0, 1, by norm_num, by norm_num, fun _ => ?_⟩
      have straight : PyFloat.fin (1 / 2) - .fin (1 / 2) * .fin 1 = .fin 0 := by decide +kernel
      exact (congrArg (fun t => PyFloat.max 0 (knee * t)) straight).trans (max_mul_zero knee)
    · refine ⟨0, -1, by norm_num, by norm_num, fun _ => ?_⟩
      have bent : PyFloat.fin (1 / 2) - .fin (1 / 2) * .fin (-1) = .fin 1 := by decide +kernel
      exact (congrArg (fun t => PyFloat.max 0 (knee * t)) bent).trans
        (congrArg (PyFloat.max 0) (mul_one_eq knee))
  | ankle =>
    obtain ⟨s, unit, reached⟩ := swing_reached extreme
    refine ⟨-s, 0, (abs_neg s).trans_le unit, by norm_num, fun _ => ?_⟩
    change ankle * -PyFloat.fin (-s) = x
    rw [neg_fin, neg_neg]
    exact reached
  | held =>
    refine ⟨0, 0, by norm_num, by norm_num, fun _ => ?_⟩
    exact (List.mem_singleton.mp extreme).symm

/-! What a policy sends. -/

/-- The value that a dictionary of targets holds for a joint: the last one given. -/
def lastTarget (targets : List (PyVal × PyFloat)) (name : String) : Option PyFloat :=
  (targets.reverse.find? fun target => target.1.isKey name).map Prod.snd

/-- `float(self.safety_envelope.get("max_action", 1.5))`. -/
def envelope (text : PyText) (policy : GaitPolicy) : Except Exn PyFloat := do
  text.float (← policy.safetyEnvelope.get "max_action" (.float (.fin (3 / 2))))

/-- The inputs of an ONNX session. -/
def inputs (policy : GaitPolicy) (v : BodyVelocity) : List PyFloat :=
  policy.observation.map fun name => match name with
    | .str name => ((observation v).lookup name).getD 0
    | _ => 0

/-- The targets before the envelope. -/
private def unclamped (text : PyText) (math : Libm) (policy : GaitPolicy) (v : BodyVelocity) :
    Except Exn (List (PyVal × PyFloat)) :=
  match policy.onnx with
  | some session => do return policy.action.zip (← session (inputs policy v))
  | none => policy.inferCpg text math v.linearX

private theorem isKey_iff {key : String} {v : PyVal} : v.isKey key = true ↔ v = .str key := by
  cases v <;> simp [PyVal.isKey]

private theorem lastTarget_clamped (limit : PyFloat) (targets : List (PyVal × PyFloat)) (name : String) :
    lastTarget (targets.map fun joint => (joint.1, clamp limit joint.2)) name =
      (lastTarget targets name).map (clamp limit) := by
  simp only [lastTarget, ← List.map_reverse, List.find?_map, Option.map_map]
  rfl

private theorem applyEnvelope_eq (text : PyText) (policy : GaitPolicy)
    (action : List (PyVal × PyFloat)) : policy.applyEnvelope text action =
      envelope text policy >>= fun limit =>
        .ok (action.map fun joint => (joint.1, clamp limit joint.2)) := by
  unfold GaitPolicy.applyEnvelope envelope
  rcases policy.safetyEnvelope.get "max_action" (.float (.fin (3 / 2))) with e | value
  · rfl
  · rfl

/-- What a policy sends is what it computes, cut to its envelope. -/
private theorem infer_ok_iff {text : PyText} {math : Libm} {policy : GaitPolicy} {v : BodyVelocity}
    {dt : PyFloat} {targets : List (PyVal × PyFloat)} :
    (policy.infer text math (observation v) dt).1 = .ok targets ↔
      ∃ frequency limit action phase,
        policy.param text "step_freq_hz" (.fin (7 / 5)) = .ok frequency ∧
        envelope text policy = .ok limit ∧
        unclamped text math { policy with phase := phase } v = .ok action ∧
        phase = modTurn (policy.phase + .fin (2 * mathPi) * frequency * dt) ∧
        targets = action.map fun joint => (joint.1, clamp limit joint.2) := by
  have run : (policy.infer text math (observation v) dt).1 =
      policy.param text "step_freq_hz" (.fin (7 / 5)) >>= fun frequency =>
        unclamped text math { policy with
            phase := modTurn (policy.phase + .fin (2 * mathPi) * frequency * dt) } v >>=
          policy.applyEnvelope text := by
    unfold GaitPolicy.infer
    rcases policy.param text "step_freq_hz" (.fin (7 / 5)) with e | frequency
    · rfl
    · unfold unclamped
      obtain ⟨_, _, _, _, _, _, onnx⟩ := policy
      cases onnx with
      | none => rfl
      | some session => rfl
  rw [run]
  constructor
  · intro made
    obtain ⟨frequency, rate, made⟩ := except_bind_ok made
    obtain ⟨action, computed, made⟩ := except_bind_ok made
    rw [applyEnvelope_eq] at made
    obtain ⟨limit, found, made⟩ := except_bind_ok made
    exact ⟨frequency, limit, action, _, rate, found, computed, rfl, (Except.ok.inj made).symm⟩
  · rintro ⟨frequency, limit, action, phase, rate, found, computed, rfl, rfl⟩
    rw [rate]
    change unclamped text math _ v >>= policy.applyEnvelope text = _
    rw [computed]
    change policy.applyEnvelope text action = _
    rw [applyEnvelope_eq, found]
    rfl

/-- What a policy's joint gets. -/
private def held (targets : List (String × PyFloat)) : PyVal → PyFloat
  | .str name => (targets.lookup name).getD 0
  | _ => 0

private theorem target_ok_iff {targets : List (String × PyFloat)} {joint : PyVal} {t : PyVal × PyFloat} :
    GaitPolicy.target targets joint = .ok t ↔ joint.hashable = true ∧ t = (joint, held targets joint) := by
  cases joint with
  | list items => exact iff_of_false (fun made => by cases made) fun made => by cases made.1
  | dict items => exact iff_of_false (fun made => by cases made) fun made => by cases made.1
  | _ => exact ⟨fun made => ⟨rfl, (Except.ok.inj made).symm⟩, fun made => made.2 ▸ rfl⟩

/-- The generator returns exactly when every joint can be a key. -/
private theorem targets_ok_iff {targets : List (String × PyFloat)} {joints : List PyVal}
    {made : List (PyVal × PyFloat)} : joints.mapM (GaitPolicy.target targets) = .ok made ↔
      (∀ joint ∈ joints, joint.hashable = true) ∧ made = joints.map fun joint => (joint, held targets joint) := by
  induction joints generalizing made with
  | nil => exact ⟨fun given => ⟨by simp, (Except.ok.inj given).symm⟩, fun given => given.2 ▸ rfl⟩
  | cons joint joints ih =>
    rw [List.mapM_cons]
    constructor
    · intro given
      obtain ⟨t, first, given⟩ := except_bind_ok given
      obtain ⟨rest, others, given⟩ := except_bind_ok given
      obtain ⟨key, rfl⟩ := target_ok_iff.mp first
      obtain ⟨keys, rfl⟩ := ih.mp others
      exact ⟨List.forall_mem_cons.mpr ⟨key, keys⟩, (Except.ok.inj given).symm⟩
    · rintro ⟨keys, rfl⟩
      obtain ⟨key, keys⟩ := List.forall_mem_cons.mp keys
      rw [target_ok_iff.mpr ⟨key, rfl⟩, ih.mpr ⟨keys, rfl⟩]
      rfl

/-- A dictionary with one value for each joint of a list. -/
private theorem lastTarget_map {value : PyVal → PyFloat} {joints : List PyVal} {name : String} {x : PyFloat} :
    lastTarget (joints.map fun joint => (joint, value joint)) name = some x ↔
      .str name ∈ joints ∧ x = value (.str name) := by
  unfold lastTarget
  rw [← List.map_reverse, List.find?_map, Option.map_map]
  constructor
  · intro found
    obtain ⟨joint, first, same⟩ := Option.map_eq_some_iff.mp found
    obtain rfl := isKey_iff.mp (List.find?_some first)
    exact ⟨List.mem_reverse.mp (List.mem_of_find?_eq_some first), same.symm⟩
  · rintro ⟨member, rfl⟩
    rcases first : joints.reverse.find? fun joint => joint.isKey name with _ | joint
    · exact absurd (isKey_iff.mpr rfl) (List.find?_eq_none.mp first _ (List.mem_reverse.mpr member))
    · obtain rfl := isKey_iff.mp (List.find?_some first)
      exact congrArg (Option.map value) first

variable {δ : Type} (s : Surroundings δ) (policy : GaitPolicy)

/-- The targets of a policy for a velocity fit the body: those of a generator at the extremes of
each joint, those of a session as they are, each cut to the envelope. -/
def Fits (v : BodyVelocity) : Prop := ∀ frequency limit,
  policy.param s.text "step_freq_hz" (.fin (7 / 5)) = .ok frequency → envelope s.text policy = .ok limit →
  match policy.onnx with
  | some session => ∀ actions, session (inputs policy v) = .ok actions →
    ∀ name x, lastTarget (policy.action.zip actions) name = some x →
      (range s.body.limits name).Holds (clamp limit x)
  | none => ∀ hip knee ankle, policy.param s.text "hip_amp" (.fin (7 / 20)) = .ok hip →
    policy.param s.text "knee_amp" (.fin (3 / 5)) = .ok knee →
    policy.param s.text "ankle_amp" (.fin (1 / 5)) = .ok ankle →
    (∀ joint ∈ policy.action, joint.hashable = true) → ∀ name, .str name ∈ policy.action →
      ∀ x ∈ extremes (hip * gain v.linearX) (knee * gain v.linearX) (ankle * gain v.linearX) (kind name),
        (range s.body.limits name).Holds (clamp limit x)

variable {s policy}

private theorem fits_targets {math : Libm} (bounded : Bounded math) {v : BodyVelocity} {dt : PyFloat}
    {targets : List (PyVal × PyFloat)} (fits : Fits s policy v)
    (made : (policy.infer s.text math (observation v) dt).1 = .ok targets) {name : String} {x : PyFloat}
    (last : lastTarget targets name = some x) : (range s.body.limits name).Holds x := by
  obtain ⟨frequency, limit, action, phase, rate, found, computed, -, rfl⟩ := infer_ok_iff.mp made
  rw [lastTarget_clamped] at last
  obtain ⟨y, unlimited, rfl⟩ := Option.map_eq_some_iff.mp last
  have fits := fits frequency limit rate found
  unfold unclamped at computed
  cases runtime : policy.onnx with
  | some session =>
    simp only [runtime] at fits computed
    obtain ⟨actions, answered, computed⟩ := except_bind_ok computed
    cases computed
    exact fits actions answered name y unlimited
  | none =>
    simp only [runtime] at fits computed
    rw [inferCpg_eq] at computed
    obtain ⟨hip, readHip, computed⟩ := except_bind_ok computed
    obtain ⟨knee, readKnee, computed⟩ := except_bind_ok computed
    obtain ⟨ankle, readAnkle, computed⟩ := except_bind_ok computed
    obtain ⟨keys, rfl⟩ := targets_ok_iff.mp computed
    obtain ⟨member, rfl⟩ := lastTarget_map.mp unlimited
    obtain ⟨p, value⟩ := cycle_lookup math (hip * gain v.linearX) (knee * gain v.linearX)
      (ankle * gain v.linearX) phase name
    rw [held, value]
    exact targetAt_holds bounded (fits hip knee ankle readHip readKnee readAnkle keys name member) p

/-- Where the extremes do not fit, some sine and cosine give a target that does not. -/
private theorem fits_of_targets {v : BodyVelocity} {dt : PyFloat}
    (contained : ∀ math, Bounded math → ∃ phase, ∀ targets,
      (({ policy with phase := phase } : GaitPolicy).infer s.text math (observation v) dt).1 = .ok targets →
        ∀ name x, lastTarget targets name = some x → (range s.body.limits name).Holds x) :
    Fits s policy v := by
  intro frequency limit rate found
  have sent (math : Libm) (bounded : Bounded math) (action : List (PyVal × PyFloat))
      (computed : ∀ phase, unclamped s.text math { policy with phase := phase } v = .ok action)
      (name : String) (x : PyFloat) (last : lastTarget action name = some x) :
      (range s.body.limits name).Holds (clamp limit x) := by
    obtain ⟨phase, contained⟩ := contained math bounded
    refine contained _
      (infer_ok_iff.mpr ⟨frequency, limit, action, _, rate, found, computed _, rfl, rfl⟩) name _ ?_
    rw [lastTarget_clamped, last]
    rfl
  unfold unclamped at sent
  cases runtime : policy.onnx with
  | some session =>
    simp only [runtime] at sent ⊢
    intro actions answered
    refine sent (constantMath 0 0) (constantMath_bounded (by norm_num) (by norm_num)) _ fun _ => ?_
    change (session (inputs policy v) >>= fun actions => pure (policy.action.zip actions)) = _
    rw [answered]
    rfl
  | none =>
    simp only [runtime] at sent ⊢
    intro hip knee ankle readHip readKnee readAnkle keys name member x extreme
    obtain ⟨sine, cosine, unit, unit', reached⟩ := extremes_reached extreme
    let targets := cycle (constantMath sine cosine) (hip * gain v.linearX) (knee * gain v.linearX)
      (ankle * gain v.linearX) 0
    refine sent (constantMath sine cosine) (constantMath_bounded unit unit')
      (policy.action.map fun joint => (joint, held targets joint)) (fun phase => ?_) name x
      (lastTarget_map.mpr ⟨member, ?_⟩)
    · rw [inferCpg_eq]
      change (policy.param s.text "hip_amp" (.fin (7 / 20)) >>= fun hip =>
        policy.param s.text "knee_amp" (.fin (3 / 5)) >>= fun knee =>
        policy.param s.text "ankle_amp" (.fin (1 / 5)) >>= fun ankle => policy.action.mapM _) = _
      rw [readHip, readKnee, readAnkle]
      exact targets_ok_iff.mpr ⟨keys, rfl⟩
    · obtain ⟨p, value⟩ := cycle_lookup (constantMath sine cosine) (hip * gain v.linearX)
        (knee * gain v.linearX) (ankle * gain v.linearX) 0 name
      exact (value.trans (reached p)).symm

/-! Runs of the motion service. -/

/-- A call of `drive`: the velocity and the time step. -/
abbrev Call := BodyVelocity × PyFloat

variable (s)

/-- The joint targets that a call passes to the backend. -/
def Sends (w : SimWorld δ) (call : Call) (targets : List (PyVal × PyFloat)) : Prop :=
  canMove s = .ok true ∧ validateVelocity s call.1 = .ok () ∧
    ∃ v policy, clampVelocity s call.1 = .ok v ∧ w.gaitPolicy = some policy ∧
      (policy.infer s.text s.math (observation v) call.2).1 = .ok targets

/-- The world after some calls of `drive`. -/
def motionRun (calls : List Call) (w : SimWorld δ) : SimWorld δ :=
  calls.foldl (fun w call => (drive s call.1 call.2 w).2) w

/-- Whatever values sine and cosine take, every target that a call of the run sends is within the
range of its joint. -/
def JointsContained (calls : List Call) (w : SimWorld δ) : Prop :=
  ∀ math, Bounded math → ∀ past call rest, calls = past ++ call :: rest → ∀ targets,
    Sends { s with math := math } (motionRun { s with math := math } past w) call targets →
      ∀ name x, lastTarget targets name = some x → (range s.body.limits name).Holds x

/-- What a call must find: if it is not refused, its velocity gives targets that fit. -/
def FitsCall (policy : GaitPolicy) (call : Call) : Prop :=
  canMove s = .ok true → validateVelocity s call.1 = .ok () →
    ∀ v, clampVelocity s call.1 = .ok v → Fits s policy v

variable {s}

/-- What a call that sends targets does to the backend before its velocity command. -/
theorem approach_sends {w : SimWorld δ} {call : Call} {targets : List (PyVal × PyFloat)}
    (sends : Sends s w call targets) :
    (approach s call.1 call.2 w).2.backend = w.backend.commandJoints targets := by
  obtain ⟨moves, valid, v, policy, clamped, given, inferred⟩ := sends
  rcases run : policy.infer s.text s.math (observation v) call.2 with ⟨r, policy'⟩
  rw [run] at inferred
  cases inferred
  rw [(approach_checked call.2 w moves valid clamped).1 policy given]
  simp only [commandGait, run]
  rfl

private theorem infer_policy (text : PyText) (math : Libm) (policy : GaitPolicy) (v : BodyVelocity)
    (dt : PyFloat) : ∃ phase,
      (policy.infer text math (observation v) dt).2 = { policy with phase := phase } := by
  unfold GaitPolicy.infer
  rcases policy.param text "step_freq_hz" (.fin (7 / 5)) with e | frequency
  · exact ⟨policy.phase, rfl⟩
  · exact ⟨_, rfl⟩

/-- A drive advances the phase of the policy and changes nothing else of it. -/
private theorem drive_policy (vel : BodyVelocity) (dt : PyFloat) : Keeps
    (fun w : SimWorld δ => ∃ phase, w.gaitPolicy = some { policy with phase := phase }) (drive s vel dt) := by
  have moved (v : BodyVelocity) : Keeps
      (fun w : SimWorld δ => ∃ phase, w.gaitPolicy = some { policy with phase := phase }) (forward s dt v) := by
    refine keeps_bind (keeps_bind (keeps_iff.mpr fun _ holds => holds) fun _ => ?_) fun _ => ?_
    · exact keeps_modify fun _ holds => holds
    · exact keeps_zoom fun _ holds => holds
  rw [drive_eq]
  refine keeps_bind ?_ moved
  refine keeps_bind (keeps_ofExcept _) fun _ => keeps_ite (fun _ => keeps_raise _) fun _ => ?_
  refine keeps_bind (keeps_ofExcept _) fun _ => keeps_bind (keeps_ofExcept _) fun v => ?_
  refine keeps_reads_bind fun w ⟨phase, given⟩ => ?_
  rw [given]
  rcases run : ({ policy with phase := phase } : GaitPolicy).infer s.text s.math (observation v) dt with
    ⟨r, policy'⟩
  have kept := infer_policy s.text s.math { policy with phase := phase } v dt
  rw [run] at kept
  obtain ⟨phase', rfl⟩ := kept
  simp only [commandGait, run]
  rcases r with e | targets
  · exact ⟨phase', rfl⟩
  · exact ⟨phase', rfl⟩

private theorem motionRun_policy {w : SimWorld δ} {phase : PyFloat}
    (given : w.gaitPolicy = some { policy with phase := phase }) (calls : List Call) :
    ∃ phase', (motionRun s calls w).gaitPolicy = some { policy with phase := phase' } := by
  induction calls generalizing w phase with
  | nil => exact ⟨phase, given⟩
  | cons call calls ih =>
    obtain ⟨phase', next⟩ := (drive_policy call.1 call.2).after ⟨phase, given⟩
    exact ih next

/-- Over every run, the targets stay within the joint limits exactly when every call that is not
refused gives targets that fit. -/
theorem joints_contained_iff (s : Surroundings δ) (policy : GaitPolicy) (w : SimWorld δ)
    (calls : List Call) : JointsContained s calls { w with gaitPolicy := some policy } ↔
      ∀ call ∈ calls, FitsCall s policy call := by
  constructor
  · intro contained call member moves valid v clamped
    obtain ⟨past, rest, split⟩ := List.append_of_mem member
    refine @fits_of_targets _ s policy v call.2 fun math bounded => ?_
    obtain ⟨phase, given⟩ := @motionRun_policy _ { s with math := math } policy
      { w with gaitPolicy := some policy } policy.phase rfl past
    refine ⟨phase, fun targets made => ?_⟩
    exact contained math bounded past call rest split targets
      ⟨moves, valid, v, _, clamped, given, made⟩
  · intro fits math bounded past call rest split targets sends name x last
    obtain ⟨phase, given⟩ := @motionRun_policy _ { s with math := math } policy
      { w with gaitPolicy := some policy } policy.phase rfl past
    obtain ⟨moves, valid, v, policy', clamped, given', inferred⟩ := sends
    rw [given] at given'
    cases given'
    have member : call ∈ calls := split ▸ List.mem_append_right past List.mem_cons_self
    have fit : Fits { s with math := math } { policy with phase := phase } v :=
      fits call member moves valid v clamped
    exact fits_targets bounded fit inferred last

/-! A walker with a stiff hip. -/

def stiffWalker : LoadedBody where
  manifest :=
    { bodyId := "ig-mk1", name := "IG", revision := "mk1", locomotionType := "biped"
      requiredActuators := ["left_hip_pitch"]
      gaitPolicy := some { file := "gait-policy.json", checksum := "sha256:a1" } }
  capabilities := { raw := .dict [(.str "locomotion", .dict [(.str "walk", .bool true)])] }
  limits := { joints := .dict [(.str "left_hip_pitch", .dict [
    (.str "position_min", .float (.fin (-1 / 10))), (.str "position_max", .float (.fin (1 / 10)))])] }

/-- The policy of a file that names the hip and leaves every amplitude to its default. -/
def stiffPolicy : GaitPolicy where
  bodyId := .str "ig-mk1"
  supportedBodyRevision := .str "mk1"
  controlRateHz := 0
  observation := []
  action := [.str "left_hip_pitch"]
  safetyEnvelope := .dict []
  checksum := "sha256:a1"
  approvedForPhysical := false
  params := .dict []

def stiffFiles : String → Option PolicyFile := fun _ => some {
  sha256 := "sha256:a1"
  text := .document (.dict [(.str "body_id", .str "ig-mk1"), (.str "supported_body_revision", .str "mk1"),
    (.str "action", .list [.str "left_hip_pitch"])]) }

def stiffDroid : Surroundings Unit := { hallwayDroid with body := stiffWalker, gaitFiles := stiffFiles }

/-- The policy is accepted without issues, and it swings the hip beyond its range. -/
theorem stiff_hip_exceeded :
    loadForBody stiffDroid.text stiffFiles stiffWalker = .ok (some stiffPolicy, []) ∧
      ¬ JointsContained stiffDroid [({ linearX := 1 }, .fin (1 / 200))]
        { backend := SimulationBackend.new stiffWalker, gaitPolicy := some stiffPolicy, store := () } := by
  refine ⟨rfl, fun contained => ?_⟩
  let math := constantMath 1 0
  let v : BodyVelocity :=
    { linearX := clamp (PyFloat.orElse 0 (.fin (3 / 10))) 1
      angularZ := clamp (PyFloat.orElse 0 (.fin (4 / 5))) 0 }
  have beyond : ((stiffPolicy.infer .ascii math (observation v) (.fin (1 / 200))).1.toOption.map
      fun targets => (lastTarget targets "left_hip_pitch").map fun x => x.le (.fin (1 / 10))) =
        some (some false) := by
    decide +kernel
  rcases made : (stiffPolicy.infer .ascii math (observation v) (.fin (1 / 200))).1 with e | targets
  · rw [made] at beyond
    cases beyond
  rw [made] at beyond
  rcases last : lastTarget targets "left_hip_pitch" with _ | x
  · simp [Except.toOption, last] at beyond
  have outside : x.le (.fin (1 / 10)) = false := by simpa [Except.toOption, last] using beyond
  have inside := contained math (constantMath_bounded (by norm_num) (by norm_num)) []
    ({ linearX := 1 }, .fin (1 / 200)) [] rfl targets ⟨rfl, rfl, v, stiffPolicy, rfl, rfl, made⟩
    "left_hip_pitch" x last
  rw [inside.2 (.fin (1 / 10)) rfl] at outside
  cases outside

end DroidOs.System.JointTargets
