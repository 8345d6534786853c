/- GID: DroidOs/Gait/Policy
   generality: I
   source: src/droidos/gait/policy.py
   digest: Loading, validating and running the gait policy of a biped body. -/

import DroidOs.Body.Package

set_option autoImplicit false
set_option relaxedAutoImplicit false

namespace DroidOs.Gait.Policy

open DroidOs.Core.Values
open DroidOs.Body.Package

/-- A session of the ONNX runtime: it maps an observation vector to actions. -/
abbrev OnnxSession := List PyFloat → Except Exn (List PyFloat)

/-- `GaitPolicy`. An ONNX policy without a session runs the fallback generator. -/
structure GaitPolicy where
  bodyId : PyVal
  supportedBodyRevision : PyVal
  controlRateHz : PyFloat
  observation : List PyVal
  action : List PyVal
  safetyEnvelope : PyVal
  onnx : Option OnnxSession := none
  checksum : String
  approvedForPhysical : Bool
  params : PyVal
  phase : PyFloat := 0

/-! Files. -/

/-- What reading a file as JSON text gives. -/
inductive JsonFile
  | undecodable
  | invalid (error : String)
  | document (v : PyVal)

/-- A gait policy file: its digest, its text, and for an ONNX file the JSON file
beside it and the session that the runtime opens. -/
structure PolicyFile where
  sha256 : String
  text : JsonFile
  sidecar : Option JsonFile := none
  session : Option OnnxSession := none

def undecodable : Exn := ⟨.other "UnicodeDecodeError", "'utf-8' codec can't decode byte"⟩

/-- `Path(file).suffix == ".onnx"`, for a name that is not the suffix alone. -/
def isOnnx (file : String) : Bool := ".onnx".toList.isSuffixOf file.toList && file ≠ ".onnx"

variable (text : PyText)

/-- The fields that both loaders read from the descriptor. -/
private def ofDescriptor (doc revisionDefault : PyVal) (rate : Except Exn PyFloat)
    (onnx : Option OnnxSession) (spec : GaitPolicySpec) (checksum : String) :
    Except Exn GaitPolicy := do
  let bodyId ← doc.get "body_id" (.str "")
  let revision ← doc.get "supported_body_revision" revisionDefault
  let rate ← rate
  let observation ← (← doc.get "observation" (.list [])).toList
  let action ← (← doc.get "action" (.list [])).toList
  let envelope ← doc.get "safety_envelope" (.dict [])
  let params ← doc.get "gait" (.dict [])
  return {
    bodyId := bodyId
    supportedBodyRevision := revision
    controlRateHz := rate
    observation := observation
    action := action
    safetyEnvelope := envelope.orElse (.dict [])
    onnx := onnx
    checksum := checksum
    approvedForPhysical := spec.approvedForPhysical
    params := params.orElse (.dict []) }

/-- `_load_cpg`. -/
def loadCpg (doc : PyVal) (spec : GaitPolicySpec) (checksum : String) : Except Exn GaitPolicy :=
  let rate := do text.float (← doc.get "control_rate_hz" (.float 0))
  ofDescriptor doc (.str "") rate none spec checksum

/-- `_load_onnx`. -/
def loadOnnx (file : PolicyFile) (spec : GaitPolicySpec) : Except Exn GaitPolicy := do
  let doc ← match file.sidecar with
    | none => .ok (.dict [])
    | some .undecodable => .error undecodable
    | some (.invalid error) => .error ⟨.valueError, error⟩
    | some (.document v) => .ok v
  ofDescriptor doc (.str spec.supportedBodyRevision) (.ok spec.controlRateHz) file.session
    spec file.sha256

/-- The joints that the policy drives and the body lacks. -/
def unknownJoints (policy : GaitPolicy) (body : LoadedBody) : Except Exn (List String) := do
  let named ← policy.action.mapM fun joint => match joint with
    | .str name => .ok (some name)
    | v => if v.hashable then .ok none
      else .error ⟨.typeError, "unhashable type"⟩
  let missing := named.filter fun
    | some name => decide (name ∉ body.manifest.requiredActuators)
    | none => true
  missing.mapM fun
    | some name => .ok name
    | none => .error ⟨.typeError, "sequence item: expected str instance"⟩

/-- The issues of a policy that is meant for this body. -/
def issues (policy : GaitPolicy) (body : LoadedBody) : Except Exn (List String) := do
  let revision :=
    if policy.supportedBodyRevision.truthy &&
        !policy.supportedBodyRevision.isKey body.manifest.revision then
      ["gait policy revision " ++ text.repr policy.supportedBodyRevision ++ " != body " ++
        text.repr (.str body.manifest.revision)] else []
  let missing ← unknownJoints policy body
  let joints := if missing.isEmpty then []
    else ["gait policy drives unknown joints: " ++ ", ".intercalate missing]
  let imu :=
    if policy.observation.any (PyVal.isKey "base_lin_vel") &&
        !body.sensors.any (fun s => s.type = "imu") then
      ["gait policy needs an IMU but none is declared"] else []
  let approval :=
    if body.backendKind = .physical ∧ policy.approvedForPhysical = false then
      ["gait policy is not approved for physical operation"] else []
  return revision ++ joints ++ imu ++ approval

/-- The part of `load_for_body` after the descriptor has been loaded. -/
def validate (policy : GaitPolicy) (body : LoadedBody) :
    Except Exn (Option GaitPolicy × List String) := do
  if policy.bodyId.truthy && !policy.bodyId.isKey body.bodyId then
    return (none, ["gait policy is for body " ++ text.repr policy.bodyId ++ ", not " ++
      text.repr (.str body.bodyId)])
  return (some policy, ← issues text policy body)

/-- `load_for_body`, over the files of the body's directory. -/
def loadForBody (files : String → Option PolicyFile) (body : LoadedBody) :
    Except Exn (Option GaitPolicy × List String) :=
  match body.manifest.gaitPolicy with
  | none => .ok (none, ["body declares no gait policy"])
  | some spec => match files spec.file with
    | none => .ok (none, ["gait policy file not found: " ++ spec.file])
    | some file =>
      if spec.checksum ≠ "" ∧ spec.checksum ≠ file.sha256 then
        .ok (none, ["gait policy checksum mismatch (expected " ++ spec.checksum ++ ", got " ++
          file.sha256 ++ ")"])
      else if isOnnx spec.file then do validate text (← loadOnnx file spec) body
      else match file.text with
        | .undecodable => .error undecodable
        | .invalid error => .ok (none, ["gait policy is not valid JSON: " ++ error])
        | .document doc => do validate text (← loadCpg text doc spec file.sha256) body

/-! Inference. -/

namespace GaitPolicy

variable (math : Libm) (policy : GaitPolicy)

/-- `float(self.params.get(key, default))`. -/
def param (text : PyText) (policy : GaitPolicy) (key : String) (default : PyFloat) :
    Except Exn PyFloat := do
  text.float (← policy.params.get key (.float default))

/-- The targets of one leg; the other leg is half a turn later. -/
def leg (math : Libm) (side : String) (hip knee ankle phase : PyFloat) :
    List (String × PyFloat) :=
  let s := math.sin phase
  let c := math.cos phase
  [(side ++ "_hip_pitch", hip * s),
    (side ++ "_knee", PyFloat.max 0 (knee * (.fin (1 / 2) - .fin (1 / 2) * c))),
    (side ++ "_ankle", ankle * -s)]

/-- The value that a policy's joint gets. -/
def target (targets : List (String × PyFloat)) (joint : PyVal) :
    Except Exn (PyVal × PyFloat) :=
  match joint with
  | .str name => .ok (joint, (targets.lookup name).getD 0)
  | v => if v.hashable then .ok (joint, 0) else .error ⟨.typeError, "unhashable type"⟩

/-- `_infer_cpg`. -/
def inferCpg (vx : PyFloat) : Except Exn (List (PyVal × PyFloat)) := do
  let gain := if vx.abs.lt (.fin (1 / 1000)) then 0
    else PyFloat.min 1 (vx.abs * .fin (20 / 7))
  let hip := (← policy.param text "hip_amp" (.fin (7 / 20))) * gain
  let knee := (← policy.param text "knee_amp" (.fin (3 / 5))) * gain
  let ankle := (← policy.param text "ankle_amp" (.fin (1 / 5))) * gain
  let targets := leg math "left" hip knee ankle policy.phase ++
    leg math "right" hip knee ankle (policy.phase + .fin mathPi)
  policy.action.mapM (target targets)

/-- `_infer_onnx`. -/
def inferOnnx (session : OnnxSession) (observation : List (String × PyFloat)) :
    Except Exn (List (PyVal × PyFloat)) := do
  let vec := policy.observation.map fun name => match name with
    | .str name => (observation.lookup name).getD 0
    | _ => 0
  return policy.action.zip (← session vec)

/-- `_apply_envelope`. -/
def applyEnvelope (action : List (PyVal × PyFloat)) : Except Exn (List (PyVal × PyFloat)) := do
  let limit ← text.float (← policy.safetyEnvelope.get "max_action" (.float (.fin (3 / 2))))
  return action.map fun joint => (joint.1, PyFloat.max (-limit) (PyFloat.min limit joint.2))

/-- `infer`: the joint targets, and the policy with its phase advanced. -/
def infer (observation : List (String × PyFloat)) (dt : PyFloat) :
    Except Exn (List (PyVal × PyFloat)) × GaitPolicy :=
  match policy.param text "step_freq_hz" (.fin (7 / 5)) with
  | .error e => (.error e, policy)
  | .ok frequency =>
    let policy := { policy with
      phase := modTurn (policy.phase + .fin (2 * mathPi) * frequency * dt) }
    let action := match policy.onnx with
      | some session => policy.inferOnnx session observation
      | none => policy.inferCpg text math ((observation.lookup "cmd_vx").getD 0)
    (action >>= policy.applyEnvelope text, policy)

end GaitPolicy

end DroidOs.Gait.Policy
