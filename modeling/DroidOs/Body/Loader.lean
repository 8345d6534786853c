/- GID: DroidOs/Body/Loader
   generality: I
   source: src/droidos/body/manifest.py, src/droidos/body/capabilities.py, src/droidos/body/loader.py
   digest: A body package as its documents give it, which of them are loaded and what is found wrong with them. -/

import DroidOs.Body.Package
import DroidOs.Core.Keys
import DroidOs.Util.Parsed

set_option autoImplicit false
set_option relaxedAutoImplicit false

namespace DroidOs.Body.Loader

open DroidOs.Core.Values DroidOs.Core.Keys
open DroidOs.Util.Characters (YamlText)
open Package (startsWith BodyLimits Capabilities)

/-! What the documents hold. Nothing but their shape is looked at. -/

/-- `d[key]`. -/
def item (key : String) : PyVal → Except Exn PyVal
  | .dict items => ((PyVal.lookup key items).map Except.ok).getD (.error ⟨.keyError, "'" ++ key ++ "'"⟩)
  | .list _ => .error ⟨.typeError, "list indices must be integers or slices, not str"⟩
  | .str _ => .error ⟨.typeError, "string indices must be integers, not 'str'"⟩
  | _ => .error ⟨.typeError, "object is not subscriptable"⟩

/-- `d.get(key, default) or default`. -/
def getOr (key : String) (default : PyVal) (d : PyVal) : Except Exn PyVal := do
  return (← d.get key default).orElse default

/-- `float(d.get(key, 0) or 0)`. -/
def numberOr (text : PyText) (key : String) (d : PyVal) : Except Exn PyFloat := do
  text.float (← getOr key (.int 0) d)

structure SensorSpec where
  id : PyVal
  type : PyVal
  topic : PyVal
  rateHz : PyFloat
  required : Bool
  extra : List (PyVal × PyVal)

def knownFields : List String := ["id", "type", "topic", "rate_hz", "required"]

/-- The items of a mapping that are no known fields. -/
def extras : PyVal → List (PyVal × PyVal)
  | .dict items => items.filter fun i => !knownFields.any fun key => i.1.isKey key
  | _ => []

/-- `SensorSpec.from_dict`. -/
def SensorSpec.fromDict (text : PyText) (d : PyVal) : Except Exn SensorSpec := do
  let id ← item "id" d
  let type ← d.get "type" (.str "unknown")
  let topic ← d.get "topic" (.str "")
  let rateHz ← numberOr text "rate_hz" d
  let required ← d.get "required" (.bool false)
  return { id := id, type := type, topic := topic, rateHz := rateHz, required := required.truthy, extra := extras d }

/-- `BodyLimits.from_dict`, of the sections that are read. -/
def limitsFrom (d : PyVal) : Except Exn BodyLimits := do
  let d := d.orElse (.dict [])
  return {
    battery := ← getOr "battery" (.dict []) d
    thermal := ← getOr "thermal" (.dict []) d
    velocity := ← getOr "velocity" (.dict []) d
    joints := ← getOr "joints" (.dict []) d }

structure GaitPolicySpec where
  file : PyVal
  checksum : PyVal
  format : PyVal
  controlRateHz : PyFloat
  supportedBodyRevision : String
  approvedForPhysical : Bool

/-- `GaitPolicySpec.from_dict`. -/
def GaitPolicySpec.fromDict (text : PyText) (d : PyVal) : Except Exn (Option GaitPolicySpec) :=
  if d.truthy then do
    let file ← d.get "file" (.str "")
    let checksum ← d.get "checksum" (.str "")
    let format ← d.get "format" (.str "onnx")
    let controlRateHz ← numberOr text "control_rate_hz" d
    let revision ← d.get "supported_body_revision" (.str "")
    let approved ← d.get "approved_for_physical" (.bool false)
    return some {
      file := file
      checksum := checksum
      format := format
      controlRateHz := controlRateHz
      supportedBodyRevision := text.str revision
      approvedForPhysical := approved.truthy }
  else .ok none

/-- `Capabilities.from_dict`. -/
def capabilitiesFrom : PyVal → Capabilities
  | .dict items => ⟨((PyVal.lookup "capabilities" items).getD (.dict items)).orElse (.dict [])⟩
  | _ => {}

/-! The manifest. -/

structure BodyManifest where
  bodyId : PyVal
  name : PyVal
  modelFamily : PyVal
  revision : String
  interfaceRevision : String
  locomotionType : PyVal
  description : String
  hardwareProfile : PyVal
  files : PyVal
  requiredSensors : List PyVal
  requiredActuators : List PyVal
  gaitPolicy : Option GaitPolicySpec
  signature : PyVal

/-- `VALID_LOCOMOTION`, sorted. -/
def validLocomotion : List String := ["biped", "differential", "manipulator", "omni", "stationary", "tracked"]

/-- The fields that `BodyManifest.load` takes from the document. -/
def fields (text : PyText) (data : PyVal) : Except Exn BodyManifest := do
  let bodyId ← item "body_id" data
  let name ← data.get "name" bodyId
  let modelFamily ← data.get "model_family" (.str "unknown")
  let revision ← data.get "revision" (.str "")
  let interfaceRevision ← data.get "interface_revision" (.str "")
  let locomotionType ← item "locomotion_type" data
  let description ← data.get "description" (.str "")
  let hardwareProfile ← data.get "hardware_profile" (.str "")
  let files ← getOr "files" (.dict []) data
  let requiredSensors ← (← getOr "required_sensors" (.list []) data).toList
  let requiredActuators ← (← getOr "required_actuators" (.list []) data).toList
  let gaitPolicy ← GaitPolicySpec.fromDict text (← data.get "gait_policy" .none)
  let signature ← getOr "signature" (.dict []) data
  return {
    bodyId := bodyId
    name := name
    modelFamily := modelFamily
    revision := text.str revision
    interfaceRevision := text.str interfaceRevision
    locomotionType := locomotionType
    description := text.strip (text.str description)
    hardwareProfile := hardwareProfile
    files := files
    requiredSensors := requiredSensors
    requiredActuators := requiredActuators
    gaitPolicy := gaitPolicy
    signature := signature }

/-- A missing field is a `BodyError`; everything else that goes wrong stays what it is. -/
def missingField (e : Exn) : Exn :=
  if e.cls = .keyError then ⟨.bodyError, "manifest.yaml missing required field: " ++ e.msg⟩ else e

/-- The files of a package by their names in it. -/
abbrev Files := String → Option (List Char)

/-- The bodies directory: the path of each package, and the packages that are there. -/
structure Bodies where
  path : String → String
  package : String → Option Files

variable (text : YamlText) (bodies : Bodies)

/-- `BodyManifest.load`. -/
def BodyManifest.load (directory : String) (files : Files) : Except Exn BodyManifest :=
  match files "manifest.yaml" with
  | none => .error ⟨.bodyError, "body package has no manifest.yaml: " ++ directory⟩
  | some document => do
    let data ← Util.Parsed.load text document
    match data with
    | .dict _ =>
      let manifest ← (fields text.toPyText data).mapError missingField
      if !manifest.locomotionType.hashable then .error ⟨.typeError, "unhashable type"⟩
      else if validLocomotion.any fun kind => manifest.locomotionType.isKey kind then return manifest
      else .error ⟨.bodyError, "unknown locomotion_type " ++ text.repr manifest.locomotionType ++
        "; expected one of " ++ text.repr (.list (validLocomotion.map .str))⟩
    | _ => .error ⟨.bodyError, "manifest.yaml is not a mapping: " ++ directory ++ "/manifest.yaml"⟩

/-- `load_component`. -/
def BodyManifest.loadComponent (manifest : BodyManifest) (files : Files) (key : String) : Except Exn PyVal := do
  let name ← manifest.files.get key .none
  if !name.truthy then return .none
  match name with
  | .str name => ((files name).map (Util.Parsed.load text)).getD (.ok .none)
  | _ => .error ⟨.typeError, "unsupported operand type(s) for /"⟩

/-- `load_component(key) or {}`. -/
def BodyManifest.componentOr (manifest : BodyManifest) (files : Files) (key : String) : Except Exn PyVal := do
  return (← manifest.loadComponent text files key).orElse (.dict [])

/-! The body. -/

structure LoadedBody where
  manifest : BodyManifest
  capabilities : Capabilities
  limits : BodyLimits
  sensors : List SensorSpec
  controllers : PyVal
  diagnosticRules : PyVal
  backendKind : PyVal
  issues : List String := []

namespace LoadedBody

variable (text : PyText) (body : LoadedBody)

def sensorIds : List PyVal := body.sensors.map SensorSpec.id

/-- The required sensors that are not declared. -/
def undeclared : Except Exn (List PyVal) :=
  if body.sensorIds.all PyVal.hashable && body.manifest.requiredSensors.all PyVal.hashable then
    .ok (body.manifest.requiredSensors.filter fun req => !body.sensorIds.any fun id => sameKey id req)
  else .error ⟨.typeError, "unhashable type"⟩

/-- The part of `_static_validate` about the gait policy. -/
def gaitIssues : List String :=
  match body.manifest.gaitPolicy with
  | none => ["biped body has no gait_policy declared"]
  | some gp =>
    (if gp.checksum.truthy then [] else ["gait policy has no checksum"]) ++
    (if gp.supportedBodyRevision ≠ "" ∧ gp.supportedBodyRevision ≠ body.manifest.revision then
      ["gait policy is for revision " ++ text.repr (.str gp.supportedBodyRevision) ++
        ", body is " ++ text.repr (.str body.manifest.revision)] else []) ++
    (if body.backendKind.isKey "physical" ∧ gp.approvedForPhysical = false then
      ["gait policy is not approved for physical operation"] else [])

/-- `not m.signature or str(m.signature.get("value", "")).startswith("PLACEHOLDER")`. -/
def signatureIsPlaceholder : Except Exn Bool := do
  if !body.manifest.signature.truthy then return true
  let value ← body.manifest.signature.get "value" (.str "")
  return startsWith "PLACEHOLDER" (text.str value)

/-- A value in an f-string. -/
def shown : PyVal → String
  | .str s => s
  | v => text.str v

/-- `_static_validate`. -/
def staticValidate : Except Exn (List String) := do
  let m := body.manifest
  let undeclared := (← body.undeclared).map
    fun req => "required sensor " ++ text.repr req ++ " is not declared in sensors.yaml"
  let loco ← body.capabilities.category "locomotion"
  let walk :=
    if m.locomotionType.isKey "biped" ∧ Capabilities.isFalse (PyVal.lookup "walk" loco) then
      ["biped locomotion_type but capabilities.locomotion.walk is false"] else []
  let roll :=
    if (["differential", "omni", "tracked"].any fun kind => m.locomotionType.isKey kind) ∧
        Capabilities.isFalse (PyVal.lookup "roll" loco) then
      [shown text m.locomotionType ++ " locomotion_type but capabilities.roll is false"] else []
  let gait := if m.locomotionType.isKey "biped" then body.gaitIssues text else []
  let signature := if ← body.signatureIsPlaceholder text then [Package.LoadedBody.signatureIssue] else []
  return undeclared ++ walk ++ roll ++ gait ++ signature

end LoadedBody

/-- What is listed under a key of a document, if that is a mapping. -/
def listed (key : String) : PyVal → Except Exn (List PyVal)
  | .dict items => ((PyVal.lookup key items).getD (.list [])).toList
  | _ => .ok []

/-- What a document says of the rules, if it is a mapping. -/
def rulesOf : PyVal → PyVal
  | .dict items => (PyVal.lookup "rules" items).getD (.dict [])
  | _ => .dict []

/-- The document, if it is a mapping. -/
def mappingOr : PyVal → PyVal
  | .dict items => .dict items
  | _ => .dict []

/-- The body before its validation. -/
def LoadedBody.read (directory : String) (files : Files) (backendKind : PyVal) : Except Exn LoadedBody := do
  let manifest ← BodyManifest.load text directory files
  let caps ← manifest.componentOr text files "capabilities"
  let bounds ← limitsFrom (← manifest.componentOr text files "limits")
  let sensorList ← listed "sensors" (← manifest.componentOr text files "sensors")
  let sensors ← sensorList.mapM (SensorSpec.fromDict text.toPyText)
  let controllers ← manifest.componentOr text files "controllers"
  let rules ← manifest.componentOr text files "diagnostic_rules"
  return {
    manifest := manifest
    capabilities := capabilitiesFrom caps
    limits := bounds
    sensors := sensors
    controllers := mappingOr controllers
    diagnosticRules := rulesOf rules
    backendKind := backendKind }

/-- `BodyManager.load`. -/
def load (bodyId backendKind : PyVal) : Except Exn LoadedBody :=
  match bodyId with
  | .str id => match bodies.package id with
    | none => .error ⟨.bodyError, "body package not found: " ++ bodies.path id⟩
    | some files => do
      let body ← LoadedBody.read text (bodies.path id) files backendKind
      return { body with issues := ← body.staticValidate text.toPyText }
  | _ => .error ⟨.typeError, "unsupported operand type(s) for /"⟩

/-! What is wrong with a body. -/

/-- The capabilities say no to a mode of locomotion. -/
def LoadedBody.Unable (body : LoadedBody) (mode : String) : Prop :=
  ∃ modes, body.capabilities.category "locomotion" = .ok modes ∧ PyVal.lookup mode modes = some (.bool false)

/-- There is no signature, or its value is a placeholder. -/
def LoadedBody.Unsigned (text : PyText) (body : LoadedBody) : Prop :=
  body.manifest.signature.truthy = false ∨
    ∃ value, body.manifest.signature.get "value" (.str "") = .ok value ∧ startsWith "PLACEHOLDER" (text.str value) = true

/-- A gait policy whose checksum, revision or approval is not what the body needs. -/
inductive GaitFault (text : PyText) (body : LoadedBody) (gp : GaitPolicySpec) : String → Prop
  | unchecked : gp.checksum.truthy = false → GaitFault text body gp "gait policy has no checksum"
  | revision : gp.supportedBodyRevision ≠ "" → gp.supportedBodyRevision ≠ body.manifest.revision →
    GaitFault text body gp ("gait policy is for revision " ++ text.repr (.str gp.supportedBodyRevision) ++
      ", body is " ++ text.repr (.str body.manifest.revision))
  | unapproved : body.backendKind = .str "physical" → gp.approvedForPhysical = false →
    GaitFault text body gp "gait policy is not approved for physical operation"

/-- What is wrong with a body, and the issue that says so. -/
inductive Fault (text : PyText) (body : LoadedBody) : String → Prop
  | undeclared (req : PyVal) : req ∈ body.manifest.requiredSensors →
    (∀ sensor ∈ body.sensors, sameKey sensor.id req = false) →
    Fault text body ("required sensor " ++ text.repr req ++ " is not declared in sensors.yaml")
  | walk : body.manifest.locomotionType = .str "biped" → body.Unable "walk" →
    Fault text body "biped locomotion_type but capabilities.locomotion.walk is false"
  | roll (kind : String) : kind ∈ ["differential", "omni", "tracked"] → body.manifest.locomotionType = .str kind →
    body.Unable "roll" → Fault text body (kind ++ " locomotion_type but capabilities.roll is false")
  | ungaited : body.manifest.locomotionType = .str "biped" → body.manifest.gaitPolicy = none →
    Fault text body "biped body has no gait_policy declared"
  | gait (gp : GaitPolicySpec) (issue : String) : body.manifest.locomotionType = .str "biped" →
    body.manifest.gaitPolicy = some gp → GaitFault text body gp issue → Fault text body issue
  | signature : body.Unsigned text → Fault text body Package.LoadedBody.signatureIssue

variable {text : PyText} {body : LoadedBody}

private theorem isKey_iff {key : String} {v : PyVal} : v.isKey key = true ↔ v = .str key := by
  cases v <;> simp [PyVal.isKey]

private theorem isFalse_iff {v : Option PyVal} : Capabilities.isFalse v = true ↔ v = some (.bool false) := by
  rcases v with _ | v
  · simp [Capabilities.isFalse]
  · cases v <;> simp [Capabilities.isFalse]

private theorem mem_ite_singleton {c : Prop} [Decidable c] {issue said : String} :
    issue ∈ (if c then [said] else []) ↔ c ∧ issue = said := by
  split
  · simp_all
  · simp_all

private theorem mem_gaitIssues (issue : String) : issue ∈ body.gaitIssues text ↔
    (body.manifest.gaitPolicy = none ∧ issue = "biped body has no gait_policy declared") ∨
      ∃ gp, body.manifest.gaitPolicy = some gp ∧ GaitFault text body gp issue := by
  unfold LoadedBody.gaitIssues
  cases policy : body.manifest.gaitPolicy with
  | none => simp
  | some gp =>
    dsimp only
    rw [List.mem_append, List.mem_append, mem_ite_singleton, mem_ite_singleton, isKey_iff]
    constructor
    · rintro ((unchecked | ⟨⟨given, other⟩, rfl⟩) | ⟨⟨physical, unapproved⟩, rfl⟩)
      · split at unchecked
        · cases unchecked
        · rename_i blank
          obtain rfl := List.mem_singleton.mp unchecked
          exact .inr ⟨gp, rfl, .unchecked (Bool.eq_false_iff.mpr blank)⟩
      · exact .inr ⟨gp, rfl, .revision given other⟩
      · exact .inr ⟨gp, rfl, .unapproved physical unapproved⟩
    · rintro (⟨absent, -⟩ | ⟨gp', same, fault⟩)
      · cases absent
      · cases same
        cases fault with
        | unchecked blank => exact .inl (.inl (by simp [blank]))
        | revision given other => exact .inl (.inr ⟨⟨given, other⟩, rfl⟩)
        | unapproved physical unapproved => exact .inr ⟨⟨physical, unapproved⟩, rfl⟩

private theorem mem_undeclared {missing : List PyVal} (found : body.undeclared = .ok missing) (req : PyVal) :
    req ∈ missing ↔ req ∈ body.manifest.requiredSensors ∧ ∀ sensor ∈ body.sensors, sameKey sensor.id req = false := by
  unfold LoadedBody.undeclared at found
  split at found
  · cases found
    rw [List.mem_filter]
    simp [LoadedBody.sensorIds]
  · cases found

private theorem unsigned_iff {flag : Bool} (asked : body.signatureIsPlaceholder text = .ok flag) :
    flag = true ↔ body.Unsigned text := by
  unfold LoadedBody.signatureIsPlaceholder at asked
  unfold LoadedBody.Unsigned
  cases signed : body.manifest.signature.truthy with
  | false =>
    rw [signed] at asked
    cases asked
    simp
  | true =>
    rw [signed] at asked
    obtain ⟨value, given, said⟩ := except_bind_ok asked
    cases said
    simp [given]

/-- The issues of a body are what is wrong with it. -/
theorem mem_issues {issues : List String} (validates : body.staticValidate text = .ok issues) (issue : String) :
    issue ∈ issues ↔ Fault text body issue := by
  obtain ⟨missing, undeclared, rest⟩ := except_bind_ok validates
  obtain ⟨modes, able, rest⟩ := except_bind_ok rest
  obtain ⟨unsigned, signature, rest⟩ := except_bind_ok rest
  have unable (mode : String) : Capabilities.isFalse (PyVal.lookup mode modes) = true ↔ body.Unable mode := by
    rw [isFalse_iff]
    constructor
    · exact fun refused => ⟨modes, able, refused⟩
    · rintro ⟨modes', able', refused⟩
      rw [able] at able'
      cases able'
      exact refused
  cases rest
  simp only [List.mem_append, mem_ite_singleton, List.mem_map, mem_undeclared undeclared, isKey_iff, unable,
    unsigned_iff signature]
  constructor
  · rintro ((((⟨req, ⟨required, missing⟩, rfl⟩ | ⟨⟨biped, refused⟩, rfl⟩) | ⟨⟨rolls, refused⟩, rfl⟩) | gait) | ⟨unsigned, rfl⟩)
    · exact .undeclared req required missing
    · exact .walk biped refused
    · obtain ⟨kind, among, is_kind⟩ := List.any_eq_true.mp rolls
      rw [isKey_iff.mp is_kind]
      exact .roll kind among (isKey_iff.mp is_kind) refused
    · split at gait
      · have biped := isKey_iff.mp ‹_›
        rcases (mem_gaitIssues issue).mp gait with ⟨absent, rfl⟩ | ⟨gp, policy, fault⟩
        · exact .ungaited biped absent
        · exact .gait gp issue biped policy fault
      · cases gait
    · exact .signature unsigned
  · intro fault
    cases fault with
    | undeclared req required missing => exact .inl (.inl (.inl (.inl ⟨req, ⟨required, missing⟩, rfl⟩)))
    | walk biped refused => exact .inl (.inl (.inl (.inr ⟨⟨biped, refused⟩, rfl⟩)))
    | roll kind among is_kind refused =>
      refine .inl (.inl (.inr ⟨⟨List.any_eq_true.mpr ⟨kind, among, isKey_iff.mpr is_kind⟩, refused⟩, ?_⟩))
      rw [is_kind]
      rfl
    | ungaited biped absent =>
      refine .inl (.inr ?_)
      rw [if_pos (isKey_iff.mpr biped)]
      exact (mem_gaitIssues _).mpr (.inl ⟨absent, rfl⟩)
    | gait gp issue biped policy fault =>
      refine .inl (.inr ?_)
      rw [if_pos (isKey_iff.mpr biped)]
      exact (mem_gaitIssues _).mpr (.inr ⟨gp, policy, fault⟩)
    | signature unsigned => exact .inr ⟨unsigned, rfl⟩

/-! What is loaded. -/

/-- The steps of a load that comes to an end. -/
theorem load_ok {yaml : YamlText} {bodies : Bodies} {bodyId backendKind : PyVal}
    (loads : load yaml bodies bodyId backendKind = .ok body) :
    ∃ read issues directory files, LoadedBody.read yaml directory files backendKind = .ok read ∧
      read.staticValidate yaml.toPyText = .ok issues ∧ body = { read with issues := issues } := by
  unfold load at loads
  split at loads
  · split at loads
    · cases loads
    · obtain ⟨read, reads, rest⟩ := except_bind_ok loads
      obtain ⟨issues, validates, rest⟩ := except_bind_ok rest
      cases rest
      exact ⟨read, issues, _, _, reads, validates, rfl⟩
  · cases loads

theorem manifest_locomotion {yaml : YamlText} {directory : String} {files : Files} {manifest : BodyManifest}
    (loads : BodyManifest.load yaml directory files = .ok manifest) :
    ∃ kind ∈ validLocomotion, manifest.locomotionType = .str kind := by
  unfold BodyManifest.load at loads
  split at loads
  · cases loads
  · obtain ⟨data, parsed, rest⟩ := except_bind_ok loads
    cases data with
    | dict items =>
      obtain ⟨taken, fields, rest⟩ := except_bind_ok rest
      split_ifs at rest with hashes valid
      cases rest
      obtain ⟨kind, among, is_kind⟩ := List.any_eq_true.mp valid
      exact ⟨kind, among, isKey_iff.mp is_kind⟩
    | _ => cases rest

/-- A body that is loaded moves in one of the ways there are. -/
theorem load_locomotion {yaml : YamlText} {bodies : Bodies} {bodyId backendKind : PyVal}
    (loads : load yaml bodies bodyId backendKind = .ok body) :
    ∃ kind ∈ validLocomotion, body.manifest.locomotionType = .str kind := by
  obtain ⟨read, issues, directory, files, reads, -, rfl⟩ := load_ok loads
  obtain ⟨manifest, manifested, rest⟩ := except_bind_ok reads
  obtain ⟨caps, -, rest⟩ := except_bind_ok rest
  obtain ⟨doc, -, rest⟩ := except_bind_ok rest
  obtain ⟨bounds, -, rest⟩ := except_bind_ok rest
  obtain ⟨doc', -, rest⟩ := except_bind_ok rest
  obtain ⟨items, -, rest⟩ := except_bind_ok rest
  obtain ⟨sensors, -, rest⟩ := except_bind_ok rest
  obtain ⟨controllers, -, rest⟩ := except_bind_ok rest
  obtain ⟨rules, -, rest⟩ := except_bind_ok rest
  cases rest
  exact manifest_locomotion manifested

theorem load_validated {yaml : YamlText} {bodies : Bodies} {bodyId backendKind : PyVal}
    (loads : load yaml bodies bodyId backendKind = .ok body) : body.staticValidate yaml.toPyText = .ok body.issues := by
  obtain ⟨read, issues, directory, files, -, validates, rfl⟩ := load_ok loads
  exact validates

/-- Its issues are what is wrong with it. -/
theorem load_issues {yaml : YamlText} {bodies : Bodies} {bodyId backendKind : PyVal}
    (loads : load yaml bodies bodyId backendKind = .ok body) (issue : String) :
    issue ∈ body.issues ↔ Fault yaml.toPyText body issue :=
  mem_issues (load_validated loads) issue

/-! Bodies whose names are texts. -/

structure SamePolicy (gp : GaitPolicySpec) (gp' : Package.GaitPolicySpec) : Prop where
  file : gp.file = .str gp'.file
  checksum : gp.checksum = .str gp'.checksum
  controlRateHz : gp.controlRateHz = gp'.controlRateHz
  supportedBodyRevision : gp.supportedBodyRevision = gp'.supportedBodyRevision
  approvedForPhysical : gp.approvedForPhysical = gp'.approvedForPhysical

structure SameSensor (sensor : SensorSpec) (sensor' : Package.SensorSpec) : Prop where
  id : sensor.id = .str sensor'.id
  type : sensor.type = .str sensor'.type
  rateHz : sensor.rateHz = sensor'.rateHz

def kindName : Package.BackendKind → String
  | .simulation => "simulation"
  | .physical => "physical"

/-- The two are one body, whose names are texts. -/
structure SameBody (body : LoadedBody) (body' : Package.LoadedBody) : Prop where
  bodyId : body.manifest.bodyId = .str body'.manifest.bodyId
  name : body.manifest.name = .str body'.manifest.name
  revision : body.manifest.revision = body'.manifest.revision
  locomotionType : body.manifest.locomotionType = .str body'.manifest.locomotionType
  requiredSensors : body.manifest.requiredSensors = body'.manifest.requiredSensors.map .str
  requiredActuators : body.manifest.requiredActuators = body'.manifest.requiredActuators.map .str
  gaitPolicy : Option.Rel SamePolicy body.manifest.gaitPolicy body'.manifest.gaitPolicy
  signature : body.manifest.signature = body'.manifest.signature
  capabilities : body.capabilities = body'.capabilities
  limits : body.limits = body'.limits
  sensors : List.Forall₂ SameSensor body.sensors body'.sensors
  backendKind : body.backendKind = .str (kindName body'.backendKind)
  issues : body.issues = body'.issues

variable {body' : Package.LoadedBody}

private theorem same_ids (same : SameBody body body') : body.sensorIds = body'.sensorIds.map .str := by
  rw [LoadedBody.sensorIds, Package.LoadedBody.sensorIds]
  have each := same.sensors
  generalize body.sensors = sensors at each
  generalize body'.sensors = sensors' at each
  induction each with
  | nil => rfl
  | cons first _ ih => rw [List.map_cons, List.map_cons, List.map_cons, first.id, ih]

private theorem same_undeclared (same : SameBody body body') : body.undeclared =
    .ok ((body'.manifest.requiredSensors.filter fun req => decide (req ∉ body'.sensorIds)).map .str) := by
  have hashable (names : List String) : (names.map PyVal.str).all PyVal.hashable = true := by
    simp [PyVal.hashable]
  have declared (req : String) : (!(body'.sensorIds.map PyVal.str).any fun id => sameKey id (.str req)) =
      decide (req ∉ body'.sensorIds) := by
    rw [Bool.eq_iff_iff, Bool.not_eq_true', ← Bool.not_eq_true, decide_eq_true_iff, List.any_eq_true]
    simp [sameKey_text]
  rw [LoadedBody.undeclared, same_ids same, same.requiredSensors, hashable, hashable, Bool.and_self, if_pos rfl,
    List.filter_map]
  congr 2
  refine List.filter_congr fun req _ => ?_
  exact declared req

private theorem same_gaitIssues (same : SameBody body body') : body.gaitIssues text = body'.gaitIssues text := by
  have physical : (body.backendKind.isKey "physical" = true) = (body'.backendKind = .physical) := by
    rw [same.backendKind, isKey_iff, eq_iff_iff]
    cases body'.backendKind <;> simp [kindName]
  unfold LoadedBody.gaitIssues Package.LoadedBody.gaitIssues
  rcases policies : body.manifest.gaitPolicy with _ | gp <;> rcases policies' : body'.manifest.gaitPolicy with _ | gp'
  · rfl
  · have pair := same.gaitPolicy
    rw [policies, policies'] at pair
    cases pair
  · have pair := same.gaitPolicy
    rw [policies, policies'] at pair
    cases pair
  · have pair := same.gaitPolicy
    rw [policies, policies'] at pair
    obtain ⟨alike⟩ := pair
    dsimp only
    rw [alike.checksum, alike.supportedBodyRevision, alike.approvedForPhysical, same.revision]
    have unchecked : (PyVal.str gp'.checksum).truthy = true ↔ ¬ gp'.checksum = "" := by simp [PyVal.truthy]
    simp only [physical, unchecked, ite_not]

private theorem same_signature (same : SameBody body body') :
    body.signatureIsPlaceholder text = body'.signatureIsPlaceholder text := by
  rw [LoadedBody.signatureIsPlaceholder, Package.LoadedBody.signatureIsPlaceholder, same.signature]

/-- Validation says the same of both. -/
theorem same_validate (same : SameBody body body') : body.staticValidate text = body'.staticValidate text := by
  unfold LoadedBody.staticValidate Package.LoadedBody.staticValidate
  have kinds (kinds : List String) : ((kinds.any fun kind => (PyVal.str body'.manifest.locomotionType).isKey kind) = true) =
      (body'.manifest.locomotionType ∈ kinds) := by
    rw [eq_iff_iff, List.any_eq_true]
    simp [PyVal.isKey]
  have biped : ((PyVal.str body'.manifest.locomotionType).isKey "biped" = true) =
      (body'.manifest.locomotionType = "biped") := by
    rw [eq_iff_iff]
    simp [PyVal.isKey]
  rw [same_undeclared same, same_signature same, same_gaitIssues same, same.capabilities]
  simp only [same.locomotionType, kinds, biped, LoadedBody.shown, bind, Except.bind, List.map_map]
  rfl

end DroidOs.Body.Loader
