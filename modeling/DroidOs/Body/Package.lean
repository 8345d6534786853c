/- GID: DroidOs/Body/Package
   generality: I
   source: src/droidos/body/manifest.py, src/droidos/body/capabilities.py, src/droidos/body/loader.py
   digest: A loaded body package, what it can do, its limits and its static validation. -/

import DroidOs.Core.Values

set_option autoImplicit false
set_option relaxedAutoImplicit false

namespace DroidOs.Body.Package

open DroidOs.Core.Values

structure SensorSpec where
  id : String
  type : String
  rateHz : PyFloat := 0

/-- `s.startswith(head)`. -/
def startsWith (head s : String) : Bool := head.toList.isPrefixOf s.toList

def SensorSpec.isLidar (s : SensorSpec) : Bool := startsWith "lidar" s.type

/-- The sections of limits.yaml, each whatever the document holds. -/
structure BodyLimits where
  battery : PyVal := .dict []
  thermal : PyVal := .dict []
  velocity : PyVal := .dict []
  joints : PyVal := .dict []

namespace BodyLimits

variable (text : PyText) (limits : BodyLimits)

/-- `float(section.get(key, default))`. -/
private def number (section_ : PyVal) (key : String) (default : PyFloat) : Except Exn PyFloat := do
  text.float (← section_.get key (.float default))

/-- `float(section.get(key, 0.0) or 0.0)`. -/
private def numberOrZero (section_ : PyVal) (key : String) : Except Exn PyFloat := do
  text.float ((← section_.get key (.float 0)).orElse (.float 0))

def batteryMotionMinimum : Except Exn PyFloat :=
  number text limits.battery "motion_minimum_percent" 20

def motorFaultTemp : Except Exn PyFloat := number text limits.thermal "motor_fault_temp_c" 85

def motorWarnTemp : Except Exn PyFloat := number text limits.thermal "motor_warn_temp_c" 70

def maxLinear : Except Exn PyFloat := numberOrZero text limits.velocity "max_linear_mps"

def maxAngular : Except Exn PyFloat := numberOrZero text limits.velocity "max_angular_rps"

end BodyLimits

/-- The number that a section declares under a key. -/
def declaredNumber (section_ : PyVal) (key : String) : Option PyFloat := do
  let .dict items := section_ | none
  (← PyVal.lookup key items).number.toOption

structure GaitPolicySpec where
  file : String
  checksum : String := ""
  controlRateHz : PyFloat := 0
  supportedBodyRevision : String := ""
  approvedForPhysical : Bool := false

structure BodyManifest where
  bodyId : String
  name : String
  revision : String
  locomotionType : String
  requiredSensors : List String := []
  requiredActuators : List String := []
  gaitPolicy : Option GaitPolicySpec := none
  signature : PyVal := .dict []

structure Capabilities where
  raw : PyVal := .dict []

namespace Capabilities

variable (caps : Capabilities)

/-- A category that is not a mapping counts as empty. -/
def category (name : String) : Except Exn (List (PyVal × PyVal)) := do
  match ← caps.raw.get name (.dict []) with
  | .dict items => return items
  | _ => return []

/-- `self.category(category).get(key)`. -/
def lookup (category key : String) : Except Exn (Option PyVal) := do
  return PyVal.lookup key (← caps.category category)

/-- `value is True`. -/
def isTrue : Option PyVal → Bool
  | some (.bool b) => b
  | _ => false

/-- `value is False`. -/
def isFalse : Option PyVal → Bool
  | some (.bool b) => !b
  | _ => false

def can (mode : String) : Except Exn Bool := do
  return isTrue (← caps.lookup "locomotion" mode)

def supportsMotion : Except Exn Bool := do
  if ← caps.can "walk" then return true else caps.can "roll"

def maxSpeed (text : PyText) : Except Exn PyFloat := do
  text.float (((← caps.lookup "locomotion" "maximum_speed_mps").getD (.float 0)).orElse (.float 0))

def hasPerception (key : String) : Except Exn Bool := do
  return ((← caps.lookup "perception" key).getD (.bool false)).truthy

def hasManipulation (key : String) : Except Exn Bool := do
  return ((← caps.lookup "manipulation" key).getD (.bool false)).truthy

variable {caps}

/-! Capabilities that are a mapping can be asked for. -/

section

variable {items : List (PyVal × PyVal)} (mapping : caps.raw = .dict items)
include mapping

theorem lookup_returns (category key : String) : ∃ value, caps.lookup category key = .ok value := by
  unfold lookup Capabilities.category
  rw [mapping, PyVal.get]
  refine except_bind_returns (except_bind_known rfl ?_) fun found => ⟨_, rfl⟩
  cases (PyVal.lookup category items).getD (.dict []) <;> exact ⟨_, rfl⟩

theorem can_returns (mode : String) : ∃ able, caps.can mode = .ok able :=
  except_bind_returns (lookup_returns mapping "locomotion" mode) fun _ => ⟨_, rfl⟩

theorem supportsMotion_returns : ∃ able, caps.supportsMotion = .ok able := by
  refine except_bind_returns (can_returns mapping "walk") fun walks => ?_
  exact except_ite_returns (fun walking => ⟨_, rfl⟩) fun still => can_returns mapping "roll"

theorem hasPerception_returns (key : String) : ∃ has, caps.hasPerception key = .ok has :=
  except_bind_returns (lookup_returns mapping "perception" key) fun _ => ⟨_, rfl⟩

theorem hasManipulation_returns (key : String) : ∃ has, caps.hasManipulation key = .ok has :=
  except_bind_returns (lookup_returns mapping "manipulation" key) fun _ => ⟨_, rfl⟩

end

/-- And no others. -/
theorem mapping_of_lookup {category key : String} {value : Option PyVal} (found : caps.lookup category key = .ok value) :
    ∃ items, caps.raw = .dict items := by
  obtain ⟨listed, found, -⟩ := except_bind_ok found
  obtain ⟨section_, found, -⟩ := except_bind_ok found
  cases raw : caps.raw with
  | dict items => exact ⟨items, rfl⟩
  | _ =>
    rw [raw] at found
    cases found

theorem mapping_of_supportsMotion {able : Bool} (moves : caps.supportsMotion = .ok able) :
    ∃ items, caps.raw = .dict items := by
  obtain ⟨walks, walking, -⟩ := except_bind_ok moves
  obtain ⟨value, found, -⟩ := except_bind_ok walking
  exact mapping_of_lookup found

end Capabilities

inductive BackendKind
  | simulation | physical
  deriving DecidableEq

structure LoadedBody where
  manifest : BodyManifest
  capabilities : Capabilities := {}
  limits : BodyLimits := {}
  sensors : List SensorSpec := []
  backendKind : BackendKind := .simulation
  issues : List String := []

namespace LoadedBody

variable (text : PyText) (body : LoadedBody)

def bodyId : String := body.manifest.bodyId
def name : String := body.manifest.name
def sensorIds : List String := body.sensors.map SensorSpec.id

/-- The gait-policy part of `_static_validate`. -/
def gaitIssues : List String :=
  match body.manifest.gaitPolicy with
  | none => ["biped body has no gait_policy declared"]
  | some gp =>
    (if gp.checksum = "" then ["gait policy has no checksum"] else []) ++
    (if gp.supportedBodyRevision ≠ "" ∧ gp.supportedBodyRevision ≠ body.manifest.revision then
      ["gait policy is for revision " ++ text.repr (.str gp.supportedBodyRevision) ++
        ", body is " ++ text.repr (.str body.manifest.revision)] else []) ++
    (if body.backendKind = .physical ∧ gp.approvedForPhysical = false then
      ["gait policy is not approved for physical operation"] else [])

/-- `not m.signature or str(m.signature.get("value", "")).startswith("PLACEHOLDER")`. -/
def signatureIsPlaceholder : Except Exn Bool := do
  if !body.manifest.signature.truthy then return true
  let value ← body.manifest.signature.get "value" (.str "")
  return startsWith "PLACEHOLDER" (text.str value)

def signatureIssue : String :=
  "body signature is a placeholder (not verified in reference build)"

/-- `_static_validate`: the checks that need no live backend. -/
def staticValidate : Except Exn (List String) := do
  let m := body.manifest
  let undeclared := (m.requiredSensors.filter fun req => decide (req ∉ body.sensorIds)).map
    fun req => "required sensor " ++ text.repr (.str req) ++ " is not declared in sensors.yaml"
  let loco ← body.capabilities.category "locomotion"
  let walk :=
    if m.locomotionType = "biped" ∧ Capabilities.isFalse (PyVal.lookup "walk" loco) = true then
      ["biped locomotion_type but capabilities.locomotion.walk is false"] else []
  let roll :=
    if m.locomotionType ∈ ["differential", "omni", "tracked"] ∧
        Capabilities.isFalse (PyVal.lookup "roll" loco) = true then
      [m.locomotionType ++ " locomotion_type but capabilities.roll is false"] else []
  let gait := if m.locomotionType = "biped" then body.gaitIssues text else []
  let signature := if ← body.signatureIsPlaceholder text then [signatureIssue] else []
  return undeclared ++ walk ++ roll ++ gait ++ signature

/-- An issue that inhibits motion: `"placeholder" not in issue`. -/
def isFatal (issue : String) : Bool := !containsText "placeholder" issue

def fatalIssues : List String := body.issues.filter isFatal

/-- The end of `BodyManager.load`: the package with the issues validation found. -/
def validated : Except Exn LoadedBody := do
  return { body with issues := ← body.staticValidate text }

theorem validated_issues {text : PyText} {body loaded : LoadedBody}
    (load : body.validated text = .ok loaded) :
    body.staticValidate text = .ok loaded.issues := by
  unfold validated at load
  rcases found : body.staticValidate text with e | issues
  · rw [found] at load
    cases load
  · rw [found] at load
    cases load
    rfl

/-- The signature issue is the one kind of issue that validation itself writes
without motion being inhibited by it. -/
theorem signatureIssue_not_fatal : isFatal signatureIssue = false := by decide +kernel

end LoadedBody

end DroidOs.Body.Package
