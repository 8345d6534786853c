/- GID: DroidOs/Language/Intent
   generality: I
   source: src/droidos/language/intent.py, src/droidos/language/tools.py, src/droidos/language/auth.py
   digest: Structured intents, the tool registry and the users who ask. -/

import DroidOs.Core.Values

set_option autoImplicit false
set_option relaxedAutoImplicit false

namespace DroidOs.Language.Intent

open DroidOs.Core.Values

/-- A proposal for an action. A language model may put any JSON value into
`arguments` and `requested_speed`. -/
structure StructuredIntent where
  intent : String
  arguments : PyVal := .dict []
  requiresMotion : Bool := false
  requestedSpeed : PyVal := .str "normal"
  requestedOutput : String := "text"
  rawText : String := ""
  source : String := "offline"
  confidence : PyFloat := 1

/-! Users. -/

inductive Role
  | guest | operator | serviceTechnician | owner
  deriving DecidableEq

namespace Role

def value : Role → String
  | guest => "guest"
  | operator => "operator"
  | serviceTechnician => "service_technician"
  | owner => "owner"

def rank : Role → Nat
  | guest => 0
  | operator => 1
  | serviceTechnician => 2
  | owner => 3

end Role

structure User where
  name : String
  role : Role

/-- `_rank_name`. -/
def rankName : Nat → String
  | 0 => "guest"
  | 1 => "operator"
  | 2 => "service technician"
  | _ => "owner"

/-- The configured users by name, with the default user's name. -/
structure Authorizer where
  users : List (String × User)
  defaultUser : String := "operator"

/-- The four canonical roles as identities of their own. -/
def canonicalUsers : List (String × User) :=
  [Role.guest, .operator, .serviceTechnician, .owner].map fun role =>
    (role.value, { name := role.value, role := role })

namespace Authorizer

/-- `users.yaml` entries come first; a canonical role fills a name left open. -/
def lookup (a : Authorizer) (name : String) : Option User :=
  (a.users ++ canonicalUsers).lookup name

def resolve (a : Authorizer) (name : Option String) : User :=
  let default := (a.lookup a.defaultUser).getD { name := "operator", role := .operator }
  match name with
  | none => default
  | some name => if name = "" then default else (a.lookup name).getD default

def authorize (user : User) (minRoleRank : Nat) : Bool × String :=
  if minRoleRank ≤ user.role.rank then (true, "authorized")
  else (false, "requires " ++ rankName minRoleRank ++ " authorization; " ++ user.name ++ " is " ++
    user.role.value)

end Authorizer

/-! Tools. -/

inductive Risk
  | none | motion | dataWrite | administrative
  deriving DecidableEq

inductive Confirm
  | none | conditional | required
  deriving DecidableEq

structure ToolSpec where
  name : String
  risk : Risk := .none
  requiresMotion : Bool := false
  requiredCapability : Option String := Option.none
  confirmation : Confirm := .none
  minRoleRank : Nat := 0
  alwaysAvailable : Bool := false
  description : String := ""

/-- `_default_tools`. -/
def defaultTools : List ToolSpec :=
  [{ name := "robot.get_status", description := "report overall status" },
    { name := "robot.get_battery", description := "report battery level" },
    { name := "robot.get_temperature", description := "report motor temperatures" },
    { name := "diagnostics.summary", description := "summarise health / what is wrong" },
    { name := "robot.explain", description := "explain last task or why motion is disabled" },
    { name := "perception.describe_scene", requiredCapability := some "front_camera",
      description := "describe what the camera sees" },
    { name := "navigation.list_places", description := "list known destinations" },
    { name := "help", alwaysAvailable := true, description := "list available commands" },
    { name := "motion.stop", alwaysAvailable := true, description := "stop immediately" },
    { name := "motion.emergency_stop", alwaysAvailable := true,
      description := "remove motor power immediately" },
    { name := "task.cancel", alwaysAvailable := true, description := "cancel the active task" },
    { name := "voice.silence", alwaysAvailable := true, description := "stop speaking" },
    { name := "robot.return_safe_idle", description := "return to safe idle" },
    { name := "navigation.navigate_to", risk := .motion, requiresMotion := true,
      requiredCapability := some "locomotion", confirmation := .conditional, minRoleRank := 1,
      description := "navigate to a named place" },
    { name := "navigation.go_charge", risk := .motion, requiresMotion := true,
      requiredCapability := some "locomotion", minRoleRank := 1,
      description := "return to the charging station" },
    { name := "inspect.named_target", risk := .motion, requiresMotion := true,
      requiredCapability := some "locomotion", confirmation := .conditional, minRoleRank := 1,
      description := "go to a place and inspect a target" },
    { name := "memory.remember", risk := .dataWrite, confirmation := .conditional,
      minRoleRank := 1, description := "remember a fact" },
    { name := "memory.store_place", risk := .dataWrite, confirmation := .conditional,
      minRoleRank := 1, description := "remember a named place" },
    { name := "memory.forget", risk := .dataWrite, confirmation := .required, minRoleRank := 1,
      description := "delete a memory" },
    { name := "system.set_body", risk := .administrative, confirmation := .required,
      minRoleRank := 3, description := "activate a different body package" },
    { name := "system.install_update", risk := .administrative, confirmation := .required,
      minRoleRank := 3, description := "install a signed update" },
    { name := "system.request_reboot", risk := .administrative, confirmation := .required,
      minRoleRank := 3, description := "reboot the droid" },
    { name := "system.shutdown", risk := .administrative, confirmation := .required,
      minRoleRank := 3, description := "shut down the droid" }]

/-- `ToolRegistry.get`. -/
def getTool (name : String) : Option ToolSpec := defaultTools.find? fun t => t.name = name

/-- A tool that needs motion is not available to guests and not without locomotion. -/
theorem motion_tool_guarded :
    ∀ t ∈ defaultTools, t.requiresMotion = true →
      t.alwaysAvailable = false ∧ t.requiredCapability = some "locomotion" ∧ 1 ≤ t.minRoleRank := by
  decide

end DroidOs.Language.Intent
