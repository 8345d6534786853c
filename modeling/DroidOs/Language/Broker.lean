/- GID: DroidOs/Language/Broker
   generality: I
   source: src/droidos/language/broker.py
   digest: The gate that every proposed intent passes before it reaches the executive. -/

import DroidOs.Executive.RunIntent

set_option autoImplicit false
set_option relaxedAutoImplicit false

namespace DroidOs.Language.Broker

open DroidOs.Lib.Procedure
open DroidOs.Core.Values DroidOs.Core.States DroidOs.Core.Context
open DroidOs.Services.Lifecycle DroidOs.Services.Supervisor
open Intent

inductive Outcome
  | approved | rejected | confirm
  deriving DecidableEq

def Outcome.value : Outcome → String
  | approved => "approved"
  | rejected => "rejected"
  | confirm => "confirmation_required"

structure Check where
  name : String
  ok : Bool
  detail : String := ""

structure BrokerDecision where
  outcome : Outcome
  intent : StructuredIntent
  tool : Option ToolSpec := none
  reason : String := ""
  confirmPrompt : String := ""
  checks : List Check := []

variable {ε : Type} (svc : Services ε) (reg : Registry (Runtime ε))

/-- `_capability_ok`. -/
def capabilityOk (tool : ToolSpec) : Except Exn (Bool × String) := do
  let caps := svc.body.capabilities
  match tool.requiredCapability with
  | none => return (true, "no capability required")
  | some cap =>
    if cap = "locomotion" then
      if ← caps.supportsMotion then return (true, "locomotion available")
      else return (false, "this body (" ++ svc.body.name ++
        ") cannot move; it has no locomotion capability")
    else if ← caps.hasPerception cap then return (true, cap ++ " available")
    else if ← caps.hasManipulation cap then return (true, cap ++ " available")
    else return (false, "this body does not have " ++
      String.ofList (cap.toList.map fun c => if c = '_' then ' ' else c))

/-- The destination that a motion tool is asked to go to. -/
def destinationOf (tool : ToolSpec) (intent : StructuredIntent) : Except Exn PyVal :=
  if tool.name = "navigation.go_charge" then .ok (.str "charging station")
  else intent.arguments.get "destination" .none

/-- `_destination_ok`. -/
def destinationOk (intent : StructuredIntent) (tool : ToolSpec) : Proc ε Exn (Bool × String) := do
  let dest ← ofExcept (destinationOf tool intent)
  if !dest.truthy then
    if tool.name = "inspect.named_target" then return (true, "inspect in current position")
    else return (false, "no destination was specified")
  match ← svc.resolve dest with
  | none =>
    let places ← svc.knownPlaces
    let known := if places.isEmpty then "none" else ", ".intercalate places
    return (false, svc.text.repr dest ++ " is not a known destination. Known places: " ++ known)
  | some _ =>
    let (traversable, reason) ← svc.traversable dest
    if traversable then return (true, svc.text.str dest ++ " is reachable")
    else return (false, reason)

/-- `_motion_permitted` asks the readiness assessment, not the state machine. -/
def motionPermitted : Proc (Brain ε) Exn (Bool × String) := do
  let readiness ← assessReadiness svc reg
  if readiness.state ∈ DroidState.motionAllowedFrom then return (true, "motion permitted")
  let reasons := if readiness.inhibitReasons.isEmpty then ["state is " ++ readiness.state.value]
    else readiness.inhibitReasons
  return (false, "; ".intercalate reasons)

/-- The items of the arguments, which must be a mapping. -/
private def argumentItems (intent : StructuredIntent) : Except Exn Items :=
  match intent.arguments with
  | .dict items => .ok items
  | _ => .error ⟨.attributeError, "object has no attribute 'items'"⟩

/-- `_confirm_prompt`. -/
def confirmPrompt (tool : ToolSpec) (intent : StructuredIntent) : Except Exn String := do
  let items ← argumentItems intent
  let args := ", ".intercalate
    (items.map fun item => svc.text.str item.1 ++ "=" ++ svc.text.str item.2)
  let detail := if args = "" then "" else " (" ++ args ++ ")"
  let what := if tool.description = "" then tool.name else tool.description
  return "This will " ++ what ++ detail ++ ". Confirm? [yes/no]"

/-- `bool(dest) and nav.resolve(dest) is None`. -/
def unresolved (dest : PyVal) : Proc ε Exn Bool :=
  if dest.truthy then do
    let place ← svc.resolve dest
    return place.isNone
  else pure false

def personalWords : List String :=
  ["my name", "i am ", "person", "phone", "address", "password"]

/-- `_needs_confirmation`. -/
def needsConfirmation (tool : ToolSpec) (intent : StructuredIntent) :
    Proc ε Exn (Bool × String) := do
  let confirm : Proc ε Exn (Bool × String) := do
    return (true, ← ofExcept (confirmPrompt svc tool intent))
  match tool.confirmation with
  | .none => return (false, "")
  | .required => confirm
  | .conditional =>
    if tool.risk = .motion then
      let dest ← ofExcept (intent.arguments.get "destination" (.str ""))
      let nearStairs := containsText "stair" (svc.text.lower (svc.text.str dest))
      let newlyDiscovered ← unresolved svc dest
      if nearStairs || newlyDiscovered || !intent.requestedSpeed.isKey "cautious" then confirm
      else return (false, "")
    else if tool.name = "memory.remember" ∨ tool.name = "memory.store_place" then
      let items ← ofExcept (argumentItems intent)
      let said := svc.text.lower (" ".intercalate (items.map fun item => svc.text.str item.2))
      if personalWords.any fun w => containsText w said then confirm else return (false, "")
    else return (false, "")

/-- The two checks that only a tool with motion is put to. -/
def motionChecks (intent : StructuredIntent) (tool : ToolSpec) :
    Proc (Brain ε) Exn (List Check × Option String) := do
  if !tool.requiresMotion then return ([], none)
  let (known, whither) ← onRt (outside (destinationOk svc intent tool))
  let destination : Check := ⟨"destination", known, whither⟩
  if !known then return ([destination], some whither)
  let (permitted, reason) ← motionPermitted svc reg
  let permission : Check := ⟨"motion_permitted", permitted, reason⟩
  return ([destination, permission], if permitted then none else some reason)

/-- `validate`. -/
def validate (intent : StructuredIntent) (user : User) (confirmed : Bool) :
    Proc (Brain ε) Exn BrokerDecision := do
  match getTool intent.intent with
  | none =>
    let reason := if intent.intent = "unknown" then "I did not understand that request."
      else "I do not have a registered action for that request."
    let checks : List Check := [⟨"registered", false, intent.intent⟩]
    return { outcome := .rejected, intent := intent, reason := reason, checks := checks }
  | some tool =>
    let checks : List Check := [⟨"registered", true, tool.name⟩]
    let decide := fun outcome reason checks => BrokerDecision.mk outcome intent (some tool) reason "" checks
    if tool.alwaysAvailable then
      return decide .approved "approved" (checks ++ [⟨"always_available", true, ""⟩])
    let (authorized, detail) := Authorizer.authorize user tool.minRoleRank
    let checks := checks ++ [⟨"authorization", authorized, detail⟩]
    if !authorized then return decide .rejected detail checks
    let (capable, reason) ← ofExcept (capabilityOk svc tool)
    let checks := checks ++ [⟨"capability", capable, reason⟩]
    if !capable then return decide .rejected reason checks
    let (more, refused) ← motionChecks svc reg intent tool
    let checks := checks ++ more
    match refused with
    | some reason => return decide .rejected reason checks
    | none =>
      let (needed, prompt) ← onRt (outside (needsConfirmation svc tool intent))
      let detail := if needed then prompt else "not required"
      let checks := checks ++ [⟨"confirmation", !needed, detail⟩]
      if needed && !confirmed then
        return { decide .confirm "confirmation required" checks with confirmPrompt := prompt }
      else return decide .approved "approved" checks

/-! Arguments that are a mapping. -/

section

variable {svc} {tool : ToolSpec} {intent : StructuredIntent} {items : Items}
variable (mapping : intent.arguments = .dict items)
include mapping

theorem confirmPrompt_returns : ∃ prompt, confirmPrompt svc tool intent = .ok prompt := by
  unfold confirmPrompt argumentItems
  rw [mapping]
  exact ⟨_, rfl⟩

theorem destinationOf_returns : ∃ dest, destinationOf tool intent = .ok dest := by
  unfold destinationOf
  rw [mapping]
  exact except_ite_returns (fun _ => ⟨_, rfl⟩) fun _ => ⟨_, rfl⟩

/-- The arguments mention something personal. -/
def personal (text : PyText) (items : Items) : Bool :=
  personalWords.any fun w => containsText w (text.lower (" ".intercalate (items.map fun item => text.str item.2)))

/-- A memory is confirmed if it mentions something personal. -/
theorem needsConfirmation_memory (conditional : tool.confirmation = .conditional) (still : tool.risk ≠ .motion)
    (memory : tool.name = "memory.remember" ∨ tool.name = "memory.store_place") (w : ε) :
    ∃ prompt, (needsConfirmation svc tool intent w).1 = .ok (personal svc.text items, prompt) := by
  obtain ⟨prompt, prompted⟩ := @confirmPrompt_returns _ svc tool intent items mapping
  unfold needsConfirmation argumentItems
  rw [conditional, mapping, prompted]
  dsimp only
  rw [if_neg still, if_pos memory]
  change ∃ prompt, ((if personal svc.text items = true then _ else _ : Proc ε Exn (Bool × String)) w).1 = _
  cases personal svc.text items with
  | true => exact ⟨prompt, rfl⟩
  | false => exact ⟨"", rfl⟩

/-- The broker knows whether to ask back if places can be looked up. -/
theorem needsConfirmation_returns (resolves : ∀ dest w, ∃ place, (svc.resolve dest w).1 = .ok place) (w : ε) :
    ∃ answer, (needsConfirmation svc tool intent w).1 = .ok answer := by
  obtain ⟨prompt, prompted⟩ := @confirmPrompt_returns _ svc tool intent items mapping
  have asks (c : Bool) (w : ε) : ∃ answer, ((if c = true then do
      return (true, ← ofExcept (.ok prompt)) else return (false, "") : Proc ε Exn (Bool × String))
        w).1 = .ok answer := by
    cases c with
    | true => exact ⟨(true, prompt), rfl⟩
    | false => exact ⟨(false, ""), rfl⟩
  unfold needsConfirmation argumentItems
  rw [mapping, prompted]
  cases tool.confirmation with
  | none => exact ⟨(false, ""), rfl⟩
  | required => exact ⟨(true, prompt), rfl⟩
  | conditional =>
    dsimp only
    split
    case isTrue moves =>
      have looked (dest : PyVal) : ∃ new, (unresolved svc dest w).1 = .ok new := by
        unfold unresolved
        split
        · obtain ⟨place, found⟩ := resolves dest w
          exact ⟨_, bind_returns_iff.mpr ⟨place, found, rfl⟩⟩
        · exact ⟨false, rfl⟩
      obtain ⟨new, found⟩ := looked ((PyVal.lookup "destination" items).getD (.str ""))
      obtain ⟨answer, asked⟩ := asks _ _
      exact ⟨answer, bind_returns_iff.mpr ⟨_, rfl, bind_returns_iff.mpr ⟨new, found, asked⟩⟩⟩
    case isFalse still =>
      split
      case isTrue memory => exact asks _ w
      case isFalse other => exact ⟨(false, ""), rfl⟩

end

end DroidOs.Language.Broker
