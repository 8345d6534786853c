/- GID: DroidOs/Language/Approval
   generality: I
   source: src/droidos/language/broker.py
   digest: What the broker has found out about an intent that it approves. -/

import DroidOs.Language.Broker

set_option autoImplicit false
set_option relaxedAutoImplicit false

namespace DroidOs.Language.Approval

open DroidOs.Lib.Procedure
open DroidOs.Core.Values DroidOs.Core.States DroidOs.Core.Context
open DroidOs.Body.Package.Capabilities
open DroidOs.Services.Lifecycle DroidOs.Services.Supervisor
open Intent Broker

variable {ε : Type} (svc : Services ε) (reg : Registry (Runtime ε))

/-- The checks of a motion tool have passed: its destination is fine, and then the
readiness assessment lets the droid move. -/
structure MayMove (intent : StructuredIntent) (tool : ToolSpec) (m : Brain ε) : Prop where
  destination : ∃ reason, (onRt (outside (destinationOk svc intent tool)) m).1 = .ok (true, reason)
  ready : ∃ r, (assessReadiness svc reg (onRt (outside (destinationOk svc intent tool)) m).2).1 = .ok r ∧
    r.state ∈ DroidState.motionAllowedFrom

/-- Everything has passed that a tool is put to which is not always available. -/
structure Cleared (intent : StructuredIntent) (user : User) (confirmed : Bool) (tool : ToolSpec)
    (m : Brain ε) : Prop where
  rank : tool.minRoleRank ≤ user.role.rank
  capable : ∃ reason, capabilityOk svc tool = .ok (true, reason)
  motion : tool.requiresMotion = true → MayMove svc reg intent tool m
  confirmation : ∀ prompt, (onRt (outside (needsConfirmation svc tool intent))
    (motionChecks svc reg intent tool m).2).1 = .ok (true, prompt) → confirmed = true

/-- What the broker asks about a tool that is not always available, it gets an answer to. -/
structure Answered (intent : StructuredIntent) (tool : ToolSpec) (m : Brain ε) : Prop where
  capability : ∃ able, capabilityOk svc tool = .ok able
  motion : ∀ reason, capabilityOk svc tool = .ok (true, reason) →
    ∃ found, (motionChecks svc reg intent tool m).1 = .ok found
  confirmation : ∀ reason, capabilityOk svc tool = .ok (true, reason) → ∀ checks,
    (motionChecks svc reg intent tool m).1 = .ok (checks, none) →
      ∃ answer, (onRt (outside (needsConfirmation svc tool intent)) (motionChecks svc reg intent tool m).2).1 = .ok answer

variable {svc reg} {intent : StructuredIntent} {user : User} {confirmed : Bool} {m : Brain ε}

private theorem authorize_ok {minRoleRank : Nat}
    (authorized : (Authorizer.authorize user minRoleRank).1 = true) : minRoleRank ≤ user.role.rank := by
  unfold Authorizer.authorize at authorized
  by_contra below
  rw [if_neg below] at authorized
  cases authorized

/-- The gate lets a motion task through exactly when the assessment lets the droid move. -/
theorem motionPermitted_iff (m : Brain ε) :
    (∃ reason, (motionPermitted svc reg m).1 = .ok (true, reason)) ↔
      ∃ r, (assessReadiness svc reg m).1 = .ok r ∧ r.state ∈ DroidState.motionAllowedFrom := by
  unfold motionPermitted
  rcases run : assessReadiness svc reg m with ⟨e | r, m'⟩
  · rw [bind_error run]
    simp
  · rw [bind_ok run]
    by_cases allowed : r.state ∈ DroidState.motionAllowedFrom
    · rw [if_pos allowed]
      simp [allowed]
    · rw [if_neg allowed]
      simp [allowed]

private theorem motionChecks_passed {tool : ToolSpec} {checks : List Check} {m' : Brain ε}
    (passed : motionChecks svc reg intent tool m = (.ok (checks, none), m'))
    (moves : tool.requiresMotion = true) : MayMove svc reg intent tool m := by
  unfold motionChecks at passed
  rw [if_neg (by simp [moves])] at passed
  rcases where_ : onRt (outside (destinationOk svc intent tool)) m with ⟨e | ⟨known, whither⟩, m₁⟩
  · rw [bind_error where_] at passed
    cases passed
  rw [bind_ok where_] at passed
  cases known with
  | false => cases passed
  | true =>
    refine ⟨⟨whither, by rw [where_]⟩, ?_⟩
    rw [where_]
    refine (motionPermitted_iff m₁).mp ?_
    dsimp only at passed
    rw [if_neg (by simp)] at passed
    rcases asked : motionPermitted svc reg m₁ with ⟨e | ⟨permitted, reason⟩, m₂⟩
    · rw [bind_error asked] at passed
      cases passed
    · rw [bind_ok asked] at passed
      cases permitted with
      | false => cases passed
      | true => exact ⟨reason, rfl⟩

/-- A motion tool whose checks pass is refused nothing. -/
private theorem motionChecks_pass {tool : ToolSpec}
    (may : tool.requiresMotion = true → MayMove svc reg intent tool m) :
    ∃ checks, (motionChecks svc reg intent tool m).1 = .ok (checks, none) := by
  unfold motionChecks
  by_cases moves : tool.requiresMotion = true
  swap
  · rw [if_pos (by simpa using moves)]
    exact ⟨[], rfl⟩
  rw [if_neg (by simp [moves])]
  obtain ⟨⟨whither, known⟩, ready⟩ := may moves
  rcases where_ : onRt (outside (destinationOk svc intent tool)) m with ⟨e | ⟨fine, whither'⟩, m₁⟩ <;>
    rw [where_] at known ready
  · cases known
  cases known
  rw [bind_ok where_]
  dsimp only
  rw [if_neg (by simp)]
  obtain ⟨reason, permitted⟩ := (motionPermitted_iff m₁).mpr ready
  rcases asked : motionPermitted svc reg m₁ with ⟨e | answer, m₂⟩ <;> rw [asked] at permitted
  · cases permitted
  · cases permitted
    rw [bind_ok asked]
    exact ⟨_, rfl⟩

/-- What has passed every check is approved, once the broker has asked whether it had to be confirmed. -/
theorem cleared_approved {tool : ToolSpec} {answer : Bool × String}
    (registered : getTool intent.intent = some tool) (cleared : Cleared svc reg intent user confirmed tool m)
    (asked : (onRt (outside (needsConfirmation svc tool intent)) (motionChecks svc reg intent tool m).2).1 =
      .ok answer) :
    ∃ d, (validate svc reg intent user confirmed m).1 = .ok d ∧ d.outcome = .approved ∧ d.intent = intent := by
  unfold validate
  rw [registered]
  dsimp only
  by_cases always : tool.alwaysAvailable = true
  · rw [if_pos always]
    exact ⟨_, rfl, rfl, rfl⟩
  rw [if_neg always]
  have authorized : (Authorizer.authorize user tool.minRoleRank).1 = true := by
    rw [Authorizer.authorize, if_pos cleared.rank]
  rw [if_neg (by simp [authorized])]
  obtain ⟨reason, capable⟩ := cleared.capable
  rw [capable, bind_ok (t := m) (a := (true, reason)) (by rfl)]
  dsimp only
  rw [if_neg (by simp)]
  obtain ⟨checks, passed⟩ := motionChecks_pass cleared.motion
  rcases checked : motionChecks svc reg intent tool m with ⟨e | ⟨checks', refused⟩, m'⟩ <;>
    rw [checked] at passed asked
  · cases passed
  cases passed
  rw [bind_ok checked]
  dsimp only
  rcases question : onRt (outside (needsConfirmation svc tool intent)) m' with ⟨e | ⟨needed, prompt⟩, m''⟩ <;>
    rw [question] at asked
  · cases asked
  · have settled : ¬ (needed && !confirmed) = true := by
      cases needed with
      | false => simp
      | true =>
        rw [cleared.confirmation prompt (by rw [checked, question])]
        simp
    rw [bind_ok question]
    dsimp only
    rw [if_neg settled]
    exact ⟨_, rfl, rfl, rfl⟩

/-- An approved intent is the one that was proposed, for a registered tool that is either
always available or has passed every check. -/
theorem approved_cleared {d : BrokerDecision}
    (decided : (validate svc reg intent user confirmed m).1 = .ok d) (approved : d.outcome = .approved) :
    d.intent = intent ∧ ∃ tool, getTool intent.intent = some tool ∧
      (tool.alwaysAvailable = true ∨ Cleared svc reg intent user confirmed tool m) := by
  unfold validate at decided
  cases known : getTool intent.intent with
  | none =>
    rw [known] at decided
    cases decided
    cases approved
  | some tool =>
    rw [known] at decided
    dsimp only at decided
    by_cases always : tool.alwaysAvailable = true
    · rw [if_pos always] at decided
      cases decided
      exact ⟨rfl, tool, rfl, .inl always⟩
    rw [if_neg always] at decided
    by_cases authorized : (Authorizer.authorize user tool.minRoleRank).1 = true
    swap
    · rw [if_pos (by simpa using authorized)] at decided
      cases decided
      cases approved
    rw [if_neg (by simp [authorized])] at decided
    rcases capable : capabilityOk svc tool with e | ⟨able, reason⟩ <;> rw [capable] at decided
    · cases decided
    rw [bind_ok (t := m) (a := (able, reason)) (by rfl)] at decided
    cases able with
    | false =>
      cases decided
      cases approved
    | true =>
      dsimp only at decided
      rw [if_neg (by simp)] at decided
      rcases checked : motionChecks svc reg intent tool m with ⟨e | ⟨checks, _ | refused⟩, m'⟩
      · rw [bind_error checked] at decided
        cases decided
      · rw [bind_ok checked] at decided
        dsimp only at decided
        rcases asked : onRt (outside (needsConfirmation svc tool intent)) m' with ⟨e | ⟨needed, prompt⟩, m''⟩
        · rw [bind_error asked] at decided
          cases decided
        rw [bind_ok asked] at decided
        have cleared (confirms : needed = true → confirmed = true) :
            Cleared svc reg intent user confirmed tool m :=
          ⟨authorize_ok authorized, ⟨reason, capable⟩, motionChecks_passed checked, fun p needs => by
            rw [checked, asked] at needs
            cases needs
            exact confirms rfl⟩
        cases needed with
        | false =>
          cases decided
          exact ⟨rfl, tool, rfl, .inr (cleared fun absent => by cases absent)⟩
        | true =>
          cases given : confirmed with
          | false =>
            rw [given] at decided
            cases decided
            cases approved
          | true =>
            rw [given] at decided cleared
            cases decided
            exact ⟨rfl, tool, rfl, .inr (cleared fun _ => rfl)⟩
      · rw [bind_ok checked] at decided
        cases decided
        cases approved

/-- A tool that is always available is approved for everybody, and nothing is looked at. -/
theorem always_approved {tool : ToolSpec} (registered : getTool intent.intent = some tool)
    (always : tool.alwaysAvailable = true) :
    ∃ d, validate svc reg intent user confirmed m = (.ok d, m) ∧ d.outcome = .approved ∧ d.intent = intent := by
  unfold validate
  rw [registered]
  dsimp only
  rw [if_pos always]
  exact ⟨_, rfl, rfl, rfl⟩

/-- The broker decides on every intent that is not registered, on every tool that is always available or not
for the user, and else if its questions are answered. -/
theorem validate_returns_iff : (∃ d, (validate svc reg intent user confirmed m).1 = .ok d) ↔
    ∀ tool, getTool intent.intent = some tool → tool.alwaysAvailable = false →
      tool.minRoleRank ≤ user.role.rank → Answered svc reg intent tool m := by
  unfold validate
  cases known : getTool intent.intent with
  | none => exact iff_of_true ⟨_, rfl⟩ fun tool registered => by cases registered
  | some tool =>
    have single {P : ToolSpec → Prop} : (∀ t, some tool = some t → P t) ↔ P tool :=
      ⟨fun all => all tool rfl, fun holds t same => Option.some.inj same ▸ holds⟩
    rw [single]
    dsimp only
    by_cases always : tool.alwaysAvailable = true
    · rw [if_pos always]
      exact iff_of_true ⟨_, rfl⟩ fun limited => by rw [limited] at always; cases always
    rw [if_neg always]
    by_cases authorized : (Authorizer.authorize user tool.minRoleRank).1 = true
    swap
    · rw [if_pos (by simpa using authorized)]
      refine iff_of_true ⟨_, rfl⟩ fun _ ranked => absurd ?_ authorized
      rw [Authorizer.authorize, if_pos ranked]
    rw [if_neg (by simp [authorized])]
    have asked : (tool.alwaysAvailable = false → tool.minRoleRank ≤ user.role.rank → Answered svc reg intent tool m) ↔
        Answered svc reg intent tool m :=
      ⟨fun all => all (Bool.eq_false_iff.mpr always) (authorize_ok authorized), fun holds _ _ => holds⟩
    rw [asked]
    rcases capable : capabilityOk svc tool with e | ⟨able, reason⟩
    · refine iff_of_false (fun ⟨d, decided⟩ => by cases decided) fun answered => ?_
      obtain ⟨able, answer⟩ := answered.capability
      rw [capable] at answer
      cases answer
    rw [bind_ok (t := m) (a := (able, reason)) (by rfl)]
    cases able with
    | false =>
      refine iff_of_true ⟨_, rfl⟩ ⟨⟨_, capable⟩, fun reason able => ?_, fun reason able => ?_⟩
      · rw [capable] at able
        cases able
      · rw [capable] at able
        cases able
    | true =>
      dsimp only
      rw [if_neg (by simp)]
      rcases checked : motionChecks svc reg intent tool m with ⟨e | ⟨checks, _ | refused⟩, m'⟩
      · rw [bind_error checked]
        refine iff_of_false (fun ⟨d, decided⟩ => by cases decided) fun answered => ?_
        obtain ⟨found, answer⟩ := answered.motion reason capable
        rw [checked] at answer
        cases answer
      · rw [bind_ok checked]
        dsimp only
        rcases question : onRt (outside (needsConfirmation svc tool intent)) m' with ⟨e | ⟨needed, prompt⟩, m''⟩
        · rw [bind_error question]
          refine iff_of_false (fun ⟨d, decided⟩ => by cases decided) fun answered => ?_
          obtain ⟨answer, given⟩ := answered.confirmation reason capable checks (by rw [checked])
          rw [checked, question] at given
          cases given
        · rw [bind_ok question]
          refine iff_of_true ?_ ⟨⟨_, capable⟩, fun _ _ => ⟨_, by rw [checked]⟩, fun _ _ _ _ => ⟨_, by
            rw [checked, question]⟩⟩
          dsimp only
          split
          · exact ⟨_, rfl⟩
          · exact ⟨_, rfl⟩
      · rw [bind_ok checked]
        refine iff_of_true ⟨_, rfl⟩ ⟨⟨_, capable⟩, fun _ _ => ⟨_, by rw [checked]⟩, fun _ _ _ passed => ?_⟩
        rw [checked] at passed
        cases passed

/-! Single checks. -/

/-- The capabilities can be asked for if they are a mapping. -/
theorem capabilityOk_returns_iff {tool : ToolSpec} : (∃ able, capabilityOk svc tool = .ok able) ↔
    (tool.requiredCapability.isSome = true → ∃ items, svc.body.capabilities.raw = .dict items) := by
  unfold capabilityOk
  dsimp only
  cases tool.requiredCapability with
  | none => exact iff_of_true ⟨_, rfl⟩ fun some_cap => by cases some_cap
  | some cap =>
    dsimp only
    constructor
    · rintro ⟨able, capable⟩ -
      split at capable
      · obtain ⟨moves, found, -⟩ := except_bind_ok capable
        exact mapping_of_supportsMotion found
      · obtain ⟨sees, found, -⟩ := except_bind_ok capable
        obtain ⟨value, found, -⟩ := except_bind_ok found
        exact mapping_of_lookup found
    · intro mapping
      obtain ⟨items, mapping⟩ := mapping rfl
      refine except_ite_returns (fun locomotion => ?_) fun other => ?_
      · refine except_bind_returns (supportsMotion_returns mapping) fun moves => ?_
        exact except_ite_returns (fun moving => ⟨_, rfl⟩) fun still => ⟨_, rfl⟩
      · refine except_bind_returns (hasPerception_returns mapping cap) fun sees => ?_
        refine except_ite_returns (fun seeing => ⟨_, rfl⟩) fun blind => ?_
        refine except_bind_returns (hasManipulation_returns mapping cap) fun handles => ?_
        exact except_ite_returns (fun handling => ⟨_, rfl⟩) fun idle => ⟨_, rfl⟩

/-- A tool that needs locomotion is cleared for a body that can move. -/
theorem capable_moves {tool : ToolSpec} {reason : String} (needs : tool.requiredCapability = some "locomotion")
    (capable : capabilityOk svc tool = .ok (true, reason)) :
    svc.body.capabilities.supportsMotion = .ok true := by
  unfold capabilityOk at capable
  rw [needs] at capable
  dsimp only at capable
  rw [if_pos rfl] at capable
  rcases moves : svc.body.capabilities.supportsMotion with e | able
  · rw [moves] at capable
    cases capable
  · rw [moves] at capable
    cases able with
    | false => cases capable
    | true => rfl

/-- A destination that is fine is none at all, for an inspection on the spot, or is known
and can be reached. -/
theorem destination_known {tool : ToolSpec} {reason : String} {env env' : ε}
    (fine : destinationOk svc intent tool env = (.ok (true, reason), env')) :
    ∃ dest, destinationOf tool intent = .ok dest ∧
      ((dest.truthy = false ∧ tool.name = "inspect.named_target") ∨
        ∃ place env₁ why, svc.resolve dest env = (.ok (some place), env₁) ∧
          (svc.traversable dest env₁).1 = .ok (true, why)) := by
  unfold destinationOk at fine
  rcases asked : destinationOf tool intent with e | dest <;> rw [asked] at fine
  · cases fine
  refine ⟨dest, rfl, ?_⟩
  rw [bind_ok (t := env) (a := dest) (by rfl)] at fine
  cases given : dest.truthy with
  | false =>
    rw [if_pos (by simp [given])] at fine
    split at fine
    · next inspects => exact .inl ⟨rfl, inspects⟩
    · cases fine
  | true =>
    rw [if_neg (by simp [given])] at fine
    rcases found : svc.resolve dest env with ⟨e | _ | place, env₁⟩
    · rw [bind_error found] at fine
      cases fine
    · rw [bind_ok found] at fine
      rcases listed : svc.knownPlaces env₁ with ⟨e | places, env₂⟩
      · change (svc.knownPlaces >>= _) env₁ = _ at fine
        rw [bind_error listed] at fine
        cases fine
      · change (svc.knownPlaces >>= _) env₁ = _ at fine
        rw [bind_ok listed] at fine
        cases fine
    · rw [bind_ok found] at fine
      change (svc.traversable dest >>= _) env₁ = _ at fine
      rcases reach : svc.traversable dest env₁ with ⟨e | ⟨_ | _, why⟩, env₂⟩
      · rw [bind_error reach] at fine
        cases fine
      · rw [bind_ok reach] at fine
        cases fine
      · exact .inr ⟨place, env₁, why, rfl, by rw [reach]⟩

end DroidOs.Language.Approval
