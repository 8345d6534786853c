/- GID: DroidOs/System/Confirmation
   generality: I
   source: src/droidos/language/broker.py, src/droidos/cli/droid.py, ros2/droid_nodes/droid_nodes/language_node.py
   digest: Sessions over the two ways to the executive, and whether what needs it has been confirmed. -/

import DroidOs.Language.Approval
import DroidOs.Language.Dispatch
import DroidOs.System.Boot
import DroidOs.System.Simulated
import Mathlib.Data.List.Induction

set_option autoImplicit false
set_option relaxedAutoImplicit false

namespace DroidOs.System.Confirmation

open DroidOs.Lib.Procedure DroidOs.Lib.Interleaving
open DroidOs.Lib.Interleaving.Coroutine (atomically)
open DroidOs.Core.Values DroidOs.Core.States DroidOs.Core.Context
open DroidOs.Services.Lifecycle DroidOs.Services.Supervisor
open DroidOs.Executive.RunIntent
open DroidOs.Language.Intent DroidOs.Language.Broker DroidOs.Language.OfflineParser
open DroidOs.Language.Conversation DroidOs.Language.Dispatch DroidOs.Language.Approval
open DroidOs.Backends.Simulation
open Boot Registration Simulated

variable {ε : Type}

/-! The ROS node. -/

/-- An `ExecuteTask` goal, with what `json.loads` gives for its arguments, or for an empty mapping
where they are an empty text. -/
structure Goal where
  lang : LanguageService
  intent : String
  arguments : Except Exn PyVal
  requiresMotion : Bool := false
  requestedSpeed : String := ""
  source : String := ""
  user : String := ""

structure GoalResult where
  ok : Bool
  result : Items := []
  error : String := ""
  aborted : Bool := false

/-- `_to_intent`. -/
def Goal.toIntent (g : Goal) : Except Exn StructuredIntent := do
  let arguments ← g.arguments
  return {
    intent := g.intent
    arguments := arguments
    requiresMotion := g.requiresMotion
    requestedSpeed := .str (if g.requestedSpeed = "" then "normal" else g.requestedSpeed)
    source := if g.source = "" then "llm" else g.source }

def Goal.asker (g : Goal) : User := g.lang.authorizer.resolve (some g.user)

variable (svc : Services ε) (reg : Registry (Runtime ε))

/-- The decision about a goal. -/
def decideGoal (g : Goal) : Proc (Brain ε) Exn BrokerDecision := do
  let intent ← ofExcept g.toIntent
  validate svc reg intent g.asker true

/-- What follows that decision. -/
def finishGoal (g : Goal) (decision : BrokerDecision) : Coroutine (Brain ε) Exn GoalResult :=
  if decision.outcome = .approved then do
    let result ← runIntent svc reg decision.intent g.asker.name
    return { ok := result.ok, result := result.data, error := result.error }
  else pure { ok := false, error := decision.reason, aborted := true }

/-- `_execute_cb`. -/
def executeGoal (g : Goal) : Coroutine (Brain ε) Exn GoalResult := do
  let decision ← atomically (decideGoal svc reg g)
  finishGoal svc reg g decision

/-! Sessions. -/

/-- A line that a user gives to the command line interface, or a single command. -/
structure Command where
  lang : LanguageService
  text : String
  user : Option String := none
  confirmed : Bool := false

/-- What comes to the droid: a command, a goal, or anything else that changes it in between. -/
inductive Entry (ε : Type)
  | command (c : Command)
  | goal (g : Goal)
  | happening (step : Brain ε → Brain ε)

/-- The droid, and the intent that each user's interface hands back with the next line. -/
structure Session (ε : Type) where
  brain : Brain ε
  pending : Option String → Option StructuredIntent := fun _ => none

/-- The request that a command makes. -/
def Command.request (c : Command) (s : Session ε) : Request where
  text := c.text
  user := c.user
  confirmed := c.confirmed
  pending := s.pending c.user

/-- The response to a command. -/
def response (c : Command) (s : Session ε) : Except Exn Response :=
  ((process svc reg c.lang (c.request s)).run s.brain).1

/-- `resp.pending if resp.needs_confirmation else None`; a command that raises ends the interface. -/
def handedBack : Except Exn Response → Option StructuredIntent
  | .ok resp => if resp.needsConfirmation then resp.pending else none
  | .error _ => none

/-- What one entry makes of the session. -/
def Entry.step (s : Session ε) : Entry ε → Session ε
  | .command c =>
    { brain := ((process svc reg c.lang (c.request s)).run s.brain).2
      pending := Function.update s.pending c.user (handedBack (response svc reg c s)) }
  | .goal g => { s with brain := ((executeGoal svc reg g).run s.brain).2 }
  | .happening f => { s with brain := f s.brain }

/-- The session after these entries, from a droid that nobody has asked for anything. -/
def session (m : Brain ε) (entries : List (Entry ε)) : Session ε :=
  entries.foldl (Entry.step svc reg) { brain := m }

/-- The intent that a decision approves. -/
def approvedBy : Except Exn BrokerDecision → Option StructuredIntent
  | .ok decision => if decision.outcome = .approved then some decision.intent else none
  | .error _ => none

/-- The intent that the entry calls `run_intent` for, and the state in which the broker was asked
about it. -/
def called (s : Session ε) : Entry ε → Option (StructuredIntent × Brain ε)
  | .command c => (approvedIntent svc reg c.lang (c.request s) s.brain).map fun intent =>
    (intent, (propose svc c.lang (c.request s) s.brain).2)
  | .goal g => (approvedBy (decideGoal svc reg g s.brain).1).map fun intent => (intent, s.brain)
  | .happening _ => none

/-- `_needs_confirmation` holds for the intent, where the broker comes to ask. -/
def Needed (intent : StructuredIntent) (m : Brain ε) : Prop := ∃ tool prompt,
  getTool intent.intent = some tool ∧
  (onRt (outside (needsConfirmation svc tool intent)) (motionChecks svc reg intent tool m).2).1 =
    .ok (true, prompt)

/-- The last response to the user asked to confirm this intent. -/
def Prompted (m : Brain ε) (entries : List (Entry ε)) (user : Option String) (intent : StructuredIntent) : Prop :=
  ∃ earlier c later, entries = earlier ++ .command c :: later ∧ c.user = user ∧
    (∀ c', .command c' ∈ later → c'.user ≠ user) ∧
    ∃ resp, response svc reg c (session svc reg m earlier) = .ok resp ∧ resp.needsConfirmation = true ∧
      resp.pending = some intent

/-- The user has confirmed the intent: by the flag of the request, or by an affirmative reply to the
prompt for it. A goal has neither. -/
def Confirmed (m : Brain ε) (entries : List (Entry ε)) (intent : StructuredIntent) : Entry ε → Prop
  | .command c => c.confirmed = true ∨
    (Prompted svc reg m entries c.user intent ∧ isAffirmative svc.text c.text = true)
  | .goal _ => False
  | .happening _ => False

/-- Wherever the executive is called for an intent that needs confirmation, the user has confirmed it. -/
def Respected (m : Brain ε) (entries : List (Entry ε)) : Prop :=
  ∀ before e after, entries = before ++ e :: after →
    ∀ intent asked, called svc reg (session svc reg m before) e = some (intent, asked) →
      Needed svc reg intent asked → Confirmed svc reg m before intent e

/-- The goal proposes an intent that needs confirmation and that nothing else speaks against. -/
def Unasked (m : Brain ε) (g : Goal) : Prop := ∃ intent tool, g.toIntent = .ok intent ∧
  getTool intent.intent = some tool ∧ Cleared svc reg intent g.asker true tool m ∧ Needed svc reg intent m

variable {svc reg} {m : Brain ε} {g : Goal} {intent : StructuredIntent} {asked : Brain ε}

/-! What the executive is called for. -/

private theorem approvedBy_iff (r : Except Exn BrokerDecision) : approvedBy r = some intent ↔
    ∃ decision : BrokerDecision, r = .ok decision ∧ decision.outcome = .approved ∧ decision.intent = intent := by
  unfold approvedBy
  cases r with
  | error e => simp
  | ok decision => simp

/-- A goal runs what its decision approves. -/
theorem executeGoal_approved (approved : approvedBy (decideGoal svc reg g m).1 = some intent) :
    ((executeGoal svc reg g).run m).2 =
      ((runIntent svc reg intent g.asker.name).run (decideGoal svc reg g m).2).2 := by
  obtain ⟨decision, decided, outcome, rfl⟩ := (approvedBy_iff _).mp approved
  unfold executeGoal
  rw [Coroutine.run_bind, Coroutine.run_atomically]
  rcases run : decideGoal svc reg g m with ⟨e | decision', m'⟩ <;> rw [run] at decided
  · cases decided
  cases decided
  rw [bind_ok run, finishGoal, if_pos outcome, Coroutine.run_bind, bind_run]
  rcases (runIntent svc reg decision.intent g.asker.name).run m' with ⟨_ | _, _⟩ <;> rfl

/-- Otherwise it runs nothing. -/
theorem executeGoal_refused (refused : approvedBy (decideGoal svc reg g m).1 = none) :
    ((executeGoal svc reg g).run m).2 = (decideGoal svc reg g m).2 := by
  unfold executeGoal
  rw [Coroutine.run_bind, Coroutine.run_atomically]
  rcases run : decideGoal svc reg g m with ⟨e | decision, m'⟩
  · rw [bind_error run]
  rw [run] at refused
  have unapproved : decision.outcome ≠ .approved := by
    intro approved
    rw [approvedBy, if_pos approved] at refused
    cases refused
  rw [bind_ok run, finishGoal, if_neg unapproved]
  rfl

/-- Tools that are always available need no confirmation. -/
private theorem always_unneeded {tool : ToolSpec} (registered : getTool intent.intent = some tool)
    (always : tool.alwaysAvailable = true) : ¬ Needed svc reg intent m := by
  have none_ : ∀ t ∈ defaultTools, t.alwaysAvailable = true → t.confirmation = .none := by decide
  rintro ⟨tool', prompt, registered', needs⟩
  cases registered.symm.trans registered'
  rw [onRt_run, needsConfirmation, none_ tool (List.mem_of_find?_eq_some registered) always] at needs
  cases needs

/-- What a broker approves that needs confirmation has passed every check, and was confirmed. -/
private theorem needed_cleared {user : User} {confirmed : Bool} {d : BrokerDecision}
    (decided : (validate svc reg intent user confirmed m).1 = .ok d) (approved : d.outcome = .approved)
    (needed : Needed svc reg intent m) :
    confirmed = true ∧ ∃ tool, getTool intent.intent = some tool ∧ Cleared svc reg intent user true tool m := by
  obtain ⟨-, tool, registered, always | cleared⟩ := approved_cleared decided approved
  · exact absurd needed (always_unneeded registered always)
  obtain ⟨tool', prompt, registered', needs⟩ := needed
  cases registered.symm.trans registered'
  have given := cleared.confirmation prompt needs
  subst given
  exact ⟨rfl, tool, registered, cleared⟩

/-- A goal calls the executive for what needs confirmation exactly when it proposes such an intent
and nothing else speaks against it. -/
theorem goal_needed_iff (s : Session ε) :
    (∃ intent asked, called svc reg s (.goal g) = some (intent, asked) ∧ Needed svc reg intent asked) ↔
      Unasked svc reg s.brain g := by
  have calls (intent : StructuredIntent) (asked : Brain ε) : called svc reg s (.goal g) = some (intent, asked) ↔
      ∃ decision : BrokerDecision, (decideGoal svc reg g s.brain).1 = .ok decision ∧
        decision.outcome = .approved ∧ decision.intent = intent ∧ s.brain = asked := by
    simp [called, approvedBy_iff, and_assoc]
  have decides (intent : StructuredIntent) (proposed : g.toIntent = .ok intent) :
      (decideGoal svc reg g s.brain).1 = (validate svc reg intent g.asker true s.brain).1 := by
    unfold decideGoal
    rw [proposed]
    rfl
  constructor
  · rintro ⟨intent, asked, called, needed⟩
    obtain ⟨decision, decided, approved, rfl, rfl⟩ := (calls intent asked).mp called
    rcases proposed : g.toIntent with e | proposal
    · rw [decideGoal, proposed] at decided
      cases decided
    rw [decides proposal proposed] at decided
    rw [(approved_cleared decided approved).1] at needed
    obtain ⟨-, tool, registered, cleared⟩ := needed_cleared decided approved needed
    exact ⟨proposal, tool, proposed, registered, cleared, needed⟩
  · rintro ⟨intent, tool, proposed, registered, cleared, needed⟩
    obtain ⟨tool', prompt, registered', needs⟩ := id needed
    cases registered.symm.trans registered'
    obtain ⟨d, decided, approved, same⟩ := cleared_approved registered cleared needs
    refine ⟨intent, s.brain, (calls intent s.brain).mpr ⟨d, ?_, approved, same, rfl⟩, needed⟩
    rw [decides intent proposed, decided]

/-! Sessions. -/

theorem session_append (m : Brain ε) (before : List (Entry ε)) (e : Entry ε) :
    session svc reg m (before ++ [e]) = Entry.step svc reg (session svc reg m before) e := by
  rw [session, List.foldl_append]
  rfl

/-- What is pending, the last response has asked for. -/
private theorem handedBack_some {answer : Except Exn Response} (pending : handedBack answer = some intent) :
    ∃ resp, answer = .ok resp ∧ resp.needsConfirmation = true ∧ resp.pending = some intent := by
  unfold handedBack at pending
  cases answer with
  | error e => cases pending
  | ok resp =>
    dsimp only at pending
    split at pending
    · next needs => exact ⟨resp, rfl, needs, pending⟩
    · cases pending

/-- An interface hands back only what it has just asked its user about. -/
theorem pending_prompted {entries : List (Entry ε)} {user : Option String}
    (pending : (session svc reg m entries).pending user = some intent) :
    Prompted svc reg m entries user intent := by
  induction entries using List.reverseRecOn with
  | nil => cases pending
  | append_singleton before e ih =>
    rw [session_append] at pending
    -- What the entry leaves pending for the user was so before.
    have before_ (same : (session svc reg m before).pending user = some intent)
        (other : ∀ c, e = .command c → c.user ≠ user) : Prompted svc reg m (before ++ [e]) user intent := by
      obtain ⟨earlier, c, later, rfl, own, silent, prompt⟩ := ih same
      refine ⟨earlier, c, later ++ [e], by simp, own, fun c' member => ?_, prompt⟩
      rcases List.mem_append.mp member with old | new
      · exact silent c' old
      · exact other c' (List.mem_singleton.mp new).symm
    cases e with
    | command c =>
      change Function.update _ c.user _ user = _ at pending
      by_cases own : user = c.user
      · rw [own, Function.update_self] at pending
        exact ⟨before, c, [], rfl, own.symm, by simp, handedBack_some pending⟩
      · rw [Function.update_of_ne own] at pending
        refine before_ pending fun c' same => ?_
        cases same
        exact fun same => own same.symm
    | goal g => exact before_ pending fun c same => by cases same
    | happening step => exact before_ pending fun c same => by cases same

/-- A command calls the executive for nothing that needs a confirmation it has not got. -/
private theorem command_confirmed {c : Command} {before : List (Entry ε)}
    (calls : called svc reg (session svc reg m before) (.command c) = some (intent, asked))
    (needed : Needed svc reg intent asked) : Confirmed svc reg m before intent (.command c) := by
  obtain ⟨found, approved, same⟩ := Option.map_eq_some_iff.mp calls
  cases same
  obtain ⟨p, decision, decides, outcome, rfl, -⟩ := process_approved approved
  obtain ⟨proposed, decides⟩ := decided_ok decides
  have validated := decideOn_validated decides
  rw [(approved_cleared validated outcome).1] at needed ⊢
  obtain ⟨confirmed, -⟩ := needed_cleared validated outcome needed
  rcases propose_confirmed proposed confirmed with flag | ⟨pending, affirmed⟩
  · exact .inl flag
  · exact .inr ⟨pending_prompted pending, affirmed⟩

/-- The executive is called for nothing unconfirmed exactly when no goal of the session proposes
an intent that needs confirmation and that nothing else speaks against. -/
theorem respected_iff (m : Brain ε) (entries : List (Entry ε)) : Respected svc reg m entries ↔
    ∀ before g after, entries = before ++ .goal g :: after →
      ¬ Unasked svc reg (session svc reg m before).brain g := by
  constructor
  · intro respected before g after split unasked
    obtain ⟨intent, asked, calls, needed⟩ := (goal_needed_iff (session svc reg m before)).mpr unasked
    exact respected before (.goal g) after split intent asked calls needed
  · intro quiet before e after split intent asked calls needed
    cases e with
    | command c => exact command_confirmed calls needed
    | goal g => exact absurd ((goal_needed_iff _).mp ⟨intent, asked, calls, needed⟩) (quiet before g after split)
    | happening step => cases calls

/-! A memory that is deleted unasked. -/

/-- A goal of the default user, who is an operator. -/
def forgetGoal : Goal where
  lang := { authorizer := { users := [] }, providers := [], refuse := id, render := fun _ => .ok "" }
  intent := "memory.forget"
  arguments := .ok (.dict [(.str "query", .str "the shelf")])

/-- The droid of the hallway after its boot. -/
def hallwayBooted : Brain (SimWorld Unit) := booted (simulated hallwayDroid)
  (newRuntime 0 .missing { backend := SimulationBackend.new wheeled, store := () })

/-- Whatever the state of the droid, the goal proposes to delete a memory and nothing speaks against it. -/
private theorem forget_unasked (m : Brain (SimWorld Unit)) :
    Unasked (simulated hallwayDroid) (droidServices (simulated hallwayDroid)) m forgetGoal := by
  let intent : StructuredIntent :=
    { intent := "memory.forget", arguments := .dict [(.str "query", .str "the shelf")], source := "llm" }
  have needed : Needed (simulated hallwayDroid) (droidServices (simulated hallwayDroid)) intent m :=
    ⟨_, "This will delete a memory (query=the shelf). Confirm? [yes/no]", rfl, rfl⟩
  have cleared (tool : ToolSpec) (registered : getTool "memory.forget" = some tool) : Cleared
      (simulated hallwayDroid) (droidServices (simulated hallwayDroid)) intent forgetGoal.asker true tool m := by
    cases registered
    refine ⟨by decide, ⟨_, rfl⟩, fun moves => ?_, fun _ _ => rfl⟩
    cases moves
  obtain ⟨tool, prompt, registered, -⟩ := id needed
  exact ⟨intent, tool, rfl, registered, cleared tool registered, needed⟩

private theorem forget_unrespected (m : Brain (SimWorld Unit)) :
    ¬ Respected (simulated hallwayDroid) (droidServices (simulated hallwayDroid)) m [.goal forgetGoal] := by
  intro respected
  obtain ⟨intent, asked, calls, needed⟩ := (goal_needed_iff { brain := m }).mpr (forget_unasked m)
  exact respected [] (.goal forgetGoal) [] rfl intent asked calls needed

/-- The goal deletes a memory, for which the broker would have asked to be told yes. -/
theorem forget_goal_unconfirmed :
    (called (simulated hallwayDroid) (droidServices (simulated hallwayDroid)) { brain := hallwayBooted }
      (.goal forgetGoal)).map (fun call => call.1.intent) = some "memory.forget" ∧
    ¬ Respected (simulated hallwayDroid) (droidServices (simulated hallwayDroid)) hallwayBooted [.goal forgetGoal] :=
  ⟨by decide +kernel, forget_unrespected hallwayBooted⟩

end DroidOs.System.Confirmation
