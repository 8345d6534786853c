/- GID: DroidOs/System/Serving
   generality: I
   source: src/droidos/executive/executive.py, src/droidos/language/broker.py, src/droidos/language/service.py
   digest: Exactly when an intent with a mapping of arguments is answered. -/

import DroidOs.Language.Approval
import DroidOs.Language.Conversation
import DroidOs.Language.Rendering
import DroidOs.Services.Inhibition
import DroidOs.System.Furnished
import DroidOs.System.Registration

set_option autoImplicit false
set_option relaxedAutoImplicit false

namespace DroidOs.System.Serving

open DroidOs.Lib.Procedure DroidOs.Lib.Interleaving
open DroidOs.Core.Values DroidOs.Core.Context
open DroidOs.Backends.Simulation
open DroidOs.Services DroidOs.Services.Lifecycle DroidOs.Services.Inhibition
open DroidOs.Services.Supervisor (Brain assessReadiness hasSafety hardwareReasons)
open DroidOs.Executive.RunIntent DroidOs.Executive.Tools
open DroidOs.Language.Intent DroidOs.Language.Broker DroidOs.Language.Approval DroidOs.Language.Conversation
open DroidOs.Language.Wording DroidOs.Language.Renderer DroidOs.Language.Rendering
open Furnished Simulated

variable {s : Site} {reg : Registry (Runtime (SimWorld Stores))} {p : Personality}

/-! The results of the handlers. -/

private theorem yields_stored {α : Type} {R : α → Prop} {f : SimulationBackend → Proc Stores Exn α}
    (each : ∀ b, Yields R (f b)) : Yields R (onRt (outside (stored f)) : Proc (Brain (SimWorld Stores)) Exn α) :=
  fun m a returned => each m.rt.env.backend m.rt.env.store a returned

private theorem told_hTool (sums : Summarizes s.equipment) {task : Task} (telling : task.intent ∈ tellingTools) :
    Yields (Told s.equipment.text p) (hTool (simulated (furnished s)) task) :=
  yields_stored fun _ => told_tool sums telling

private theorem inspects (target : PyVal) : Yields
    (fun found => ∃ b, Perception.inspect s.equipment.text s.equipment.body b target = .ok found)
    ((simulated (furnished s)).inspect target) :=
  fun w _ returned => ⟨w.backend, returned⟩

/-- Whatever a handler returns can be told, but for a place. -/
theorem told_handler (sums : Summarizes s.equipment) {task : Task} {name : String} (named : task.intent = name)
    (listed : name ∈ defaultTools.map ToolSpec.name) (place : name ≠ "memory.store_place") :
    Yields (Told s.equipment.text p) (handlerFor (simulated (furnished s)) reg name task).run := by
  simp only [defaultTools, List.map_cons, List.map_nil, List.mem_cons, List.not_mem_nil, or_false] at listed
  rcases listed with rfl | rfl | rfl | rfl | rfl | rfl | rfl | rfl | rfl | rfl | rfl | rfl | rfl | rfl | rfl | rfl |
    rfl | rfl | rfl | rfl | rfl | rfl | rfl
  · exact told_hStatus task
  · exact told_hTool sums (by rw [named]; decide)
  · exact told_hTool sums (by rw [named]; decide)
  · exact yields_then fun collected => yields_then fun own => yields_stored fun _ => told_tool sums (by decide)
  · exact told_hExplain task
  · exact told_hTool sums (by rw [named]; decide)
  · exact told_hTool sums (by rw [named]; decide)
  · exact told_hTool sums (by rw [named]; decide)
  · exact told_hStop task
  · exact told_hEstop task
  · exact told_hCancel task
  · exact told_hSilence task
  · exact told_hSafeIdle task
  · exact told_hNavigate task
  · exact told_hGoCharge task
  · exact told_hInspect task inspects
  · exact told_hTool sums (by rw [named]; decide)
  · exact absurd rfl place
  · exact told_hTool sums (by rw [named]; decide)
  · exact told_hTool sums (by rw [named]; decide)
  · exact told_hTool sums (by rw [named]; decide)
  · exact told_hReboot task
  · exact told_hShutdown task

/-! The run of an intent. -/

variable {intent : StructuredIntent} {items : Items} {m : Brain (SimWorld Stores)}

/-- A step leaves the backend alone. -/
def SameBody (m m' : Brain (SimWorld Stores)) : Prop := m'.rt.env.backend = m.rt.env.backend

private theorem startTask_run (mapping : intent.arguments = .dict items) (user : String) :
    ∃ (task : Task) (m' : Brain (SimWorld Stores)),
      onRt (startTask (simulated (furnished s)) intent user) m = (.ok task, m') ∧
      task.intent = intent.intent ∧ task.arguments = items ∧ SameBody m m' := by
  unfold startTask
  rw [mapping]
  exact ⟨_, _, rfl, rfl, rfl, rfl⟩

private theorem finishTask_run (task : Task) (user : String) (result : TaskResult) (m : Brain (SimWorld Stores)) :
    (onRt (finishTask (simulated (furnished s)) task user result) m).1 = .ok { result with taskId := task.taskId } :=
  rfl

/-- A task whose arguments are a mapping is started where the droid stands, and its handler's outcome is settled. -/
theorem runIntent_run (mapping : intent.arguments = .dict items) (user : String) :
    ∃ (task : Task) (m' : Brain (SimWorld Stores)), task.intent = intent.intent ∧ task.arguments = items ∧
      SameBody m m' ∧ ((runIntent (simulated (furnished s)) reg intent user).run m).1 =
        .ok { settled intent.intent ((handlerFor (simulated (furnished s)) reg intent.intent task).run m').1 with
          taskId := task.taskId } := by
  obtain ⟨task, m', started, named, given, same⟩ := startTask_run (s := s) (m := m) mapping user
  refine ⟨task, m', named, given, same, ?_⟩
  unfold runIntent
  rw [Coroutine.run_bind, Coroutine.run_atomically, bind_ok started, Coroutine.run_bind, Coroutine.run_attempt,
    attempt_bind]
  rcases (handlerFor (simulated (furnished s)) reg intent.intent task).run m' with ⟨e | result, m''⟩
  · rfl
  · rfl

/-- The words of the droid. -/
def worded (s : Site) (p : Personality) (authorizer : Authorizer) (providers : List Provider) : LanguageService where
  authorizer := authorizer
  providers := providers
  refuse := p.refuse
  render := render s.equipment.text p

/-- The readings that the handler of `robot.get_battery` makes return. -/
structure BatteryRead (s : Site) (b : SimulationBackend) : Prop where
  battery : ∃ state, b.readBattery s.equipment.body = .ok state
  minimum : ∃ percent, s.equipment.body.limits.batteryMotionMinimum s.equipment.text = .ok percent

private theorem hBattery_returns {e : Equipment} {b : SimulationBackend} : (∃ r, hBattery e b = .ok r) ↔
    (∃ state, b.readBattery e.body = .ok state) ∧
      ∃ percent, e.body.limits.batteryMotionMinimum e.text = .ok percent := by
  constructor
  · rintro ⟨r, returned⟩
    obtain ⟨state, battery, returned⟩ := except_bind_ok returned
    obtain ⟨percent, minimum, -⟩ := except_bind_ok returned
    exact ⟨⟨state, battery⟩, percent, minimum⟩
  · rintro ⟨⟨state, battery⟩, percent, minimum⟩
    exact except_bind_known battery (except_bind_known minimum ⟨_, rfl⟩)

/-- The outcome of a registered task is told, unless a battery cannot be read or a place cannot be stored. -/
theorem settled_told (sums : Summarizes s.equipment) (laws : s.equipment.text.Lawful) {task : Task}
    (listed : task.intent ∈ defaultTools.map ToolSpec.name) (m : Brain (SimWorld Stores)) :
    Told s.equipment.text p (settled task.intent ((handlerFor (simulated (furnished s)) reg task.intent task).run m).1) ↔
      (task.intent = "robot.get_battery" → BatteryRead s m.rt.env.backend) ∧
        (task.intent = "memory.store_place" → Storable s.equipment.text m.rt.env.backend.pose task.arguments) := by
  by_cases place : task.intent = "memory.store_place"
  · have other : task.intent ≠ "robot.get_battery" := by rw [place]; decide
    have handler : handlerFor (simulated (furnished s)) reg task.intent = fun t =>
        Coroutine.atomically (hTool (simulated (furnished s)) t) := by rw [place]; rfl
    have ran : ((handlerFor (simulated (furnished s)) reg task.intent task).run m).1 =
        (hStorePlace s.equipment m.rt.env.backend task.arguments m.rt.env.store).1 := by
      rw [handler, Coroutine.run_atomically, hTool, place]
      rfl
    rw [ran, place, storePlace_told laws]
    exact ⟨fun storable => ⟨fun named => absurd named (by decide), fun _ => storable⟩, fun both => both.2 rfl⟩
  by_cases battery : task.intent = "robot.get_battery"
  · have handler : handlerFor (simulated (furnished s)) reg task.intent = fun t =>
        Coroutine.atomically (hTool (simulated (furnished s)) t) := by rw [battery]; rfl
    have ran : ((handlerFor (simulated (furnished s)) reg task.intent task).run m).1 =
        hBattery s.equipment m.rt.env.backend := by
      rw [handler, Coroutine.run_atomically, hTool, battery]
      rfl
    have reads_ : BatteryRead s m.rt.env.backend ↔ ∃ r, hBattery s.equipment m.rt.env.backend = .ok r := by
      rw [hBattery_returns]
      exact ⟨fun both => ⟨both.battery, both.minimum⟩, fun both => ⟨both.1, both.2⟩⟩
    rw [ran, battery]
    have iff : Told s.equipment.text p (settled "robot.get_battery" (hBattery s.equipment m.rt.env.backend)) ↔
        ∃ r, hBattery s.equipment m.rt.env.backend = .ok r := by
      rcases returned : hBattery s.equipment m.rt.env.backend with e | r
      · exact iff_of_false (untold_battery _) fun ⟨r, same⟩ => by cases same
      · exact iff_of_true (told_battery returned) ⟨r, rfl⟩
    rw [iff, ← reads_]
    exact ⟨fun read => ⟨fun _ => read, fun named => absurd named (by decide)⟩, fun both => both.1 rfl⟩
  · refine iff_of_true ?_ ⟨fun named => absurd named battery, fun named => absurd named place⟩
    rcases returned : ((handlerFor (simulated (furnished s)) reg task.intent task).run m).1 with e | r
    · exact told_failed listed battery place
    · exact told_handler sums rfl listed place m r returned

/-! The questions of the broker. -/

/-- The intent is for a place to which the body can be sent, or for an inspection on the spot. -/
def Sendable (s : Site) (intent : StructuredIntent) (tool : ToolSpec) (w : WorldModel.WorldData) : Prop :=
  ∃ dest, destinationOf tool intent = .ok dest ∧
    if dest.truthy then ∃ why, w.traversable s.equipment.text s.equipment.body dest = .ok (true, why)
    else tool.name = "inspect.named_target"

private theorem steady (w : SimWorld Stores) : Steady (simulated (furnished s)) w where
  battery := reading_same .battery w
  actuators := reading_same .readAllActuators w
  sensor := fun id => reading_same (.readSensor id) w
  bus := fun _ online => reading_same (.busOnline online) w

variable {user : User} {tool : ToolSpec}

private theorem traversable_returns {caps : Items} (mapping : s.equipment.body.capabilities.raw = .dict caps)
    (w : WorldModel.WorldData) (dest : PyVal) :
    ∃ found, w.traversable s.equipment.text s.equipment.body dest = .ok found := by
  unfold WorldModel.WorldData.traversable
  refine except_bind_returns (Body.Package.Capabilities.supportsMotion_returns mapping) fun moves => ?_
  refine except_ite_returns (fun still => ⟨_, rfl⟩) fun moving => ?_
  refine except_ite_returns (fun restricted => ⟨_, rfl⟩) fun free => ?_
  cases w.getPlace s.equipment.text dest with
  | none => exact ⟨_, rfl⟩
  | some place =>
    refine except_ite_returns (fun stairs => ?_) fun level => ⟨_, rfl⟩
    refine except_bind_returns (Body.Package.Capabilities.can_returns mapping "stairs") fun climbs => ?_
    exact except_ite_returns (fun unable => ⟨_, rfl⟩) fun able => ⟨_, rfl⟩

/-- The destination is looked up, and fine if the body can be sent there. -/
private theorem destinationOk_run {caps : Items} (mapping : s.equipment.body.capabilities.raw = .dict caps)
    (given : intent.arguments = .dict items) (w : SimWorld Stores) : ∃ known why,
      destinationOk (simulated (furnished s)) intent tool w = (.ok (known, why), w) ∧
        (known = true ↔ Sendable s intent tool w.store.world.data) := by
  obtain ⟨dest, asked⟩ := @destinationOf_returns tool intent items given
  have sendable : Sendable s intent tool w.store.world.data ↔ if dest.truthy then
      ∃ why, w.store.world.data.traversable s.equipment.text s.equipment.body dest = .ok (true, why)
      else tool.name = "inspect.named_target" := by
    constructor
    · rintro ⟨dest', same, fits⟩
      cases asked.symm.trans same
      exact fits
    · exact fun fits => ⟨dest, asked, fits⟩
  unfold destinationOk
  rw [bind_ok (t := w) (a := dest) (by rw [asked]; rfl)]
  by_cases truthy : dest.truthy = true
  · rw [if_pos truthy] at sendable
    rw [if_neg (by simp [truthy])]
    have looked : (simulated (furnished s)).resolve dest w =
        (.ok (w.store.world.data.resolve s.equipment.text dest), w) := rfl
    rw [bind_ok looked]
    cases found : w.store.world.data.resolve s.equipment.text dest with
    | none =>
      refine ⟨false, _, rfl, iff_of_false (by decide) fun sends => ?_⟩
      obtain ⟨why, traversable⟩ := sendable.mp sends
      obtain ⟨-, place, reachable⟩ := WorldModel.traversable_reachable traversable
      rw [WorldModel.WorldData.resolve, reachable.known] at found
      cases found
    | some place =>
      obtain ⟨⟨able, why⟩, traversable⟩ := traversable_returns mapping w.store.world.data dest
      have reached : (simulated (furnished s)).traversable dest w = (.ok (able, why), w) :=
        congrArg (fun r => (r, w)) traversable
      dsimp only
      rw [bind_ok reached]
      cases able with
      | true => exact ⟨true, _, rfl, iff_of_true rfl (sendable.mpr ⟨why, traversable⟩)⟩
      | false =>
        refine ⟨false, _, rfl, iff_of_false (by decide) fun sends => ?_⟩
        obtain ⟨why', reaches⟩ := sendable.mp sends
        rw [traversable] at reaches
        cases reaches
  · rw [if_neg truthy] at sendable
    rw [if_pos (by simpa using truthy)]
    by_cases inspects : tool.name = "inspect.named_target"
    · rw [if_pos inspects]
      exact ⟨true, _, rfl, iff_of_true rfl (sendable.mpr inspects)⟩
    · rw [if_neg inspects]
      exact ⟨false, _, rfl, iff_of_false (by decide) fun sends => inspects (sendable.mp sends)⟩

private theorem motionPermitted_returns (safety : hasSafety reg = true) :
    (∃ answer, (motionPermitted (simulated (furnished s)) reg m).1 = .ok answer) ↔
      m.rt.controller.estop = true ∨ Answering (simulated (furnished s)) m.rt.env := by
  rw [← assess_returns_iff safety (steady m.rt.env)]
  unfold motionPermitted
  rcases assessed : assessReadiness (simulated (furnished s)) reg m with ⟨e | readiness, m'⟩
  · rw [bind_error assessed]
    exact iff_of_false (fun ⟨answer, raised⟩ => by cases raised) fun ⟨r, raised⟩ => by cases raised
  · rw [bind_ok assessed]
    refine iff_of_true ?_ ⟨readiness, rfl⟩
    split
    · exact ⟨_, rfl⟩
    · exact ⟨_, rfl⟩

/-- A motion tool is decided on unless the droid's readiness matters and cannot be assessed. -/
private theorem motionChecks_returns (safety : hasSafety reg = true) {caps : Items}
    (mapping : s.equipment.body.capabilities.raw = .dict caps) (given : intent.arguments = .dict items)
    (moves : tool.requiresMotion = true) :
    (∃ found, (motionChecks (simulated (furnished s)) reg intent tool m).1 = .ok found) ↔
      (Sendable s intent tool m.rt.env.store.world.data →
        m.rt.controller.estop = true ∨ Answering (simulated (furnished s)) m.rt.env) := by
  obtain ⟨known, why, checked, sendable⟩ := @destinationOk_run s intent items tool caps mapping given m.rt.env
  have where_ : onRt (outside (destinationOk (simulated (furnished s)) intent tool)) m = (.ok (known, why), m) := by
    rw [onRt_run, outside_run, checked]
  unfold motionChecks
  rw [if_neg (by simp [moves]), bind_ok where_, ← sendable]
  cases known with
  | false => exact iff_of_true ⟨_, rfl⟩ fun absent => by cases absent
  | true =>
    rw [← motionPermitted_returns safety]
    dsimp only
    rw [if_neg (by simp)]
    rcases permitted : motionPermitted (simulated (furnished s)) reg m with ⟨e | ⟨able, reason⟩, m'⟩
    · rw [bind_error permitted]
      refine iff_of_false (fun ⟨found, raised⟩ => by cases raised) fun holds => ?_
      obtain ⟨answer, raised⟩ := holds rfl
      cases raised
    · rw [bind_ok permitted]
      exact iff_of_true ⟨_, rfl⟩ fun _ => ⟨_, rfl⟩

/-- The broker asks the droid about the intent of this user. -/
structure Consulted (intent : StructuredIntent) (user : User) (tool : ToolSpec) : Prop where
  registered : getTool intent.intent = some tool
  limited : tool.alwaysAvailable = false
  ranked : tool.minRoleRank ≤ user.role.rank

/-- What the broker needs to know of the droid can be read. -/
structure Readable (s : Site) (intent : StructuredIntent) (tool : ToolSpec) (m : Brain (SimWorld Stores)) : Prop where
  capability : tool.requiredCapability.isSome = true → ∃ caps, s.equipment.body.capabilities.raw = .dict caps
  readiness : tool.requiresMotion = true → s.equipment.body.capabilities.supportsMotion = .ok true →
    Sendable s intent tool m.rt.env.store.world.data →
      m.rt.controller.estop = true ∨ Answering (simulated (furnished s)) m.rt.env

/-- The broker comes to a decision exactly if that can be read. -/
theorem validate_returns (safety : hasSafety reg = true) (given : intent.arguments = .dict items) (confirmed : Bool) :
    (∃ d, (validate (simulated (furnished s)) reg intent user confirmed m).1 = .ok d) ↔
      ∀ tool, Consulted intent user tool → Readable s intent tool m := by
  rw [validate_returns_iff]
  have each (tool : ToolSpec) (registered : getTool intent.intent = some tool) :
      Answered (simulated (furnished s)) reg intent tool m ↔ Readable s intent tool m := by
    have locomotes (moves : tool.requiresMotion = true) : tool.requiredCapability = some "locomotion" :=
      (motion_tool_guarded tool (List.mem_of_find?_eq_some registered) moves).2.1
    constructor
    · intro answered
      refine ⟨capabilityOk_returns_iff.mp answered.capability, fun moves mobile => ?_⟩
      obtain ⟨caps, mapping⟩ := Body.Package.Capabilities.mapping_of_supportsMotion mobile
      have capable : ∃ reason, capabilityOk (simulated (furnished s)) tool = .ok (true, reason) := by
        unfold capabilityOk
        rw [locomotes moves]
        exact ⟨"locomotion available", by
          dsimp only
          rw [if_pos rfl]
          change (s.equipment.body.capabilities.supportsMotion >>= _) = _
          rw [mobile]
          rfl⟩
      obtain ⟨reason, capable⟩ := capable
      exact (motionChecks_returns safety mapping given moves).mp (answered.motion reason capable)
    · intro readable
      refine ⟨capabilityOk_returns_iff.mpr readable.capability, fun reason capable => ?_, fun _ _ _ _ => ?_⟩
      · by_cases moves : tool.requiresMotion = true
        · have mobile := capable_moves (locomotes moves) capable
          obtain ⟨caps, mapping⟩ := Body.Package.Capabilities.mapping_of_supportsMotion mobile
          exact (motionChecks_returns safety mapping given moves).mpr (readable.readiness moves mobile)
        · unfold motionChecks
          rw [if_pos (by simpa using moves)]
          exact ⟨_, rfl⟩
      · have looked (dest : PyVal) (w : SimWorld Stores) :
            ∃ place, ((simulated (furnished s)).resolve dest w).1 = .ok place := ⟨_, rfl⟩
        exact needsConfirmation_returns given looked _
  constructor
  · intro all tool consulted
    exact (each tool consulted.registered).mp (all tool consulted.registered consulted.limited consulted.ranked)
  · intro all tool registered limited ranked
    exact (each tool registered).mpr (all tool ⟨registered, limited, ranked⟩)

/-! The answer. -/

/-- What the intent needs to be answered. -/
structure Serves (s : Site) (user : User) (confirmed : Bool) (intent : StructuredIntent)
    (m : Brain (SimWorld Stores)) : Prop where
  readable : ∀ tool, Consulted intent user tool → Readable s intent tool m
  battery : intent.intent = "robot.get_battery" → BatteryRead s m.rt.env.backend
  place : intent.intent = "memory.store_place" → Role.operator.rank ≤ user.role.rank →
    ∀ items, intent.arguments = .dict items → (personal s.equipment.text items = true → confirmed = true) →
      Storable s.equipment.text m.rt.env.backend.pose items


variable {authorizer : Authorizer} {providers : List Provider}

/-- A decision that approves is carried out and told of, unless a battery cannot be read or a place cannot be
stored. -/
private theorem execute_returns (sums : Summarizes s.equipment) (laws : s.equipment.text.Lawful)
    {decision : BrokerDecision} (given : decision.intent.arguments = .dict items)
    (listed : decision.intent.intent ∈ defaultTools.map ToolSpec.name) (degraded : Bool) :
    (∃ response, ((execute (simulated (furnished s)) reg (worded s p authorizer providers) decision user
      degraded).run m).1 = .ok response) ↔
      (decision.intent.intent = "robot.get_battery" → BatteryRead s m.rt.env.backend) ∧
        (decision.intent.intent = "memory.store_place" →
          Storable s.equipment.text m.rt.env.backend.pose items) := by
  obtain ⟨task, m', named, arguments, same, ran⟩ := @runIntent_run s reg decision.intent items m given user.name
  have told := @settled_told s reg p sums laws task (by rw [named]; exact listed) m'
  rw [named, arguments, same] at told
  rw [← told]
  have wording (result : TaskResult) : (worded s p authorizer providers).render { result with taskId := task.taskId } =
      render s.equipment.text p result := rfl
  unfold execute Told
  rw [Coroutine.run_bind, Coroutine.run_attempt, attempt_bind, ran]
  dsimp only
  rw [Coroutine.run_bind, Coroutine.run_atomically, wording]
  rcases render s.equipment.text p _ with e | said
  · exact iff_of_false (fun ⟨response, raised⟩ => by cases raised) fun ⟨said, raised⟩ => by cases raised
  · exact iff_of_true ⟨_, rfl⟩ ⟨said, rfl⟩

/-! Decisions. -/

/-- A tool that neither moves the droid nor needs a capability is approved for users of its rank, who confirm it
if they have to. -/
private theorem plain_approved {confirmed : Bool} (given : intent.arguments = .dict items)
    (consulted : Consulted intent user tool) (capability : tool.requiredCapability = none)
    (still : tool.requiresMotion = false)
    (confirms : ∀ prompt, (needsConfirmation (simulated (furnished s)) tool intent m.rt.env).1 = .ok (true, prompt) →
      confirmed = true) :
    ∃ d, (validate (simulated (furnished s)) reg intent user confirmed m).1 = .ok d ∧ d.outcome = .approved ∧
      d.intent = intent := by
  have unmoved : motionChecks (simulated (furnished s)) reg intent tool m = (.ok ([], none), m) := by
    unfold motionChecks
    rw [if_pos (by simp [still])]
    rfl
  have looked (dest : PyVal) (w : SimWorld Stores) :
      ∃ place, ((simulated (furnished s)).resolve dest w).1 = .ok place := ⟨_, rfl⟩
  obtain ⟨answer, asked⟩ := @needsConfirmation_returns _ (simulated (furnished s)) tool intent items given looked m.rt.env
  have question : (onRt (outside (needsConfirmation (simulated (furnished s)) tool intent))
      (motionChecks (simulated (furnished s)) reg intent tool m).2).1 = .ok answer := by
    rw [unmoved, onRt_run, outside_run]
    exact asked
  refine cleared_approved consulted.registered ⟨consulted.ranked, ?_, ?_, ?_⟩ question
  · unfold capabilityOk
    rw [capability]
    exact ⟨_, rfl⟩
  · intro moves
    rw [still] at moves
    cases moves
  · intro prompt needed
    rw [unmoved, onRt_run, outside_run] at needed
    exact confirms prompt needed

/-- The tools whose answers may fail. -/
def batteryTool : ToolSpec := { name := "robot.get_battery", description := "report battery level" }

def placeTool : ToolSpec :=
  { name := "memory.store_place", risk := .dataWrite, confirmation := .conditional, minRoleRank := 1,
    description := "remember a named place" }

/-- An intent is answered exactly if it gets what it needs. -/
theorem dispatch_returns_iff (safety : hasSafety reg = true) (sums : Summarizes s.equipment)
    (laws : s.equipment.text.Lawful) (given : intent.arguments = .dict items) (confirmed degraded : Bool) :
    (∃ response, ((dispatch (simulated (furnished s)) reg (worded s p authorizer providers) intent user confirmed
      degraded).run m).1 = .ok response) ↔ Serves s user confirmed intent m := by
  have unseen : (validate (simulated (furnished s)) reg intent user confirmed m).2.rt.env = m.rt.env :=
    ((seen_reads m.rt.env).keeps_validate intent user confirmed).after rfl
  -- whether a place has to be confirmed depends on its arguments only
  obtain ⟨prompt, asked⟩ := @needsConfirmation_memory _ (simulated (furnished s)) placeTool intent items given rfl
    (by decide) (.inr rfl) m.rt.env
  have mentions {prompt' : String}
      (needed : (needsConfirmation (simulated (furnished s)) placeTool intent m.rt.env).1 = .ok (true, prompt')) :
      personal s.equipment.text items = true :=
    (Prod.mk.inj (Except.ok.inj (asked.symm.trans needed))).1
  unfold dispatch
  rw [Coroutine.run_bind, Coroutine.run_atomically]
  rcases validated : validate (simulated (furnished s)) reg intent user confirmed m with ⟨e | d, m₁⟩
  · rw [bind_error validated]
    refine iff_of_false (fun ⟨response, raised⟩ => by cases raised) fun serves => ?_
    obtain ⟨d, decided⟩ := (validate_returns safety given confirmed).mpr serves.readable
    rw [validated] at decided
    cases decided
  rw [validated] at unseen
  have readable := (validate_returns (s := s) safety given confirmed).mp ⟨d, by rw [validated]⟩
  have approved_as {d' : BrokerDecision} (decided : (validate (simulated (furnished s)) reg intent user confirmed m).1 =
      .ok d') : d' = d := by
    rw [validated] at decided
    exact (Except.ok.inj decided).symm
  have battery (named : intent.intent = "robot.get_battery") : d.outcome = .approved := by
    have consulted : Consulted intent user batteryTool := ⟨by rw [named]; rfl, rfl, Nat.zero_le _⟩
    obtain ⟨d', decided, approved, -⟩ := @plain_approved s reg intent items m user batteryTool confirmed given consulted
      rfl rfl fun prompt needed => by cases needed
    rw [← approved_as decided]
    exact approved
  have place (named : intent.intent = "memory.store_place") (ranked : Role.operator.rank ≤ user.role.rank)
      (confirms : personal s.equipment.text items = true → confirmed = true) : d.outcome = .approved := by
    have consulted : Consulted intent user placeTool := ⟨by rw [named]; rfl, rfl, ranked⟩
    obtain ⟨d', decided, approved, -⟩ := @plain_approved s reg intent items m user placeTool confirmed given consulted
      rfl rfl fun prompt' needed => confirms (mentions needed)
    rw [← approved_as decided]
    exact approved
  have emitted : ∃ m₂ : Brain (SimWorld Stores),
      onRt (outside ((simulated (furnished s)).emit (approvalRecord user d))) m₁ = (.ok (), m₂) ∧
        m₂.rt.env.backend = m₁.rt.env.backend := ⟨_, rfl, rfl⟩
  obtain ⟨m₂, emitted, same⟩ := emitted
  rw [bind_ok validated, Coroutine.run_bind, Coroutine.run_atomically, bind_ok emitted]
  have unserved (other : d.outcome ≠ .approved) : Serves s user confirmed intent m := by
    refine ⟨readable, fun named => absurd (battery named) other, fun named ranked items' mapping confirms => ?_⟩
    cases given.symm.trans mapping
    exact absurd (place named ranked confirms) other
  cases outcome : d.outcome with
  | confirm => exact iff_of_true ⟨_, rfl⟩ (unserved (by rw [outcome]; decide))
  | rejected => exact iff_of_true ⟨_, rfl⟩ (unserved (by rw [outcome]; decide))
  | approved =>
    obtain ⟨own, tool, registered, free⟩ := approved_cleared (by rw [validated]) outcome
    have listed : d.intent.intent ∈ defaultTools.map ToolSpec.name := by
      rw [own]
      exact List.mem_map.mpr ⟨tool, List.mem_of_find?_eq_some registered, by
        simpa using List.find?_some registered⟩
    have carried := @execute_returns s reg p items m₂ user authorizer providers sums laws d (by rw [own]; exact given)
      listed degraded
    rw [own, same, unseen] at carried
    refine carried.trans ?_
    constructor
    · rintro ⟨charge, stored⟩
      refine ⟨readable, charge, fun named _ items' mapping _ => ?_⟩
      cases given.symm.trans mapping
      exact stored named
    · intro serves
      refine ⟨serves.battery, fun named => ?_⟩
      have own_tool : getTool intent.intent = some placeTool := by rw [named]; rfl
      cases registered.symm.trans own_tool
      rcases free with always | cleared
      · cases always
      refine serves.place named cleared.rank items given fun mentioned => cleared.confirmation prompt ?_
      refine asked.trans ?_
      change Except.ok (personal s.equipment.text items, prompt) = _
      rw [mentioned]

end DroidOs.System.Serving
