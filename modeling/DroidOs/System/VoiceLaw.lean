/- GID: DroidOs/System/VoiceLaw
   generality: I
   source: src/droidos/services/voice.py, src/droidos/language/broker.py, src/droidos/language/tools.py
   digest: What a droid keeps that nobody confirms anything to. -/

import DroidOs.Language.Approval
import DroidOs.Language.Utterance
import DroidOs.System.Furnished
import DroidOs.System.LatchLaw
import DroidOs.System.WorldLaw

set_option autoImplicit false
set_option relaxedAutoImplicit false

namespace DroidOs.System.VoiceLaw

open DroidOs.Lib.Procedure DroidOs.Lib.Interleaving
open DroidOs.Lib.Interleaving.Coroutine (atomically free)
open DroidOs.Core.Values DroidOs.Core.States DroidOs.Core.Context
open DroidOs.Backends.Simulation
open DroidOs.Services DroidOs.Services.Lifecycle DroidOs.Services.HookLaw
open DroidOs.Services.SafetyGateway DroidOs.Services.Supervisor
open DroidOs.Executive.Drive DroidOs.Executive.RunIntent DroidOs.Executive.Tools
open DroidOs.Language.Intent DroidOs.Language.Broker DroidOs.Language.Conversation
open DroidOs.Language.Approval DroidOs.Language.Utterance
open Registration Boot TaskSteps TaskLaw StepLaw WorldLaw Operations Simulated Furnished LatchLaw

/-! What is approved without a confirmation. -/

/-- The tool is always available, or does not require a confirmation whatever it is asked. -/
def unprompted (name : String) : Bool :=
  (getTool name).any fun tool => tool.alwaysAvailable || decide (tool.confirmation ≠ .required)

private theorem required_still : ∀ tool ∈ defaultTools, tool.confirmation = .required → tool.requiresMotion = false := by
  decide

/-- What requires a confirmation is not approved without one. -/
theorem unprompted_approves {ε : Type} {svc : Services ε} {reg : Registry (Runtime ε)} {user : User} :
    ApprovesAt svc reg user false (unprompted · = true) := by
  intro intent m d decided approved
  obtain ⟨same, tool, registered, free⟩ := approved_cleared decided approved
  rw [same, unprompted, registered, Option.any_some, Bool.or_eq_true, decide_eq_true_iff]
  by_contra prompted
  obtain ⟨limited, required⟩ := not_or.mp prompted
  have required : tool.confirmation = .required := not_not.mp required
  rcases free with always | cleared
  · exact limited always
  have still := required_still tool (List.mem_of_find?_eq_some registered) required
  have unchecked : motionChecks svc reg intent tool m = (.ok ([], none), m) := by
    unfold motionChecks
    rw [if_pos (by simp [still])]
    rfl
  obtain ⟨reason, capable⟩ := cleared.capable
  have answered := validate_returns_iff.mp ⟨d, decided⟩ tool registered (Bool.eq_false_iff.mpr limited) cleared.rank
  obtain ⟨⟨needed, prompt⟩, asked⟩ := answered.confirmation reason capable [] (by rw [unchecked])
  have needs : needed = true := by
    rw [onRt_run, outside_run, needsConfirmation, required] at asked
    rcases words : confirmPrompt svc tool intent with e | p <;> rw [words] at asked
    · cases asked
    · cases asked
      rfl
  subst needs
  cases cleared.confirmation prompt asked

/-! What stays. -/

/-- The services have loaded what is in their files. -/
structure Settled (st : Stores) : Prop where
  memory : ∀ entries, st.memory.file = .document entries → st.memory.entries = entries
  update : st.update.load = st.update

/-- Nothing has been forgotten, installed or selected since. -/
structure Unharmed (st₀ st : Stores) : Prop where
  memory : st₀.memory.entries <+: st.memory.entries
  update : st.update = st₀.update
  selection : st.selection = st₀.selection
  settled : Settled st

variable {s : Site} {st₀ : Stores} {α : Type}

private theorem unharmed_same {st st' : Stores} (holds : Unharmed st₀ st) (memory : st'.memory = st.memory)
    (update : st'.update = st.update) (selection : st'.selection = st.selection) : Unharmed st₀ st' where
  memory := memory ▸ holds.memory
  update := update.trans holds.update
  selection := selection.trans holds.selection
  settled := ⟨fun entries file => by
    rw [memory] at file ⊢
    exact holds.settled.memory entries file, by rw [update, holds.settled.update]⟩

private theorem unharmed_memory {st : Stores} (holds : Unharmed st₀ st) {memory : Memory.MemoryStore}
    (more : st.memory.entries <+: memory.entries)
    (settled : ∀ entries, memory.file = .document entries → memory.entries = entries) :
    Unharmed st₀ { st with memory := memory } where
  memory := holds.memory.trans more
  update := holds.update
  selection := holds.selection
  settled := ⟨settled, holds.settled.update⟩

private theorem unharmed_onWorld (p : Proc WorldModel.WorldStore Exn α) : Keeps (Unharmed st₀) (onWorld p) :=
  keeps_zoom fun st holds => unharmed_same holds rfl rfl rfl

private theorem unharmed_remember (text : PyText) (words : PyVal) (category : String) (info : PyVal) :
    Keeps (Unharmed st₀) (onMemory (Memory.remember text words category info)) := by
  refine keeps_zoom fun st holds => ?_
  rw [Memory.remember_run]
  cases Memory.newEntry text words category info with
  | error e => exact unharmed_memory holds (List.prefix_refl _) holds.settled.memory
  | ok entry =>
    refine unharmed_memory holds (List.prefix_append _ _) fun entries file => ?_
    cases file
    rfl

private theorem unharmed_hRemember (e : Equipment) (arguments : Items) :
    Keeps (Unharmed st₀) (hRemember e arguments) :=
  keeps_ite (fun _ => keeps_pure _) fun _ => keeps_bind (unharmed_remember _ _ _ _) fun _ => keeps_pure _

private theorem unharmed_hStorePlace (e : Equipment) (b : SimulationBackend) (arguments : Items) :
    Keeps (Unharmed st₀) (hStorePlace e b arguments) := by
  refine keeps_ite (fun _ => keeps_pure _) fun _ => keeps_bind (keeps_ofExcept _) fun _ => ?_
  refine keeps_bind (keeps_ofExcept _) fun _ => keeps_bind (unharmed_onWorld _) fun _ => ?_
  exact keeps_bind (unharmed_remember _ _ _ _) fun _ => keeps_pure _

/-- Of the tools of other services only those are open without a confirmation that read or add something. -/
theorem open_tools_add : ∀ name ∈ toolIntents, unprompted name = true →
    name ∈ readingTools ∨ name = "memory.remember" ∨ name = "memory.store_place" := by decide

private theorem unharmed_reading (e : Equipment) (b : SimulationBackend) {name : String}
    (reads_ : name ∈ readingTools) (arguments : Items) : Keeps (Unharmed st₀) (tool e b name arguments) :=
  keeps_iff.mpr fun st holds => by
    rw [tool_reading e b reads_]
    exact holds

theorem unharmed_tool (e : Equipment) (b : SimulationBackend) {name : String} (listed : name ∈ toolIntents)
    (allowed : unprompted name = true) (arguments : Items) : Keeps (Unharmed st₀) (tool e b name arguments) := by
  rcases open_tools_add name listed allowed with reads_ | rfl | rfl
  · exact unharmed_reading e b reads_ arguments
  · exact unharmed_hRemember e arguments
  · exact unharmed_hStorePlace e b arguments

/-- Loading again what has been loaded changes nothing. -/
theorem unharmed_configure (name : String) : Keeps (Unharmed st₀) (configureStore name) := by
  unfold configureStore
  refine keeps_ite (fun _ => unharmed_onWorld _) fun _ => keeps_ite (fun _ => ?_) fun _ =>
    keeps_ite (fun _ => ?_) fun _ => keeps_pure _
  · refine keeps_zoom fun st holds => ?_
    have loaded := holds.settled.memory
    rw [Memory.configure, reads_bind]
    cases file : st.memory.file with
    | document entries =>
      rw [← loaded entries file]
      exact unharmed_memory holds (List.prefix_refl _) fun _ same => loaded _ same
    | missing => exact holds
    | broken => exact holds
    | undecodable => exact holds
  · refine keeps_zoom fun st holds => ?_
    exact unharmed_same holds rfl holds.settled.update rfl

/-! What happens in the simulated system. -/

/-- The stores of the running system are as good as those. -/
def Keeping (st₀ : Stores) (rt : Runtime (SimWorld Stores)) : Prop := Unharmed st₀ rt.env.store

private theorem keeping_outside {p : Proc (SimWorld Stores) Exn α}
    (kept : Keeps (fun w => Unharmed st₀ w.store) p) : Keeps (Keeping st₀) (outside p) :=
  keeps_zoom fun rt holds => kept.after holds

private theorem kept_stored {p : SimulationBackend → Proc Stores Exn α} (kept : ∀ b, Keeps (Unharmed st₀) (p b)) :
    Keeps (fun w => Unharmed st₀ w.store) (stored p) :=
  keeps_iff.mpr fun w holds => (kept w.backend).after holds

private theorem kept_onBackend (f : SimulationBackend → SimulationBackend) :
    Keeps (fun w : SimWorld Stores => Unharmed st₀ w.store) (onBackend f) :=
  keeps_modify fun _ holds => holds

private theorem kept_readBackend (f : SimulationBackend → Except Exn α) :
    Keeps (fun w : SimWorld Stores => Unharmed st₀ w.store) (readBackend f) :=
  keeps_iff.mpr fun _ holds => holds

private theorem kept_commandBackend (f : SimulationBackend → Except Exn SimulationBackend) :
    Keeps (fun w : SimWorld Stores => Unharmed st₀ w.store) (commandBackend f) :=
  keeps_bind (kept_readBackend f) fun b => kept_onBackend fun _ => b

private theorem kept_commandGait (policy : Gait.Policy.GaitPolicy) (vel : BodyVelocity) (dt : PyFloat) :
    Keeps (fun w => Unharmed st₀ w.store) (commandGait (furnished s) policy vel dt) :=
  keeps_bind (keeps_modify fun _ holds => holds) fun _ => keeps_bind (keeps_ofExcept _) fun targets =>
    kept_onBackend fun b => b.commandJoints targets

private theorem kept_drive (vel : BodyVelocity) (dt : PyFloat) :
    Keeps (fun w => Unharmed st₀ w.store) (drive (furnished s) vel dt) := by
  have forwarded (vel : BodyVelocity) : Keeps (fun w : SimWorld Stores => Unharmed st₀ w.store) (do
      commandBackend fun b => b.commandVelocity (furnished s).text (furnished s).math (furnished s).body vel dt
      zoom SimWorld.backend (fun b w => { w with backend := b }) (SimulationBackend.step dt)) :=
    keeps_bind (kept_commandBackend _) fun _ => keeps_zoom fun _ holds => holds
  unfold drive
  refine keeps_bind (keeps_ofExcept _) fun _ => keeps_ite (fun _ => keeps_raise _) fun _ => ?_
  refine keeps_bind (keeps_ofExcept _) fun _ => keeps_bind (keeps_ofExcept _) fun vel => ?_
  refine keeps_bind (keeps_reads _) fun policy => ?_
  cases policy with
  | none => exact forwarded vel
  | some policy => exact keeps_bind (kept_commandGait policy vel dt) fun _ => forwarded vel

theorem keeping_worldly : Worldly (simulated (furnished s)) (Keeping st₀) where
  beside rt rt' holds env _ := by
    unfold Keeping
    rw [env]
    exact holds
  reading call := keeping_outside (keeps_iff.mpr fun w holds => by
    rw [reading_same call]
    exact holds)
  emit r := keeping_outside (keeps_modify fun _ holds => unharmed_same holds rfl rfl rfl)
  publish _ := keeping_outside (keeps_modify fun _ holds => holds)
  off := keeping_outside (kept_onBackend fun b => b.setPower false)

private theorem keeping_noteObstacle (dist : PyFloat) :
    Keeps (Keeping st₀) (outside (noteObstacle (simulated (furnished s)) dist)) := by
  refine keeping_outside (keeps_bind (keeps_reads _) fun _ => keeps_bind (keeps_reads _) fun _ => ?_)
  exact kept_stored fun _ => unharmed_onWorld _

theorem keeping_driveTick (goal : Pose) (d : DriveData) :
    Keeps (Keeping st₀) (driveTick (simulated (furnished s)) goal d) := by
  refine keeps_bind (keeps_reads _) fun _ => keeps_ite (fun _ => keeps_pure _) fun _ => ?_
  refine keeps_bind (keeping_outside (kept_readBackend _)) fun _ => keeps_ite (fun _ => keeps_pure _) fun _ => ?_
  refine keeps_bind (keeping_outside (kept_readBackend _)) fun ⟨_, dist⟩ => keeps_ite (fun _ => ?_) fun _ => ?_
  · cases dist with
    | none => exact keeps_pure _
    | some dist => exact keeps_bind (keeping_noteObstacle dist) fun _ => keeps_pure _
  refine keeps_bind (keeping_outside (keeps_reads _)) fun here => ?_
  refine keeps_bind (keeping_outside (keeps_ofExcept _)) fun ⟨vel, _⟩ => ?_
  refine keeps_ite (fun _ => keeps_pure _) fun _ => ?_
  exact keeps_bind (keeping_outside (kept_drive vel driveDt)) fun _ => keeps_pure _

private theorem keeping_configure (name : String) :
    Keeps (Keeping st₀) (outside ((simulated (furnished s)).configure name)) := by
  refine keeping_outside (keeps_ite (fun _ => ?_) fun _ => kept_stored fun _ => unharmed_configure name)
  exact keeps_ite (fun _ => keeps_bind (keeps_ofExcept _) fun _ => keeps_modify fun _ holds => holds)
    fun _ => keeps_pure _

/-- The steps of a task that needs no confirmation leave the stores as good as those. -/
theorem keeping_carries : Carries (simulated (furnished s)) (unprompted · = true) (Keeping st₀) where
  toWorldly := keeping_worldly
  start _ holds := holds
  cancel _ _ holds := holds
  stop := keeping_outside (kept_commandBackend _)
  tool _ arguments open_ listed := keeping_outside (kept_stored fun b => unharmed_tool _ b listed open_ arguments)
  diagnostics _ name listed arguments := by
    have reads_ : name ∈ readingTools := by
      simp only [List.mem_cons, List.not_mem_nil, or_false] at listed
      rcases listed with rfl | rfl <;> decide
    exact keeping_outside (kept_stored fun b => unharmed_reading s.equipment b reads_ arguments)
  shutdown open_ := by
    have closed : unprompted "system.shutdown" = false := by decide
    rw [closed] at open_
    cases open_
  tick _ goal d := keeping_driveTick goal d
  dock _ := keeping_outside (keeps_bind (kept_onBackend _) fun _ => keeps_pure _)
  inspect _ target := by
    have inspects (b : SimulationBackend) : Keeps (Unharmed st₀) ((furnished s).inspect b target) := keeps_ofExcept _
    exact keeping_outside (kept_stored inspects)

theorem keeping_request : Keeps (Keeping st₀) (requestMotionPermission (simulated (furnished s))) :=
  keeping_worldly.keeps_request (keeping_outside (kept_onBackend fun b => b.setPower true))

private theorem keeping_shutdown : Keeps (Keeping st₀) (outside (simulated (furnished s)).shutdown) :=
  keeping_outside (kept_onBackend SimulationBackend.shutdown)

private theorem keeping_step {step : Brain (SimWorld Stores) → Brain (SimWorld Stores)}
    (taken : TaskStep (simulated (furnished s)) (droidServices (simulated (furnished s))) (unprompted · = true) step)
    (m : Brain (SimWorld Stores)) (holds : Keeping st₀ m.rt) : Keeping st₀ (step m).rt := by
  rcases keeping_carries.step_cases taken with ⟨rfl, -⟩ | kept
  · exact (keeps_onRt_of keeping_request).after holds
  · exact kept m holds

theorem keeping_runIntent {intent : StructuredIntent} (open_ : unprompted intent.intent = true) (user : String) :
    (runIntent (simulated (furnished s)) (droidServices (simulated (furnished s))) intent user).Keeps free
      fun m => Keeping st₀ m.rt :=
  Coroutine.keeps_of_atoms (atoms_runIntent (P := (unprompted · = true)) open_ user) fun _ taken m holds _ =>
    keeping_step taken m holds

theorem keeping_process {lang : LanguageService} {r : Request} (fresh : r.pending = none)
    (unconfirmed : r.confirmed = false) :
    (process (simulated (furnished s)) (droidServices (simulated (furnished s))) lang r).Keeps free
      fun m => Keeping st₀ m.rt := by
  have approves : ApprovesAt (simulated (furnished s)) (droidServices (simulated (furnished s)))
      (lang.authorizer.resolve r.user) r.confirmed (unprompted · = true) := unconfirmed ▸ unprompted_approves
  exact Coroutine.keeps_of_atoms (atoms_fresh (P := (unprompted · = true)) fresh approves) fun _ taken m holds _ =>
    keeping_step taken m holds

/-! Whatever is said to the droid. -/

/-- An operation that is no confirmed command, no answer to a prompt and no task that requires a confirmation,
and that leaves the stores to the services. -/
def Unconfirmed : Operation (SimEvent Stores) → Prop
  | .ask _ r => r.pending = none ∧ r.confirmed = false
  | .runIntent intent _ => unprompted intent.intent = true
  | .happen (.store _) => False
  | _ => True

/-- What happens to a droid that is spoken to: its boot, an utterance, or such an operation. -/
inductive Happening
  | boots
  | heard (v : Voice) (words : String) (user : Option String)
  | other (op : Operation (SimEvent Stores)) (unconfirmed : Unconfirmed op)

def Happening.code (s : Site) : Happening → Coroutine (Brain (SimWorld Stores)) Exn Unit
  | .boots => (atomically (boot (simulated (furnished s)) (droidServices (simulated (furnished s))))).void
  | .heard v words user =>
    (handleUtterance (simulated (furnished s)) (droidServices (simulated (furnished s))) v words user).void
  | .other op _ => Operations.code (simulated (furnished s)) happening op

theorem keeping_boots : Boots (simulated (furnished s)) (Keeping st₀) where
  hooks := keeping_worldly.keepsHooks keeping_configure
  reports _ _ _ := keeps_modify fun _ holds => holds
  enter dst reason _ := (keeping_worldly (s := s)).keeps_transition dst reason
  connect := keeping_outside (kept_onBackend SimulationBackend.connect)
  refresh := keeping_worldly.keeps_refresh _

/-- An utterance answers no prompt and confirms nothing. -/
theorem request_unconfirmed {text : PyText} {v : Voice} {words : String} {user : Option String} {r : Request}
    (asks : v.request text words user = some r) : r.pending = none ∧ r.confirmed = false := by
  unfold Voice.request at asks
  split at asks
  · cases asks
  · cases asks
    exact ⟨rfl, rfl⟩

theorem keeping_utterance (v : Voice) (words : String) (user : Option String) :
    (handleUtterance (simulated (furnished s)) (droidServices (simulated (furnished s))) v words user).Keeps free
      fun m => Keeping st₀ m.rt := by
  unfold handleUtterance
  dsimp only
  cases detectEmergency (simulated (furnished s)).text words with
  | some emergency =>
    cases emergency with
    | emergencyStop =>
      exact Coroutine.keeps_bind (Coroutine.keeps_atomically (keeps_onRt_of (keeping_worldly.keeps_engage _)))
        fun _ => Coroutine.keeps_pure _
    | stop =>
      exact Coroutine.keeps_bind (Coroutine.keeps_atomically (keeps_onRt_of keeping_carries.stop))
        fun _ => Coroutine.keeps_pure _
  | none =>
    dsimp only
    cases asked : v.request (simulated (furnished s)).text words user with
    | none => exact Coroutine.keeps_pure _
    | some r =>
      obtain ⟨fresh, unconfirmed⟩ := request_unconfirmed asked
      exact Coroutine.keeps_bind (keeping_process fresh unconfirmed) fun _ => Coroutine.keeps_pure _

private theorem keeping_happening (event : SimEvent Stores) (unconfirmed : Unconfirmed (.happen event)) :
    Keeps (Keeping st₀) (modify fun rt => { rt with env := happening event rt.env } : Proc _ Exn Unit) := by
  refine keeps_modify fun rt holds => ?_
  cases event with
  | injectFault kind params => exact holds
  | clearFaults => exact holds
  | store f => cases unconfirmed

theorem keeping_operation {op : Operation (SimEvent Stores)} (unconfirmed : Unconfirmed op) :
    (Operations.code (simulated (furnished s)) happening op).Keeps free fun m => Keeping st₀ m.rt := by
  have worldly : Worldly (simulated (furnished s)) (Keeping st₀) := keeping_worldly
  have void {α : Type} {p : Proc (Brain (SimWorld Stores)) Exn α} (kept : Keeps (fun m => Keeping st₀ m.rt) p) :
      (atomically p).void.Keeps free fun m => Keeping st₀ m.rt :=
    Coroutine.keeps_void (Coroutine.keeps_atomically kept)
  cases op with
  | ask lang r => exact Coroutine.keeps_void (keeping_process unconfirmed.1 unconfirmed.2)
  | runIntent intent user => exact Coroutine.keeps_void (keeping_runIntent unconfirmed user)
  | engageEstop reason => exact Coroutine.keeps_atomically (keeps_onRt_of (worldly.keeps_engage reason))
  | resetEstop => exact void (keeps_onRt_of worldly.keeps_reset)
  | reportFault name => exact Coroutine.keeps_atomically (keeps_onRt_of (worldly.keeps_fault name))
  | requestMotionPermission => exact void (keeps_onRt_of keeping_request)
  | releaseMotionPermission => exact Coroutine.keeps_atomically (keeps_onRt_of worldly.keeps_release)
  | heartbeat => exact Coroutine.keeps_atomically (keeps_onRt_of worldly.toReads.heartbeat)
  | status => exact void (keeps_onRt_of (keeps_bind worldly.toReads.heartbeat fun _ => worldly.toReads.status))
  | healthy => exact void (keeps_onRt_of worldly.toReads.keeps_healthy)
  | diagnostics => exact void (keeps_onRt_of worldly.toReads.keeps_diagnostics)
  | setSafetyLink up => exact Coroutine.keeps_atomically (keeps_onRt_of (worldly.keeps_link up))
  | refresh => exact void (worldly.keeps_refresh _)
  | shutdown => exact Coroutine.keeps_atomically (worldly.forbids.keeps_requestShutdown keeping_shutdown)
  | restartFailed => exact void (worldly.keeps_restartFailed keeping_configure)
  | cancel => exact Coroutine.keeps_atomically (keeps_onRt_of (keeps_modify fun _ holds => holds))
  | stop => exact Coroutine.keeps_atomically (keeps_onRt_of keeping_carries.stop)
  | elapse dt => exact Coroutine.keeps_atomically (keeps_onRt_of (keeps_modify fun _ holds => holds))
  | happen event => exact Coroutine.keeps_atomically (keeps_onRt_of (keeping_happening event unconfirmed))

def ownerVoice : Voice where
  language := { authorizer := { users := [] }, providers := [], refuse := id, render := fun _ => .ok "" }
  engine := fun _ => some "owner"
  wakeNames := ["droid"]

/-- The owner wants everything forgotten and says yes to it, while somebody asks for an update. -/
def spokenEvening : List (Move Happening) :=
  [.start .boots, .resume 0, .start (.heard ownerVoice "forget everything" none), .resume 1, .resume 1, .resume 1,
    .start (.heard ownerVoice "yes" none), .resume 2, .resume 2,
    .start (.other (.ask ownerVoice.language { text := "install the update", user := some "owner" }) ⟨rfl, rfl⟩),
    .resume 3, .resume 2, .resume 1, .resume 3, .resume 2, .resume 3]

end DroidOs.System.VoiceLaw
