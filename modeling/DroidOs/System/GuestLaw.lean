/- GID: DroidOs/System/GuestLaw
   generality: I
   source: src/droidos/language/service.py, src/droidos/language/tools.py
   digest: What guests can change by talking to the droid. -/

import DroidOs.Language.Approval
import DroidOs.System.Furnished
import DroidOs.System.WorldLaw

set_option autoImplicit false
set_option relaxedAutoImplicit false

namespace DroidOs.System.GuestLaw

open DroidOs.Lib.Procedure DroidOs.Lib.Interleaving
open DroidOs.Lib.Interleaving.Coroutine (free trace)
open DroidOs.Core.Values DroidOs.Core.Context
open DroidOs.Backends.Simulation
open DroidOs.Services.Lifecycle DroidOs.Services.Supervisor
open DroidOs.Executive.Tools
open DroidOs.Language.Intent DroidOs.Language.Broker DroidOs.Language.Conversation
open DroidOs.Language.Approval
open Registration TaskSteps TaskLaw WorldLaw Simulated Furnished

/-! Calls of the language service, one after another. -/

section

variable {ε : Type} (svc : Services ε)

/-- A call of `process`. The providers are as they behave during it. -/
structure Call where
  lang : LanguageService
  request : Request

def Call.user (c : Call) : User := c.lang.authorizer.resolve c.request.user

/-- A call that raises leaves the later ones to come. -/
def converse : List Call → Coroutine (Brain ε) Exn Unit
  | [] => pure ()
  | c :: calls => do
    let _ ← Coroutine.attempt (process svc (droidServices svc) c.lang c.request)
    converse calls

variable {svc}

theorem atoms_converse {P : String → Prop} {calls : List Call}
    (approves : ∀ c ∈ calls, ApprovesFor svc (droidServices svc) c.user P) :
    (converse svc calls).Atoms (TaskStep svc (droidServices svc) P) := by
  induction calls with
  | nil => exact Coroutine.atoms_pure ()
  | cons c calls ih =>
    have first : (process svc (droidServices svc) c.lang c.request).Atoms _ :=
      atoms_process (approves c List.mem_cons_self)
    refine Coroutine.atoms_bind (Coroutine.atoms_attempt first) fun _ => ih fun c' member => ?_
    exact approves c' (List.mem_cons_of_mem c member)

end

/-! What is open to guests. -/

/-- The tool is always available or asks for no rank. -/
def openToGuests (name : String) : Bool :=
  (getTool name).any fun tool => tool.alwaysAvailable || tool.minRoleRank == 0

theorem guest_approves {ε : Type} {svc : Services ε} {reg : Registry (Runtime ε)} {user : User}
    (guest : user.role = .guest) : ApprovesFor svc reg user (openToGuests · = true) := by
  intro intent confirmed m d decided approved
  obtain ⟨same, tool, registered, free⟩ := approved_cleared decided approved
  rw [same]
  unfold openToGuests
  rw [registered]
  rcases free with always | cleared
  · simp [always]
  · have rank := cleared.rank
    rw [guest] at rank
    have none : tool.minRoleRank = 0 := Nat.le_zero.mp rank
    simp [none]

/-- Nothing that drives is open to guests. -/
theorem driving_closed : ∀ name ∈ drivingIntents, openToGuests name = false := by decide

theorem shutdown_closed : openToGuests "system.shutdown" = false := by decide

/-- Of the tools of other services only those are open to guests that read. -/
theorem open_tools_read : ∀ name ∈ toolIntents, openToGuests name = true → name ∈ readingTools := by
  decide

/-! What guests leave as it is. -/

/-- Motor power is off, and the pose and all that is stored, but for the log, are as in
the other context. -/
structure Untouched (rt₀ rt : Runtime (SimWorld Stores)) : Prop where
  still : Still false rt₀.env.backend.pose rt.env
  stores : SameStores rt₀.env.store rt.env.store

variable {s : Site} {rt₀ : Runtime (SimWorld Stores)}

/-- A call outside that is as quiet as this breaks nothing. -/
private theorem untouched_outside {α : Type} {p : Proc (SimWorld Stores) Exn α}
    (still : Keeps (Still false rt₀.env.backend.pose) p)
    (stores : ∀ w, SameStores w.store (p w).2.store) : Keeps (Untouched rt₀) (outside p) := by
  refine keeps_iff.mpr fun rt holds => ⟨still.after holds.still, ?_⟩
  have same := stores rt.env
  have before := holds.stores
  exact ⟨same.memory.trans before.memory, same.world.trans before.world,
    same.update.trans before.update, same.selection.trans before.selection⟩

private theorem commandBackend_store (f : SimulationBackend → Except Exn SimulationBackend)
    (w : SimWorld Stores) : (commandBackend f w).2.store = w.store := by
  rcases commanded : f w.backend with e | b
  · rw [commandBackend, bind_error (t := w) (e := e) (by rw [readBackend, commanded])]
  · rw [commandBackend, bind_ok (t := w) (a := b) (by rw [readBackend, commanded])]
    rfl

private theorem untouched_stop : Keeps (Untouched rt₀) (outside (simulated (furnished s)).stop) := by
  refine untouched_outside (still_quiet (furnished s) .stop) fun w => ?_
  have unwritten : ((simulated (furnished s)).stop w).2.store = w.store := commandBackend_store _ w
  rw [unwritten]
  exact .rfl

private theorem untouched_tool {name : String} (reads : name ∈ readingTools) (arguments : Items) :
    Keeps (Untouched rt₀) (outside ((simulated (furnished s)).tool name arguments)) := by
  refine untouched_outside (still_quiet (furnished s) (.tool name arguments)) fun w => ?_
  have unread := tool_reading s.equipment w.backend reads arguments w.store
  exact ⟨congrArg Stores.memory unread, congrArg Stores.world unread, congrArg Stores.update unread,
    congrArg Stores.selection unread⟩

theorem untouched_worldly : Worldly (simulated (furnished s)) (Untouched rt₀) where
  beside rt rt' holds env _ := by
    constructor
    · rw [env]
      exact holds.still
    · rw [env]
      exact holds.stores
  reading call := untouched_outside (still_quiet _ call.quiet) fun w => by
    rw [reading_same call w]
    exact .rfl
  emit r := untouched_outside (still_quiet _ (.emit r)) fun _ => ⟨rfl, rfl, rfl, rfl⟩
  publish e := untouched_outside (still_quiet _ (.publish e)) fun _ => .rfl
  off := by
    have still : Keeps (Still false rt₀.env.backend.pose) ((simulated (furnished s)).setPower false) :=
      keeps_iff.mpr fun _ holds => ⟨rfl, fun _ => holds.2 rfl⟩
    exact untouched_outside still fun _ => .rfl

theorem untouched_bears : Bears (simulated (furnished s)) (openToGuests · = true) (Untouched rt₀) where
  toWorldly := untouched_worldly
  start _ holds := ⟨holds.still, holds.stores⟩
  cancel _ _ holds := ⟨holds.still, holds.stores⟩
  stop := untouched_stop
  tool name arguments open_ listed := untouched_tool (open_tools_read name listed open_) arguments
  diagnostics _ name listed arguments := by
    refine untouched_tool ?_ arguments
    simp only [List.mem_cons, List.not_mem_nil, or_false] at listed
    rcases listed with rfl | rfl <;> decide
  shutdown open_ := by simp [shutdown_closed] at open_
  drive drives := by
    obtain ⟨name, listed, open_⟩ := drives
    simp [driving_closed name listed] at open_
  dock open_ := by
    have closed := driving_closed "navigation.go_charge" (by decide)
    rw [closed] at open_
    cases open_
  inspect open_ := by
    have closed := driving_closed "inspect.named_target" (by decide)
    rw [closed] at open_
    cases open_

/-- No step that a guest's call may take touches anything. -/
theorem untouched_step {step : Brain (SimWorld Stores) → Brain (SimWorld Stores)}
    (taken : TaskStep (simulated (furnished s)) (droidServices (simulated (furnished s)))
      (openToGuests · = true) step) (m : Brain (SimWorld Stores)) (holds : Untouched rt₀ m.rt) :
    Untouched rt₀ (step m).rt := by
  rcases untouched_bears.step_cases taken with ⟨-, name, listed, open_⟩ | kept
  · simp [driving_closed name listed] at open_
  · exact kept m holds

theorem keeps_converse {calls : List Call} (guests : ∀ c ∈ calls, c.user.role = .guest) :
    (converse (simulated (furnished s)) calls).Keeps free fun m => Untouched rt₀ m.rt :=
  Coroutine.keeps_of_atoms (atoms_converse fun c member => guest_approves (guests c member))
    fun _ taken m holds _ => untouched_step taken m holds

/-- However long guests talk to the droid, and whatever is proposed for them, no step
switches motor power on, moves the droid or changes what it has stored. -/
theorem guests_untouched (s : Site) {calls : List Call} (guests : ∀ c ∈ calls, c.user.role = .guest)
    (m : Brain (SimWorld Stores)) (off : m.rt.env.backend.power = false) :
    (∀ t ∈ trace (converse (simulated (furnished s)) calls) m, Untouched m.rt t.1.rt ∧ Untouched m.rt t.2.rt) ∧
      Untouched m.rt ((converse (simulated (furnished s)) calls).run m).2.rt := by
  have start : Untouched m.rt m.rt := ⟨⟨off, fun _ => rfl⟩, .rfl⟩
  have keeps : (converse (simulated (furnished s)) calls).Keeps free fun m' => Untouched m.rt m'.rt :=
    keeps_converse guests
  exact ⟨fun t member => Coroutine.keeps_trace keeps start member, (Coroutine.keeps_run keeps).after start⟩

/-! A guest who wants the droid to drive. -/

def guestVoice : LanguageService where
  authorizer := { users := [] }
  providers := []
  refuse := id
  render := fun _ => .ok ""

/-- The guest asks for a drive, confirms one that somebody else has asked for, and wants
to have everything forgotten. -/
def guestAsks : List Call :=
  [{ lang := guestVoice, request := { text := "go to the hallway", user := some "guest", confirmed := true } },
    { lang := guestVoice, request := { text := "yes", user := some "guest", pending := some toHallway } },
    { lang := guestVoice, request := { text := "forget everything", user := some "guest" } }]

theorem hallway_refused :
    (∀ t ∈ trace (converse (simulated (furnished wheeledSite)) guestAsks) parked,
      Untouched parked.rt t.1.rt ∧ Untouched parked.rt t.2.rt) ∧
      Untouched parked.rt ((converse (simulated (furnished wheeledSite)) guestAsks).run parked).2.rt :=
  @guests_untouched wheeledSite guestAsks (by decide) parked (by decide +kernel)

end DroidOs.System.GuestLaw
