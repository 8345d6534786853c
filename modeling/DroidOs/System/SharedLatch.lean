/- GID: DroidOs/System/SharedLatch
   generality: I
   source: src/droidos/services/safety_gateway.py, src/droidos/cli/droidctl.py
   digest: Several brain processes on one state directory, and when an emergency stop holds for all. -/

import DroidOs.Services.Readiness
import DroidOs.System.LatchPersistence

set_option autoImplicit false
set_option relaxedAutoImplicit false

namespace DroidOs.System.SharedLatch

open DroidOs.Lib.Procedure DroidOs.Lib.Interleaving DroidOs.Lib.History
open DroidOs.Lib.Interleaving.Coroutine (trace Guard Allowed)
open DroidOs.Core.Values DroidOs.Core.States DroidOs.Core.Context
open DroidOs.Backends.SafetyController DroidOs.Backends.Simulation
open DroidOs.Services.Lifecycle DroidOs.Services.HookLaw
open DroidOs.Services.SafetyGateway DroidOs.Services.Supervisor DroidOs.Services.Readiness
open DroidOs.Executive.RunIntent
open DroidOs.Language.Intent
open Registration TaskSteps TaskLaw Operations Simulated Boot StepLaw LatchLaw LatchPersistence

variable {δ α : Type} {s : Surroundings δ}

/-! One process. -/

/-- No power can reach the motors: the contactor is open and the backend's power is off. -/
structure Dark (rt : Runtime (SimWorld δ)) : Prop where
  contactor : rt.controller.power = false
  power : rt.env.backend.power = false

/-- After any calls in `C` the process is dark, with the pose in `Q`. -/
structure Held (C : List EstopCall → Prop) (Q : Pose → Prop) (rt : Runtime (SimWorld δ)) : Prop where
  dark : C rt.estopCalls → Dark rt
  pose : C rt.estopCalls → Q rt.env.backend.pose

variable {C : List EstopCall → Prop} {Q : Pose → Prop}

/-- A context in which the calls, the power and the pose are the same. -/
private theorem held_same {rt rt' : Runtime (SimWorld δ)} (held : Held C Q rt)
    (calls : rt'.estopCalls = rt.estopCalls) (contactor : rt.controller.power = false → rt'.controller.power = false)
    (power : rt.env.backend.power = false → rt'.env.backend.power = false)
    (pose : C rt.estopCalls → rt'.env.backend.pose = rt.env.backend.pose) : Held C Q rt' where
  dark called := by
    rw [calls] at called
    exact ⟨contactor (held.dark called).contactor, power (held.dark called).power⟩
  pose called := by
    rw [calls] at called
    rw [pose called]
    exact held.pose called

private theorem held_quiet {p : Proc (SimWorld δ) Exn α} (call : QuietCall (simulated s) p) :
    Keeps (Held C Q) (outside p) := by
  refine keeps_iff.mpr fun rt held => ?_
  have still (off : rt.env.backend.power = false) : Still false rt.env.backend.pose (p rt.env).2 :=
    Keeps.after (still_quiet s call) ⟨off, fun _ => rfl⟩
  exact held_same held rfl id (fun off => (still off).1) fun called =>
    (still (held.dark called).power).2 rfl

theorem held_primitives : Primitives (simulated s) (Held C Q) fun _ => True where
  quiet := held_quiet
  off := keeps_iff.mpr fun _ held => held_same held rfl id (fun _ => rfl) fun _ => rfl
  lower lowers rt held := held_same held rfl (lowers.contactor _) id fun _ => rfl
  beside _ _ held beside := by
    refine held_same held beside.estopCalls ?_ ?_ fun _ => ?_
    · rw [beside.controller]
      exact id
    · rw [beside.env]
      exact id
    · rw [beside.env]

private theorem held_machine {rt : Runtime (SimWorld δ)} (held : Held C Q rt) (machine : StateMachine) :
    Held C Q { rt with machine := machine } :=
  held_same held rfl id id fun _ => rfl

theorem held_forbids : Forbids (Held (δ := δ) C Q) where
  transition dst reason _ := by
    refine keeps_iff.mpr fun rt held => ?_
    obtain ⟨machine, run, -⟩ := transition_after dst reason rt
    rw [run]
    exact held_machine held machine
  force _ _ _ := keeps_iff.mpr fun _ held => held_machine held _

private theorem held_moves : Moves (Held (δ := δ) C Q) := by
  intro rt held _ dst reason _
  obtain ⟨machine, run, -⟩ := transition_after dst reason rt
  rw [run]
  exact held_machine held machine

private theorem held_close : Keeps (Held C Q) (outside (simulated s).shutdown) :=
  keeps_iff.mpr fun _ held => held_same held rfl id (fun _ => rfl) fun _ => rfl

private theorem held_refresh : Keeps (fun m => Held C Q m.rt)
    (refresh (simulated s) (droidServices (simulated s))) := by
  refine keeps_iff.mpr fun m held => ?_
  have after : Held C Q (assessReadiness (simulated s) (droidServices (simulated s)) m).2.rt :=
    held_primitives.attends.toReads.keeps_assessReadiness.after held
  rcases found : (assessReadiness (simulated s) (droidServices (simulated s)) m).1 with e | r
  · rw [refresh_error found]
    exact after
  · obtain ⟨machine, run, -⟩ := refresh_ok found
    rw [run]
    exact held_same after rfl id id fun _ => rfl

/-- An e-stop leaves the process dark where it stands. -/
private theorem held_engage
    (appends : ∀ calls pose, C (calls ++ [.engaged]) → (C calls → Q pose) → Q pose)
    (reason : String) : Keeps (Held C Q) (engageEstop (simulated s) reason) := by
  refine keeps_iff.mpr fun rt held => ?_
  obtain ⟨controller, store, -, contactor, run⟩ := engageEstop_run (s := s) reason rt
  rw [run]
  exact ⟨fun _ => ⟨contactor, rfl⟩, fun called => appends rt.estopCalls _ called held.pose⟩

private theorem held_reset (rests : ∀ calls, C (calls ++ [.reset]) → C calls) :
    Keeps (Held C Q) (resetEstop (simulated s)) := by
  refine keeps_bind (keeps_iff.mpr fun _ held => held_same held rfl id id fun _ => rfl) fun _ => ?_
  refine keeps_bind (keeps_modify fun _ held => held_same held rfl id id fun _ => rfl) fun _ => ?_
  refine keeps_bind (held_primitives.keeps_log _ _) fun _ => keeps_bind (keeps_modify fun rt held => ?_)
    fun _ => keeps_pure _
  exact ⟨fun called => ⟨(held.dark (rests _ called)).contactor, (held.dark (rests _ called)).power⟩,
    fun called => held.pose (rests _ called)⟩

/-- Permission is asked for after calls in `C` only where the process's own controller refuses. -/
def refusing (s : Surroundings δ) (C : List EstopCall → Prop) : Guard (Brain (SimWorld δ)) := fun m step =>
  step = (onRt (requestMotionPermission (simulated s))).after → C m.rt.estopCalls → grants m.rt = false

theorem held_upholds
    (appends : ∀ calls pose, C (calls ++ [.engaged]) → (C calls → Q pose) → Q pose)
    (rests : ∀ calls, C (calls ++ [.reset]) → C calls) :
    Upholds (simulated s) happening (refusing s C) (Held C Q) fun _ => True := by
  refine held_primitives.upholds held_forbids held_moves held_close ?_ (held_engage appends) ?_ ?_ ?_
  · intro m held allowed
    refine held_primitives.request_holds held fun grant => ?_
    have free : ¬ C m.rt.estopCalls := by
      intro called
      rw [allowed rfl called] at grant
      cases grant
    have calls : (grantPermission (simulated s)
        { m.rt with controller := { contacted m.rt with power := true } }).2.estopCalls = m.rt.estopCalls := rfl
    rw [← calls] at free
    exact ⟨fun called => absurd called free, fun called => absurd called free⟩
  · exact fun m held _ => (held_reset rests).after held
  · exact fun m held _ => held_refresh.after held
  · intro event rt held
    cases event <;> exact held_same held rfl id id fun _ => rfl

/-- A boot leaves the process dark, and makes no call. -/
theorem booted_dark {rt : Runtime (SimWorld δ)} (off : rt.machine.state = .poweredOff) (dark : Dark rt) :
    Dark (booted (simulated s) rt).rt ∧ (booted (simulated s) rt).rt.estopCalls = rt.estopCalls := by
  have boots : Boots (simulated s) (Held (fun _ => True) fun _ => True) :=
    held_primitives.boots held_forbids
      (keeps_iff.mpr fun _ held => held_same held rfl id (fun _ => rfl) fun _ => rfl) held_refresh
  have held : Held (fun _ => True) (fun _ => True) (booted (simulated s) rt).rt :=
    boots.boot_holds off fun _ _ => activate_holds
      (boots.hooks _ (Registry.find_some (find_safetyGateway _)).1) ⟨fun _ => ⟨dark.contactor, dark.power⟩, fun _ => trivial⟩
  exact ⟨held.dark trivial, (booted_calls rt off).2⟩

/-! Several processes. -/

/-- A process and what it was built from. -/
structure Member (δ : Type) where
  surroundings : Surroundings δ
  brain : Brain (SimWorld δ)

/-- The processes on one state directory, whose latch file they share. The ghost field lists the
completed calls of `engage_estop` and `reset_estop` of all of them. -/
structure Fleet (δ : Type) where
  latch : LatchFile
  calls : List EstopCall := []
  members : List (Member δ) := []

/-- A process is booted on the directory, or one of the processes performs an operation. What
the others write into the other shared files comes to it as an event of its own. -/
inductive Deed (δ : Type)
  | boot (s : Surroundings δ) (now : ℚ) (writes : LatchWrite) (store : δ)
  | act (member : Nat) (op : Operation (SimEvent δ))

namespace Fleet

variable (F : Fleet δ)

/-- What a process sees when its turn comes. -/
def enter (p : Member δ) : Brain (SimWorld δ) :=
  { p.brain with rt := { p.brain.rt with latch := F.latch, estopCalls := F.calls } }

/-- What the turn of a process leaves. -/
def leave (i : Nat) (p : Member δ) (m : Brain (SimWorld δ)) : Fleet δ where
  latch := m.rt.latch
  calls := m.rt.estopCalls
  members := F.members.set i { p with brain := m }

def newcomer (s : Surroundings δ) (now : ℚ) (writes : LatchWrite) (store : δ) : Brain (SimWorld δ) :=
  booted (simulated s) { newProcess s now F.latch F.calls store with latchWrite := writes }

def join (s : Surroundings δ) (m : Brain (SimWorld δ)) : Fleet δ where
  latch := m.rt.latch
  calls := m.rt.estopCalls
  members := F.members ++ [{ surroundings := s, brain := m }]

def step : Deed δ → Fleet δ
  | .boot s now writes store => F.join s (F.newcomer s now writes store)
  | .act i op => match F.members[i]? with
    | none => F
    | some p => F.leave i p ((code (simulated p.surroundings) happening op).run (F.enter p)).2

/-- The moments of a deed: the fleet before and after each atomic step of it. -/
def moments : Deed δ → List (Fleet δ × Fleet δ)
  | .boot s now writes store => [(F, F.join s (F.newcomer s now writes store))]
  | .act i op => match F.members[i]? with
    | none => []
    | some p => (trace (code (simulated p.surroundings) happening op) (F.enter p)).map fun t =>
        (F.leave i p t.1, F.leave i p t.2)

end Fleet

/-- The moments of a run. -/
def history : Fleet δ → List (Deed δ) → List (Fleet δ × Fleet δ)
  | _, [] => []
  | F, d :: deeds => F.moments d ++ history (F.step d) deeds

/-- The stop holds for everybody: while it is in force all processes are dark, and none moves. -/
structure Obeyed (t : Fleet δ × Fleet δ) : Prop where
  before : Stopped t.1.calls → ∀ p ∈ t.1.members, Dark p.brain.rt
  after : Stopped t.2.calls → ∀ p ∈ t.2.members, Dark p.brain.rt
  unmoved : Stopped t.1.calls → ∀ (j : Nat) (p p' : Member δ), t.1.members[j]? = some p → t.2.members[j]? = some p' →
    p'.brain.rt.env.backend.pose = p.brain.rt.env.backend.pose

/-! When it does. -/

/-- The other processes are dark. -/
def OthersDark (F : Fleet δ) (i : Nat) : Prop :=
  ∀ j p, j ≠ i → F.members[j]? = some p → Dark p.brain.rt

/-- The steps of one process's turn: a stop begins only while the other processes are dark, and
permission is asked for under a stop only where the process's own controller refuses. -/
def turnGuard (F : Fleet δ) (i : Nat) (s : Surroundings δ) : Guard (Brain (SimWorld δ)) := fun m step =>
  (¬ Stopped m.rt.estopCalls → Stopped (step m).rt.estopCalls → OthersDark F i) ∧
    refusing s Stopped m step

def Careful (F : Fleet δ) : Deed δ → Prop
  | .boot _ _ _ _ => True
  | .act i op => ∀ p, F.members[i]? = some p →
      Allowed (turnGuard F i p.surroundings) (code (simulated p.surroundings) happening op) (F.enter p)

def CarefulRun : Fleet δ → List (Deed δ) → Prop
  | _, [] => True
  | F, d :: deeds => Careful F d ∧ CarefulRun (F.step d) deeds

/-- While a stop is in force, all processes are dark. -/
def Safe (F : Fleet δ) : Prop := Stopped F.calls → ∀ p ∈ F.members, Dark p.brain.rt

private theorem code_held (op : Operation (SimEvent δ)) :
    (code (simulated s) happening op).Keeps (refusing s Stopped) fun m => Held Stopped (fun _ => True) m.rt := by
  refine (held_upholds (fun _ _ _ _ => trivial) fun calls stopped => ?_).keeps_code (fun _ _ => trivial)
    fun _ _ _ => trivial
  exact absurd stopped (stopped_reset calls)

private theorem code_unmoved (pose : Pose) (op : Operation (SimEvent δ)) :
    (code (simulated s) happening op).Keeps (refusing s fun _ => True) fun m =>
      Held (fun _ => True) (· = pose) m.rt :=
  (held_upholds (fun _ _ _ unmoved => unmoved trivial) fun _ _ => trivial).keeps_code (fun _ _ => trivial)
    fun _ _ _ => trivial

/-- The member whose turn it is, or another. -/
private theorem leave_member {F : Fleet δ} {i j : Nat} {p q : Member δ} {m : Brain (SimWorld δ)}
    (found : (F.leave i p m).members[j]? = some q) :
    (j = i ∧ q.brain = m) ∨ (j ≠ i ∧ F.members[j]? = some q) := by
  change (F.members.set i { p with brain := m })[j]? = some q at found
  rw [List.getElem?_set] at found
  by_cases same : i = j
  · rw [if_pos same] at found
    split at found
    · cases found
      exact .inl ⟨same.symm, rfl⟩
    · cases found
  · rw [if_neg same] at found
    exact .inr ⟨fun eq => same eq.symm, found⟩

/-- What holds all along a careful turn: under a stop the process and the others are dark. -/
private theorem turn_dark {F : Fleet δ} (safe : Safe F) {i : Nat} {p : Member δ}
    (found : F.members[i]? = some p) {op : Operation (SimEvent δ)} (careful : Careful F (.act i op)) :
    (∀ t ∈ trace (code (simulated p.surroundings) happening op) (F.enter p),
      Safe (F.leave i p t.1) ∧ Safe (F.leave i p t.2)) ∧ Safe (F.step (.act i op)) := by
  let others : Brain (SimWorld δ) → Prop := fun m => Stopped m.rt.estopCalls → OthersDark F i
  have keeps : (code (simulated p.surroundings) happening op).Keeps (turnGuard F i p.surroundings)
      fun m => Held Stopped (fun _ => True) m.rt ∧ others m := by
    refine Coroutine.keeps_and (Coroutine.keeps_mono (code_held op) fun _ _ allowed => allowed.2) ?_
    intro m step dark allowed stopped
    by_cases before : Stopped m.rt.estopCalls
    · exact dark before
    · exact allowed.1 before stopped
  have start : Held Stopped (fun _ => True) (F.enter p).rt ∧ others (F.enter p) := by
    refine ⟨⟨fun stopped => ?_, fun _ => trivial⟩, fun stopped j q _ found' => ?_⟩
    · have dark := safe stopped p (List.mem_of_getElem? found)
      exact ⟨dark.contactor, dark.power⟩
    · exact safe stopped q (List.mem_of_getElem? found')
  have together {m : Brain (SimWorld δ)} (holds : Held Stopped (fun _ => True) m.rt ∧ others m) :
      Safe (F.leave i p m) := by
    intro stopped q member
    obtain ⟨j, found'⟩ := List.mem_iff_getElem?.mp member
    rcases leave_member found' with ⟨-, here⟩ | ⟨elsewhere, found'⟩
    · rw [here]
      exact holds.1.dark stopped
    · exact holds.2 stopped j q elsewhere found'
  refine ⟨fun t member => ?_, ?_⟩
  · obtain ⟨before, after⟩ := Coroutine.keeps_allowed keeps (careful p found) start member
    exact ⟨together before, together after⟩
  · have left : F.step (.act i op) =
        F.leave i p ((code (simulated p.surroundings) happening op).run (F.enter p)).2 := by
      simp only [Fleet.step, found]
    rw [left]
    exact together (Coroutine.keeps_allowed_run keeps (careful p found) start)

/-- Under a stop nobody moves in a careful turn. -/
private theorem turn_unmoved {F : Fleet δ} {i : Nat} {p : Member δ}
    (found : F.members[i]? = some p) {op : Operation (SimEvent δ)} (careful : Careful F (.act i op))
    {t : Brain (SimWorld δ) × Brain (SimWorld δ)}
    (member : t ∈ trace (code (simulated p.surroundings) happening op) (F.enter p))
    (stopped : Stopped t.1.rt.estopCalls) (dark : Dark t.1.rt) :
    t.2.rt.env.backend.pose = t.1.rt.env.backend.pose := by
  have here : Held (fun _ => True) (· = t.1.rt.env.backend.pose) t.1.rt := ⟨fun _ => dark, fun _ => rfl⟩
  have after := Coroutine.keeps_moment (code_unmoved t.1.rt.env.backend.pose op) (careful p found) member
    (fun step allowed asks _ => allowed.2 asks stopped) here
  exact after.pose trivial

private theorem act_obeyed {F : Fleet δ} (safe : Safe F) {i : Nat} {op : Operation (SimEvent δ)}
    (careful : Careful F (.act i op)) {t : Fleet δ × Fleet δ} (member : t ∈ F.moments (.act i op)) :
    Obeyed t := by
  unfold Fleet.moments at member
  cases found : F.members[i]? with
  | none =>
    simp only [found] at member
    cases member
  | some p =>
    simp only [found] at member
    obtain ⟨⟨m, m'⟩, inside, rfl⟩ := List.mem_map.mp member
    obtain ⟨before, after⟩ := (turn_dark safe found careful).1 _ inside
    refine ⟨before, after, fun stopped j q q' was is => ?_⟩
    rcases leave_member was with ⟨rfl, here⟩ | ⟨elsewhere, was'⟩
    · rcases leave_member is with ⟨-, here'⟩ | ⟨elsewhere, -⟩
      · rw [here, here']
        have dark := before stopped q (List.mem_of_getElem? was)
        rw [here] at dark
        exact turn_unmoved found careful inside stopped dark
      · exact absurd rfl elsewhere
    · rcases leave_member is with ⟨here, -⟩ | ⟨-, is'⟩
      · exact absurd here elsewhere
      · rw [was'] at is'
        cases is'
        rfl

private theorem newcomer_dark (F : Fleet δ) (s : Surroundings δ) (now : ℚ) (writes : LatchWrite) (store : δ) :
    Dark (F.newcomer s now writes store).rt ∧ (F.newcomer s now writes store).rt.estopCalls = F.calls :=
  booted_dark rfl ⟨rfl, rfl⟩

private theorem boot_safe {F : Fleet δ} (safe : Safe F) (s : Surroundings δ) (now : ℚ) (writes : LatchWrite)
    (store : δ) : Safe (F.join s (F.newcomer s now writes store)) := by
  obtain ⟨dark, calls⟩ := newcomer_dark F s now writes store
  intro stopped q member
  rcases List.mem_append.mp member with old | new
  · have stopped' : Stopped (F.newcomer s now writes store).rt.estopCalls := stopped
    rw [calls] at stopped'
    exact safe stopped' q old
  · obtain rfl := List.mem_singleton.mp new
    exact dark

private theorem boot_obeyed {F : Fleet δ} (safe : Safe F) (s : Surroundings δ) (now : ℚ) (writes : LatchWrite)
    (store : δ) : Obeyed (F, F.join s (F.newcomer s now writes store)) := by
  refine ⟨safe, boot_safe safe s now writes store, fun _ j p p' was is => ?_⟩
  change (F.members ++ _)[j]? = some p' at is
  rw [List.getElem?_append_left (List.getElem?_eq_some_iff.mp was).1, was] at is
  cases is
  rfl

theorem safe_step {F : Fleet δ} (safe : Safe F) {d : Deed δ} (careful : Careful F d) :
    Safe (F.step d) ∧ ∀ t ∈ F.moments d, Obeyed t := by
  cases d with
  | boot s now writes store =>
    refine ⟨boot_safe safe s now writes store, fun t member => ?_⟩
    obtain rfl := List.mem_singleton.mp member
    exact boot_obeyed safe s now writes store
  | act i op =>
    refine ⟨?_, fun t member => act_obeyed safe careful member⟩
    cases found : F.members[i]? with
    | none =>
      have still : F.step (.act i op) = F := by simp only [Fleet.step, found]
      rw [still]
      exact safe
    | some p => exact (turn_dark safe found careful).2

theorem safe_run {F : Fleet δ} (safe : Safe F) {deeds : List (Deed δ)} (careful : CarefulRun F deeds) :
    ∀ t ∈ history F deeds, Obeyed t := by
  induction deeds generalizing F with
  | nil => exact fun t member => by cases member
  | cons d deeds ih =>
    obtain ⟨safe', obeyed⟩ := safe_step safe careful.1
    intro t member
    rcases List.mem_append.mp member with now | later
    · exact obeyed t now
    · exact ih safe' careful.2 t later

/-- Whatever processes are booted on a directory and whatever they do, an emergency stop holds
for all of them in every run whose deeds are careful. -/
theorem stop_obeyed_by_all (latch : LatchFile) {deeds : List (Deed δ)}
    (careful : CarefulRun { latch := latch } deeds) : ∀ t ∈ history { latch := latch } deeds, Obeyed t :=
  safe_run (fun stopped => absurd (show Stopped [] from stopped) (since_nil _ _)) careful

/-! A command-line tool beside a session. -/

/-- A droid session and a tool are booted; the tool engages an emergency stop, and then the session
asks for motion permission. -/
def toolStops : List (Deed Unit) :=
  [.boot hallwayDroid 0 .succeeds (), .boot hallwayDroid 0 .succeeds (),
    .act 1 (.engageEstop "droidctl"), .act 0 .requestMotionPermission]

/-- The fleet in the end. -/
def overridden : Fleet Unit := (((history { latch := .missing } toolStops)[3]?).map Prod.snd).getD { latch := .missing }

/-- The session is granted the permission and has motor power on. -/
theorem stop_not_shared : ¬ ∀ t ∈ history { latch := .missing } toolStops, Obeyed t := by
  intro obeyed
  have long : ((history { latch := .missing } toolStops)[3]?).isSome = true := by decide +kernel
  obtain ⟨t, found⟩ := Option.isSome_iff_exists.mp long
  have ends : t.2 = overridden := by
    rw [overridden, found]
    rfl
  have calls : overridden.calls = [.engaged] := by decide +kernel
  have power : (overridden.members[0]?.map fun p => p.brain.rt.env.backend.power) = some true := by
    decide +kernel
  obtain ⟨p, member, on⟩ := Option.map_eq_some_iff.mp power
  have stopped : Stopped t.2.calls := by
    rw [ends, calls]
    exact ⟨[], .engaged, [], rfl, rfl, by simp⟩
  have dark := (obeyed t (List.mem_of_getElem? found)).after stopped p
    (ends ▸ List.mem_of_getElem? member)
  rw [dark.power] at on
  cases on

/-- A process that is booted after the stop refuses. -/
def stopThenBoot : List (Deed Unit) :=
  [.boot hallwayDroid 0 .succeeds (), .act 0 (.engageEstop "droidctl"),
    .boot hallwayDroid 1 .succeeds (), .act 1 .requestMotionPermission]

/-- The fleet when the tool engages the stop, and when the new process asks. -/
def sessionBooted : Fleet Unit := Fleet.step { latch := .missing } (.boot hallwayDroid 0 .succeeds ())

def newcomerBooted : Fleet Unit :=
  (sessionBooted.step (.act 0 (.engageEstop "droidctl"))).step (.boot hallwayDroid 1 .succeeds ())

private theorem engage_careful : Careful sessionBooted (.act 0 (.engageEstop "droidctl")) := by
  have alone : sessionBooted.members.length = 1 := by decide +kernel
  have uncalled : sessionBooted.calls = [] := by decide +kernel
  generalize sessionBooted = F at alone uncalled ⊢
  intro p _
  refine Coroutine.allowed_atomically ⟨fun _ _ j q other found => ?_, fun _ stopped => ?_⟩
  · have inside : j < F.members.length := (List.getElem?_eq_some_iff.mp found).1
    omega
  · have stopped : Stopped F.calls := stopped
    rw [uncalled] at stopped
    exact absurd stopped (since_nil _ _)

private theorem request_careful : Careful newcomerBooted (.act 1 .requestMotionPermission) := by
  have called : newcomerBooted.calls = [.engaged] := by decide +kernel
  have latched : (newcomerBooted.members[1]?.map fun p => grants (newcomerBooted.enter p).rt) = some false := by
    decide +kernel
  generalize newcomerBooted = F at called latched ⊢
  intro p found
  refine Coroutine.allowed_void (Coroutine.allowed_atomically ⟨fun free _ => ?_, fun _ _ => ?_⟩)
  · have free : ¬ Stopped F.calls := free
    rw [called] at free
    exact absurd ⟨[], .engaged, [], rfl, rfl, by simp⟩ free
  · rw [found] at latched
    exact Option.some.inj latched

/-- Here every deed is careful, and the stop holds for all. -/
theorem stop_shared : CarefulRun { latch := .missing } stopThenBoot ∧
    ∀ t ∈ history { latch := .missing } stopThenBoot, Obeyed t := by
  have careful : CarefulRun { latch := .missing } stopThenBoot :=
    ⟨trivial, engage_careful, trivial, request_careful, trivial⟩
  exact ⟨careful, stop_obeyed_by_all .missing careful⟩

end DroidOs.System.SharedLatch
