/- GID: DroidOs/System/Interruptions
   generality: I
   source: src/droidos/executive/executive.py, src/droidos/services/voice.py
   digest: What requests between two ticks of a drive do to the flag that ends it. -/

import DroidOs.Language.Dispatch
import DroidOs.Language.Utterance
import DroidOs.System.DriveGate
import DroidOs.System.WorldLaw

set_option autoImplicit false
set_option relaxedAutoImplicit false

namespace DroidOs.System.Interruptions

open DroidOs.Lib.Procedure DroidOs.Lib.Interleaving
open DroidOs.Lib.Interleaving.Coroutine (atomically free)
open DroidOs.Core.Values DroidOs.Core.States DroidOs.Core.Context
open DroidOs.Services.Lifecycle DroidOs.Services.SafetyGateway DroidOs.Services.Supervisor
open DroidOs.Executive.Drive DroidOs.Executive.RunIntent
open DroidOs.Language.Intent DroidOs.Language.Broker DroidOs.Language.Conversation
open DroidOs.Language.Dispatch DroidOs.Language.Utterance
open Registration TaskSteps TaskLaw WorldLaw Operations Simulated LatchLaw DriveGate

/-! The flag in the steps of a task. -/

section

variable {ε : Type} {svc : Services ε} {b : Bool}

/-- The cancel flag stands as given. -/
def Flagged (b : Bool) (rt : Runtime ε) : Prop := rt.cancelled = b

private theorem flagged_outside {α : Type} (p : Proc ε Exn α) : Keeps (Flagged b) (outside p) :=
  keeps_iff.mpr fun _ holds => holds

theorem flagged_worldly : Worldly svc (Flagged b) where
  beside _ _ holds _ cancelled := cancelled.trans holds
  reading _ := flagged_outside _
  emit _ := flagged_outside _
  publish _ := flagged_outside _
  off := flagged_outside _

/-- Starting a task clears the flag, and beside that only a cancellation changes it. -/
theorem uncancelled_bears {P : String → Prop} (others : ¬ P "task.cancel") :
    Bears svc P (Flagged false) where
  toWorldly := flagged_worldly
  start _ _ := rfl
  cancel named := absurd named others
  stop := flagged_outside _
  tool _ _ _ _ := flagged_outside _
  diagnostics _ _ _ _ := flagged_outside _
  shutdown _ := flagged_outside _
  drive _ := ⟨fun _ => flagged_outside _, keeps_iff.mpr fun _ holds => holds, keeps_iff.mpr fun _ holds => holds⟩
  dock _ := flagged_outside _
  inspect _ _ := flagged_outside _

theorem uncancelled_step {P : String → Prop} (others : ¬ P "task.cancel") {step : Brain ε → Brain ε}
    (taken : TaskStep svc (droidServices svc) P step) (m : Brain ε) (holds : Flagged false m.rt) :
    Flagged false (step m).rt := by
  have bears : Bears svc P (Flagged false) := uncancelled_bears others
  rcases bears.step_cases taken with ⟨rfl, -⟩ | kept
  · exact (keeps_onRt_of (bears.keeps_request (flagged_outside _))).after holds
  · exact kept m holds

end

/-! What one request does to it. -/

variable {δ ι : Type} (s : Surroundings δ)

/-- The intent, if a task can be made of it. -/
def starting (intent : StructuredIntent) : Option StructuredIntent :=
  match intent.arguments.toDict with
  | .ok _ => some intent
  | .error _ => none

theorem startTask_simulated {intent : StructuredIntent} {items : Items}
    (arguments : intent.arguments.toDict = .ok items) (user : String) (rt : Runtime (SimWorld δ)) :
    ∃ task rt', startTask (simulated s) intent user rt = (.ok task, rt') ∧
      task.intent = intent.intent ∧ Flagged false rt' := by
  unfold startTask
  rw [arguments]
  exact ⟨_, _, rfl, rfl, rfl⟩

private theorem cancelled_handler {task : Task} (named : task.intent = "task.cancel")
    (m : Brain (SimWorld δ)) : Flagged true
      ((handlerFor (simulated s) (droidServices (simulated s)) task.intent task).run m).2.rt := by
  have handler : handlerFor (simulated s) (droidServices (simulated s)) "task.cancel" =
      fun t => atomically (hCancel (simulated s) t) := rfl
  rw [named, handler, Coroutine.run_atomically]
  unfold hCancel
  have flagged : onRt cancel m = (.ok (), { m with rt := { m.rt with cancelled := true } }) := rfl
  rw [bind_ok flagged]
  exact (keeps_bind (keeps_onRt_of (flagged_outside _)) fun _ => keeps_pure _).after rfl

private theorem uncancelled_handler {task : Task} (others : task.intent ≠ "task.cancel")
    {m : Brain (SimWorld δ)} (holds : Flagged false m.rt) : Flagged false
      ((handlerFor (simulated s) (droidServices (simulated s)) task.intent task).run m).2.rt := by
  have atoms := @atoms_handlerFor _ (simulated s) (droidServices (simulated s)) (· = task.intent) task rfl
  have keeps : Coroutine.Keeps free (fun m : Brain (SimWorld δ) => Flagged false m.rt)
      (handlerFor (simulated s) (droidServices (simulated s)) task.intent task) :=
    Coroutine.keeps_of_atoms atoms fun step taken m holds _ =>
      uncancelled_step (fun same => others same.symm) taken m holds
  exact (Coroutine.keeps_run keeps).after holds

/-- A task leaves the flag set exactly if it is a cancellation. -/
theorem flagged_runIntent {intent : StructuredIntent} {items : Items}
    (arguments : intent.arguments.toDict = .ok items) (user : String) (m : Brain (SimWorld δ)) :
    Flagged (decide (intent.intent = "task.cancel"))
      ((runIntent (simulated s) (droidServices (simulated s)) intent user).run m).2.rt := by
  obtain ⟨task, rt, started, named, clear⟩ := startTask_simulated s arguments user m.rt
  have first : onRt (startTask (simulated s) intent user) m = (.ok task, { m with rt := rt }) := by
    rw [onRt_run, started]
  unfold runIntent
  rw [Coroutine.run_bind, Coroutine.run_atomically, bind_ok first, Coroutine.run_bind, Coroutine.run_attempt]
  rw [← named, attempt_bind, Coroutine.run_atomically]
  refine (keeps_onRt_of (flagged_worldly.keeps_finish task user _)).after ?_
  by_cases cancels : task.intent = "task.cancel"
  · rw [decide_eq_true cancels]
    exact cancelled_handler s cancels _
  · rw [decide_eq_false cancels]
    exact uncancelled_handler s cancels clear

/-- An intent of which no task can be made changes nothing. -/
theorem runIntent_unstarted {intent : StructuredIntent} {e : Exn}
    (arguments : intent.arguments.toDict = .error e) (user : String) (m : Brain (SimWorld δ)) :
    (runIntent (simulated s) (droidServices (simulated s)) intent user).run m = (.error e, m) := by
  have first : onRt (startTask (simulated s) intent user) m = (.error e, m) := by
    rw [onRt_run, startTask, bind_error (t := m.rt) (e := e) (by rw [ofExcept_run, arguments])]
  unfold runIntent
  rw [Coroutine.run_bind, Coroutine.run_atomically, bind_error first]

/-- What a request of the language service leaves of the flag. -/
private theorem flagged_process (lang : LanguageService) (r : Request) (m : Brain (SimWorld δ)) :
    ((process (simulated s) (droidServices (simulated s)) lang r).run m).2.rt.cancelled =
      (((approvedIntent (simulated s) (droidServices (simulated s)) lang r m).bind starting).map
        fun intent => decide (intent.intent = "task.cancel")).getD m.rt.cancelled := by
  have before : (decided (simulated s) (droidServices (simulated s)) lang r m).2.rt.cancelled =
      m.rt.cancelled := (flagged_worldly.keeps_decided lang r).after (s := m) rfl
  cases approved : approvedIntent (simulated s) (droidServices (simulated s)) lang r m with
  | none =>
    rw [process_unapproved approved]
    exact before
  | some intent =>
    obtain ⟨p, decision, -, -, rfl, run⟩ := process_approved approved
    rw [run, execute_after]
    simp only [Option.bind_some, starting]
    rcases arguments : decision.intent.arguments.toDict with e | items
    · rw [runIntent_unstarted s arguments]
      exact before
    · exact flagged_runIntent s arguments _ _

/-! Requests between two ticks. -/

/-- What is asked of the droid, the time that passes and what happens in the outside world
(`ι`) while a drive waits for its next tick. -/
inductive Asked (ι : Type)
  | runIntent (intent : StructuredIntent) (user : String)
  | ask (lang : LanguageService) (r : Request)
  | hear (voice : Voice) (heard : String) (user : Option String)
  | cancel
  | stop
  | elapse (dt : ℚ)
  | happen (event : ι)

variable (world : ι → SimWorld δ → SimWorld δ)

def steps : Asked ι → Coroutine (Brain (SimWorld δ)) Exn Unit
  | .runIntent intent user => code (simulated s) world (.runIntent intent user)
  | .ask lang r => code (simulated s) world (.ask lang r)
  | .hear voice heard user =>
    (handleUtterance (simulated s) (droidServices (simulated s)) voice heard user).void
  | .cancel => code (simulated s) world .cancel
  | .stop => code (simulated s) world .stop
  | .elapse dt => code (simulated s) world (.elapse dt)
  | .happen event => code (simulated s) world (.happen event)

/-- A request is handled without interruption. -/
def handle (a : Asked ι) : Brain (SimWorld δ) → Brain (SimWorld δ) := (steps s world a).run.after

def handleAll (gap : List (Asked ι)) (m : Brain (SimWorld δ)) : Brain (SimWorld δ) :=
  gap.foldl (fun m a => handle s world a m) m

/-- The intent of the task that a request starts, if it starts one. -/
def tasked (m : Brain (SimWorld δ)) : Asked ι → Option StructuredIntent
  | .runIntent intent _ => starting intent
  | .ask lang r => (approvedIntent (simulated s) (droidServices (simulated s)) lang r m).bind starting
  | .hear voice heard user =>
    if detectEmergency s.text heard = none then
      (voice.request s.text heard user).bind fun r =>
        (approvedIntent (simulated s) (droidServices (simulated s)) voice.language r m).bind starting
    else none
  | _ => none

/-- Whether a request cancels the drive, takes a cancellation back by starting another
task, or does neither. -/
def word (m : Brain (SimWorld δ)) : Asked ι → Option Bool
  | .cancel => some true
  | a => (tasked s m a).map fun intent => decide (intent.intent = "task.cancel")

/-- The last such word of a gap. -/
def lastWord (m : Brain (SimWorld δ)) : List (Asked ι) → Option Bool
  | [] => none
  | a :: gap => (lastWord (handle s world a m) gap).or (word s m a)

private theorem void_after {α : Type} (c : Coroutine (Brain (SimWorld δ)) Exn α) (m : Brain (SimWorld δ)) :
    (c.void.run m).2 = (c.run m).2 := by
  unfold Coroutine.void
  rw [Coroutine.run_bind]
  rcases run : c.run m with ⟨e | a, m'⟩
  · rw [bind_error run]
  · rw [bind_ok run]
    rfl

private theorem stop_flag (m : Brain (SimWorld δ)) :
    (onRt (outside (simulated s).stop) m).2.rt.cancelled = m.rt.cancelled :=
  (keeps_onRt_of (flagged_outside (simulated s).stop)).after (s := m) rfl

/-- An utterance leaves of the flag what the request made of it leaves. -/
private theorem flagged_utterance (voice : Voice) (heard : String) (user : Option String)
    (m : Brain (SimWorld δ)) :
    ((handleUtterance (simulated s) (droidServices (simulated s)) voice heard user).run m).2.rt.cancelled =
      (word s m (.hear voice heard user : Asked ι)).getD m.rt.cancelled := by
  cases found : detectEmergency s.text heard with
  | none =>
    have asked : word s m (.hear voice heard user : Asked ι) =
        (((voice.request s.text heard user).bind fun r => (approvedIntent (simulated s)
          (droidServices (simulated s)) voice.language r m).bind starting).map
            fun intent => decide (intent.intent = "task.cancel")) := by
      simp only [word, tasked, if_pos found]
    have after := @handleUtterance_after _ (simulated s) (droidServices (simulated s)) voice heard user found m
    have same : voice.request (simulated s).text heard user = voice.request s.text heard user := rfl
    rw [after, asked, same]
    cases voice.request s.text heard user with
    | none => rfl
    | some r => exact flagged_process s voice.language r m
  | some emergency =>
    have unasked : word s m (.hear voice heard user : Asked ι) = none := by
      simp [word, tasked, found]
    rw [unasked]
    cases emergency with
    | stop =>
      have after := @handleUtterance_stop _ (simulated s) (droidServices (simulated s)) voice heard user found m
      rw [after]
      exact stop_flag s m
    | emergencyStop =>
      have after :=
        @handleUtterance_emergencyStop _ (simulated s) (droidServices (simulated s)) voice heard user found m
      rw [after]
      exact (keeps_onRt_of (flagged_worldly.keeps_engage "voice_emergency")).after (s := m) rfl

theorem handle_flag (m : Brain (SimWorld δ)) (a : Asked ι) :
    (handle s world a m).rt.cancelled = (word s m a).getD m.rt.cancelled := by
  cases a with
  | runIntent intent user =>
    change (((runIntent (simulated s) _ intent user).void.run m).2).rt.cancelled = _
    rw [void_after]
    simp only [word, tasked, starting]
    rcases arguments : intent.arguments.toDict with e | items
    · rw [runIntent_unstarted s arguments]
      rfl
    · exact flagged_runIntent s arguments user m
  | ask lang r =>
    change (((process (simulated s) _ lang r).void.run m).2).rt.cancelled = _
    rw [void_after]
    exact flagged_process s lang r m
  | hear voice heard user =>
    simp only [handle, steps, Proc.after]
    rw [void_after]
    exact flagged_utterance s voice heard user m
  | cancel => rfl
  | stop =>
    simp only [handle, steps, code, Coroutine.run_atomically, Proc.after]
    exact stop_flag s m
  | elapse dt => rfl
  | happen event => rfl

theorem handleAll_flag (gap : List (Asked ι)) (m : Brain (SimWorld δ)) :
    (handleAll s world gap m).rt.cancelled = (lastWord s world m gap).getD m.rt.cancelled := by
  induction gap generalizing m with
  | nil => rfl
  | cons a gap ih =>
    have later := ih (handle s world a m)
    rw [handle_flag] at later
    change (handleAll s world gap (handle s world a m)).rt.cancelled = _
    rw [later, lastWord]
    cases lastWord s world (handle s world a m) gap <;> rfl

/-! Stopping a drive. -/

/-- A request that tells the drive to stop is handled: a cancellation or a stop, typed or
spoken. -/
inductive Interrupts (m : Brain (SimWorld δ)) : Asked ι → Prop
  | cancel : Interrupts m .cancel
  | stop : Interrupts m .stop
  | spoken {voice : Voice} {heard : String} {user : Option String} :
      detectEmergency s.text heard = some .stop → Interrupts m (.hear voice heard user)
  | task {a : Asked ι} {intent : StructuredIntent} : tasked s m a = some intent →
      intent.intent ∈ ["task.cancel", "motion.stop"] → Interrupts m a

def Interrupted (m : Brain (SimWorld δ)) (gap : List (Asked ι)) : Prop :=
  ∃ before a after, gap = before ++ a :: after ∧ Interrupts s (handleAll s world before m) a

/-- A drive with the requests of a gap handled before each of its ticks. -/
def drivenAmong (goal : Pose) (d : DriveData) (gaps : ℕ → List (Asked ι)) (m : Brain (SimWorld δ)) :
    List (Brain (SimWorld δ) × Brain (SimWorld δ)) :=
  driven s goal d (fun k => handleAll s world (gaps k)) m

/-- Once it has been told to stop, the drive forwards no velocity other than zero. -/
def Halts (goal : Pose) (gaps : ℕ → List (Asked ι))
    (drive : List (Brain (SimWorld δ) × Brain (SimWorld δ))) : Prop :=
  ∀ j u k v, drive[j]? = some u → drive[k]? = some v → j ≤ k → Interrupted s world u.1 (gaps j) →
    ∀ vel issued, Forwards (simulated s) goal v.2.rt vel issued → vel.isZero = true

/-- But for the flag, the checks of the loop let a velocity other than zero through. -/
structure Headed (goal : Pose) (rt : Runtime (SimWorld δ)) : Prop where
  goes : Goes s goal { rt with cancelled := false }
  moving : ∃ vel remaining, velocityToward s goal rt.env.backend.pose = .ok (vel, remaining) ∧
    vel.isZero = false

variable {s} in
private theorem headed_of_forwards {goal : Pose} {rt issued : Runtime (SimWorld δ)} {vel : BodyVelocity}
    (forwards : Forwards (simulated s) goal rt vel issued) (moving : vel.isZero = false) :
    Headed s goal rt := by
  obtain ⟨goes, -, remaining, toward⟩ := goes_of_forwards s forwards
  exact ⟨⟨rfl, goes.localized, goes.clear, goes.ahead⟩, vel, remaining, toward, moving⟩

variable {s} in
private theorem forwards_of_headed {goal : Pose} {rt : Runtime (SimWorld δ)} (headed : Headed s goal rt)
    (uncancelled : rt.cancelled = false) :
    ∃ vel, Forwards (simulated s) goal rt vel rt ∧ vel.isZero = false := by
  have goes : Goes s goal rt :=
    ⟨uncancelled, headed.goes.localized, headed.goes.clear, headed.goes.ahead⟩
  obtain ⟨vel, forwards⟩ := forwards_of_goes s goes
  obtain ⟨-, -, remaining, toward⟩ := goes_of_forwards s forwards
  obtain ⟨vel', remaining', toward', moving⟩ := headed.moving
  obtain ⟨rfl, rfl⟩ := Prod.mk.inj (Except.ok.inj (toward.symm.trans toward'))
  exact ⟨vel, forwards, moving⟩

/-- The flag that a tick finds is the last word of the gap before it. -/
private theorem found_flag {goal : Pose} {d : DriveData} {gaps : ℕ → List (Asked ι)}
    {m : Brain (SimWorld δ)} {k : ℕ} {v : Brain (SimWorld δ) × Brain (SimWorld δ)}
    (found : (drivenAmong s world goal d gaps m)[k]? = some v) :
    v.2.rt.cancelled = (lastWord s world v.1 (gaps k)).getD v.1.rt.cancelled := by
  rw [Coroutine.moments_happened found]
  exact handleAll_flag s world (gaps k) v.1

/-- Whatever is asked between the ticks, a drive halts exactly when the last word is a
cancellation before every tick that comes after an interruption and is still headed for
the goal. -/
theorem halts_iff (goal : Pose) (d : DriveData) (gaps : ℕ → List (Asked ι)) (m : Brain (SimWorld δ)) :
    Halts s world goal gaps (drivenAmong s world goal d gaps m) ↔
      ∀ j u k v, (drivenAmong s world goal d gaps m)[j]? = some u →
        (drivenAmong s world goal d gaps m)[k]? = some v → j ≤ k → Interrupted s world u.1 (gaps j) →
        Headed s goal v.2.rt → (lastWord s world v.1 (gaps k)).getD v.1.rt.cancelled = true := by
  constructor
  · intro halts j u k v first second order interrupted headed
    rw [← found_flag s world second]
    by_contra clear
    obtain ⟨vel, forwards, moving⟩ := forwards_of_headed headed (Bool.eq_false_of_not_eq_true clear)
    have still := halts j u k v first second order interrupted vel _ forwards
    rw [moving] at still
    cases still
  · intro lasts j u k v first second order interrupted vel issued forwards
    by_contra moving
    have headed := headed_of_forwards forwards (Bool.eq_false_of_not_eq_true moving)
    have cancelled := lasts j u k v first second order interrupted headed
    rw [← found_flag s world second] at cancelled
    obtain ⟨goes, -, -⟩ := goes_of_forwards s forwards
    rw [goes.uncancelled] at cancelled
    cases cancelled

/-- A gap whose last word is a cancellation is the last of its drive. -/
theorem cancelled_last {goal : Pose} {d : DriveData} {gaps : ℕ → List (Asked ι)} {m : Brain (SimWorld δ)}
    {past rest : List (Brain (SimWorld δ) × Brain (SimWorld δ))} {v : Brain (SimWorld δ) × Brain (SimWorld δ)}
    (split : drivenAmong s world goal d gaps m = past ++ v :: rest)
    (cancelled : lastWord s world v.1 (gaps past.length) = some true) : rest = [] := by
  have found : (drivenAmong s world goal d gaps m)[past.length]? = some v := by
    rw [split]
    simp
  have flag := found_flag s world found
  rw [cancelled] at flag
  refine unforwarded_last _ _ d _ m split ?_
  rintro ⟨vel, issued, forwards⟩
  obtain ⟨goes, -, -⟩ := goes_of_forwards s forwards
  rw [goes.uncancelled] at flag
  cases flag

/-! A droid that is told to stop and drives on. -/

/-- The velocity for the way that is left is not zero. -/
def moves (goal : Pose) (rt : Runtime (SimWorld δ)) : Bool :=
  match velocityToward s goal rt.env.backend.pose with
  | .ok (vel, _) => !vel.isZero
  | .error _ => false

/-- A drive whose second tick goes on after a spoken stop does not halt. -/
theorem not_halts {goal : Pose} {d : DriveData} {gaps : ℕ → List (Asked ι)} {m : Brain (SimWorld δ)}
    {voice : Voice} {heard : String} (quiet : gaps 0 = []) (told : gaps 1 = [.hear voice heard none])
    (stops : detectEmergency s.text heard = some .stop) (first : goesOn s goal d m.rt = true)
    (second : goesOn s goal d
      (secondFinds s goal d (fun k => handleAll s world (gaps k)) m).rt = true)
    (moving : moves s goal (secondFinds s goal d (fun k => handleAll s world (gaps k)) m).rt = true) :
    ¬ Halts s world goal gaps (drivenAmong s world goal d gaps m) := by
  intro halts
  have start : handleAll s world (gaps 0) m = m := by
    rw [quiet]
    rfl
  obtain ⟨d', first⟩ := goesOn_spec s first
  obtain ⟨d'', second⟩ := goesOn_spec s second
  obtain ⟨vel, issued, forwards⟩ := forwards_of_goes_on _ second
  have found := @second_moment _ (simulated s) goal 2998 d d' (fun k => handleAll s world (gaps k)) m
    (by rw [start]; exact first)
  simp only [start] at found
  have interrupted : Interrupted s world
      { m with rt := (driveTick (simulated s) goal d m.rt).2 } (gaps 1) :=
    ⟨[], .hear voice heard none, [], told, .spoken stops⟩
  have still := halts 1 _ 1 _ found found le_rfl interrupted vel issued forwards
  obtain ⟨-, -, remaining, toward⟩ := goes_of_forwards s forwards
  unfold moves at moving
  rw [toward] at moving
  simp [still] at moving

/-- The voice of the hallway droid. -/
def hallwayVoice : Voice where
  language := { authorizer := { users := [] }, providers := [], refuse := id, render := fun _ => .ok "" }
  engine := fun _ => none
  wakeNames := ["r2"]

/-- Between its first two ticks somebody says stop. -/
def saidStop (k : ℕ) : List (Asked (SimEvent Unit)) :=
  if k = 1 then [.hear hallwayVoice "stop" none] else []

/-- The motors are commanded to zero velocity, and the next tick commands them on. -/
theorem stop_driven : ¬ Halts hallwayDroid happening hallway saidStop
    (drivenAmong hallwayDroid happening hallway toTheHallway saidStop underway) :=
  not_halts hallwayDroid happening rfl rfl (by decide +kernel) (by decide +kernel) (by decide +kernel)
    (by decide +kernel)

end DroidOs.System.Interruptions
