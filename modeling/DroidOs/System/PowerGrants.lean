/- GID: DroidOs/System/PowerGrants
   generality: I
   source: src/droidos/language/service.py, src/droidos/language/broker.py
   digest: Where motor power comes on while people talk to the droid, and what has been approved there. -/

import DroidOs.System.GuestLaw

set_option autoImplicit false
set_option relaxedAutoImplicit false

namespace DroidOs.System.PowerGrants

open DroidOs.Lib.Procedure DroidOs.Lib.Interleaving
open DroidOs.Lib.Interleaving.Coroutine (trace atomically)
open DroidOs.Core.Values DroidOs.Core.States DroidOs.Core.Context
open DroidOs.Backends.Simulation
open DroidOs.Services.Lifecycle DroidOs.Services.SafetyGateway DroidOs.Services.Supervisor
open DroidOs.Services.WorldModel
open DroidOs.Executive.RunIntent DroidOs.Executive.Tools
open DroidOs.Language.Intent DroidOs.Language.Broker DroidOs.Language.OfflineParser
open DroidOs.Language.Conversation DroidOs.Language.Approval DroidOs.Language.Dispatch
open Registration TaskSteps TaskLaw WorldLaw Simulated Furnished GuestLaw

/-! The steps of one call. -/

section

variable {ε : Type} {svc : Services ε} {lang : LanguageService} {r : Request}
variable {m : Brain ε} {t : Brain ε × Brain ε}

/-- A step that belongs to no task. -/
def Idle (svc : Services ε) (t : Brain ε × Brain ε) : Prop :=
  ∃ step, TaskStep svc (droidServices svc) (fun _ => False) step ∧ t.2 = step t.1

/-- A step of the task that is approved if `p` is decided on. -/
def Tasked (svc : Services ε) (lang : LanguageService) (r : Request) (p : Proposal) (m : Brain ε)
    (t : Brain ε × Brain ε) : Prop :=
  ∃ decision, (decideOn svc (droidServices svc) lang r p m).1 = .ok decision ∧
    decision.outcome = .approved ∧
    t ∈ trace (runIntent svc (droidServices svc) decision.intent (lang.authorizer.resolve r.user).name)
      (decideOn svc (droidServices svc) lang r p m).2

private theorem trace_execute {decision : BrokerDecision} {user : User} {degraded : Bool}
    (member : t ∈ trace (execute svc (droidServices svc) lang decision user degraded) m) :
    Idle svc t ∨ t ∈ trace (runIntent svc (droidServices svc) decision.intent user.name) m := by
  rcases Coroutine.mem_trace_bind member with ran | ⟨outcome, -, worded⟩
  · rw [Coroutine.trace_attempt] at ran
    exact .inr ran
  · refine .inl (Coroutine.mem_trace ?_ worded)
    cases outcome with
    | ok result =>
      exact Coroutine.atoms_bind (Coroutine.atoms_atomically .pass) fun _ => Coroutine.atoms_pure _
    | error e =>
      exact Coroutine.atoms_ite (fun _ => Coroutine.atoms_pure _)
        fun _ => Coroutine.atoms_atomically .pass

/-- A step of an answer to a proposal belongs to no task or to the one that is approved. -/
private theorem trace_dispatch (p : Proposal) {degraded : Bool}
    (member : t ∈ trace (dispatch svc (droidServices svc) lang p.intent
      (lang.authorizer.resolve r.user) p.confirmed degraded) m) : Idle svc t ∨ Tasked svc lang r p m t := by
  rcases Coroutine.mem_trace_bind member with validates | ⟨decision, validated, member⟩
  · exact .inl (Coroutine.mem_trace (Coroutine.atoms_atomically (.validate _ _ _)) validates)
  rw [Coroutine.run_atomically] at validated member
  obtain ⟨m₁, validation⟩ : ∃ m₁, validate svc (droidServices svc) p.intent
      (lang.authorizer.resolve r.user) p.confirmed m = (.ok decision, m₁) := ⟨_, Prod.ext validated rfl⟩
  rw [validation] at member
  rcases Coroutine.mem_trace_bind member with emits | ⟨_, emitted, member⟩
  · exact .inl (Coroutine.mem_trace (Coroutine.atoms_atomically (.emit _)) emits)
  rw [Coroutine.run_atomically] at emitted member
  obtain ⟨m₂, emission⟩ : ∃ m₂, onRt (outside (svc.emit
      (approvalRecord (lang.authorizer.resolve r.user) decision))) m₁ = (.ok (), m₂) :=
    ⟨_, Prod.ext emitted rfl⟩
  rw [emission] at member
  have run : decideOn svc (droidServices svc) lang r p m = (.ok decision, m₂) := by
    unfold decideOn
    rw [bind_ok validation, bind_ok emission]
    rfl
  cases outcome : decision.outcome with
  | confirm => simp [outcome] at member
  | rejected => simp [outcome] at member
  | approved =>
    simp only [outcome] at member
    rcases trace_execute member with idle | ran
    · exact .inl idle
    · exact .inr ⟨decision, by rw [run], outcome, by rw [run]; exact ran⟩

private theorem trace_processFresh (member : t ∈ trace (processFresh svc (droidServices svc) lang r
    (providerChain svc.text lang.providers)) m) : Idle svc t ∨
      ∃ p, (proposeFresh svc lang r m).1 = .ok (some p) ∧ Tasked svc lang r p (proposeFresh svc lang r m).2 t := by
  rcases Coroutine.mem_trace_bind member with generates | ⟨intent, generated, member⟩
  · exact .inl (Coroutine.mem_trace (Coroutine.atoms_atomically .pass) generates)
  rw [Coroutine.run_atomically] at generated member
  rcases Coroutine.mem_trace_bind member with emits | ⟨_, emitted, member⟩
  · exact .inl (Coroutine.mem_trace (Coroutine.atoms_atomically (.emit _)) emits)
  rw [Coroutine.run_atomically] at emitted member
  simp only [ofExcept_run] at generated emitted member
  have run : proposeFresh svc lang r m = (.ok (some ⟨intent, r.confirmed⟩), (onRt (outside (svc.emit
      (commandRecord (lang.authorizer.resolve r.user) r.text intent))) m).2) := by
    unfold proposeFresh
    rw [bind_ok (t := m) (a := intent) (by rw [ofExcept_run, generated]), bind_ok (Prod.ext emitted rfl)]
    rfl
  rcases trace_dispatch ⟨intent, r.confirmed⟩ member with idle | tasked
  · exact .inl idle
  · exact .inr ⟨⟨intent, r.confirmed⟩, by rw [run], by rw [run]; exact tasked⟩

/-- A step of a call belongs to no task, or to the task that the call gets approved. -/
theorem trace_process (member : t ∈ trace (process svc (droidServices svc) lang r) m) :
    Idle svc t ∨
      ∃ p, (propose svc lang r m).1 = .ok (some p) ∧ Tasked svc lang r p (propose svc lang r m).2 t := by
  unfold process at member
  unfold propose
  cases asked : r.pending with
  | none =>
    rw [asked] at member
    exact trace_processFresh member
  | some pending =>
    rw [asked] at member
    dsimp only at member ⊢
    by_cases affirmed : isAffirmative svc.text r.text = true
    · rw [if_pos affirmed] at member ⊢
      rcases trace_dispatch ⟨pending, true⟩ member with idle | tasked
      · exact .inl idle
      · exact .inr ⟨⟨pending, true⟩, rfl, tasked⟩
    rw [if_neg affirmed] at member ⊢
    by_cases declined : isNegative svc.text r.text = true
    · rw [if_pos declined] at member
      cases member
    · rw [if_neg declined] at member ⊢
      exact trace_processFresh member

/-- Every step of a conversation is one of one of its calls. -/
theorem trace_converse {calls : List Call} (member : t ∈ trace (converse svc calls) m) :
    ∃ before c after, calls = before ++ c :: after ∧
      t ∈ trace (process svc (droidServices svc) c.lang c.request) ((converse svc before).run m).2 := by
  induction calls generalizing m with
  | nil => cases member
  | cons c calls ih =>
    rcases Coroutine.mem_trace_bind member with now | ⟨_, -, later⟩
    · rw [Coroutine.trace_attempt] at now
      exact ⟨[], c, calls, rfl, now⟩
    · obtain ⟨before, c', after, rfl, found⟩ := ih later
      refine ⟨c :: before, c', after, rfl, ?_⟩
      have run : (converse svc (c :: before)).run m = (converse svc before).run
          ((Coroutine.attempt (process svc (droidServices svc) c.lang c.request)).run m).2 := by
        change (Coroutine.attempt _ >>= fun _ => converse svc before).run m = _
        rw [Coroutine.run_bind, Coroutine.run_attempt, attempt_bind]
        rfl
      rw [run]
      exact found

end

/-! Power. -/

section

variable {δ : Type} (s : Surroundings δ)

def Off (rt : Runtime (SimWorld δ)) : Prop := rt.env.backend.power = false

private theorem off_outside {α : Type} {p : Proc (SimWorld δ) Exn α}
    (still : ∀ pose, Keeps (Still false pose) p) : Keeps Off (outside p) :=
  keeps_iff.mpr fun rt off => ((still rt.env.backend.pose).after ⟨off, fun _ => rfl⟩).1

private theorem off_attends : Attends (simulated s) Off where
  quiet call := off_outside fun _ => still_quiet s call
  status := keeps_iff.mpr fun _ off => off
  heartbeat := keeps_iff.mpr fun _ off => off

/-- Nothing but a request for motion permission switches motor power on. -/
theorem off_bears (P : String → Prop) : Bears (simulated s) P Off where
  beside rt rt' off env _ := by
    unfold Off
    rw [env]
    exact off
  reading call := off_outside fun _ => still_quiet s call.quiet
  emit r := off_outside fun _ => still_quiet s (.emit r)
  publish e := off_outside fun _ => still_quiet s (.publish e)
  off := keeps_iff.mpr fun _ _ => rfl
  start _ off := off
  cancel _ _ off := off
  stop := off_outside fun _ => still_quiet s .stop
  tool name arguments _ _ := off_outside fun _ => still_quiet s (.tool name arguments)
  diagnostics _ name _ arguments := off_outside fun _ => still_quiet s (.tool name arguments)
  shutdown _ := keeps_iff.mpr fun _ _ => rfl
  drive _ := off_attends s
  dock _ := (off_attends s).keeps_dock
  inspect _ target := off_outside fun _ => still_quiet s (.inspect target)

end

/-! What has been approved. -/

section

variable (s : Site)

/-- What holds of a proposal that may switch motor power on, where the broker has
validated it. -/
structure Granted (c : Call) (p : Proposal) (m : Brain (SimWorld Stores)) : Prop where
  rank : Role.operator.rank ≤ c.user.role.rank
  moves : s.equipment.body.capabilities.supportsMotion = .ok true
  destination : ∃ tool dest, getTool p.intent.intent = some tool ∧ destinationOf tool p.intent = .ok dest ∧
    (dest.truthy = true → ∃ place,
      Reachable s.equipment.text s.equipment.body m.rt.env.store.world.data dest place)
  ready : ∃ r, (assessReadiness (simulated (furnished s)) (droidServices (simulated (furnished s))) m).1 =
    .ok r ∧ r.state ∈ DroidState.motionAllowedFrom
  confirmed : ∀ tool prompt, getTool p.intent.intent = some tool →
    (needsConfirmation (simulated (furnished s)) tool p.intent m.rt.env).1 = .ok (true, prompt) →
    c.request.confirmed = true ∨ (c.request.pending = some p.intent ∧
      isAffirmative s.equipment.text c.request.text = true)

variable {s} {c : Call} {p : Proposal} {m : Brain (SimWorld Stores)}

/-- What the broker approves of driving is granted as above. -/
private theorem granted_of_approved {m₀ : Brain (SimWorld Stores)} {decision : BrokerDecision}
    (proposed : (propose (simulated (furnished s)) c.lang c.request m₀).1 = .ok (some p))
    (decides : (validate (simulated (furnished s)) (droidServices (simulated (furnished s))) p.intent c.user
      p.confirmed m).1 = .ok decision) (approved : decision.outcome = .approved)
    (drives : p.intent.intent ∈ drivingIntents) : Granted s c p m := by
  obtain ⟨-, tool, registered, free⟩ := approved_cleared decides approved
  obtain ⟨limited, moving, ranked, locomotion⟩ := driving_tool drives registered
  rcases free with always | cleared
  · rw [limited] at always
    cases always
  obtain ⟨reason, capable⟩ := cleared.capable
  have mayMove := cleared.motion moving
  obtain ⟨why, fine⟩ := mayMove.destination
  have fine : destinationOk (simulated (furnished s)) p.intent tool m.rt.env = (.ok (true, why), _) :=
    Prod.ext fine rfl
  obtain ⟨dest, asked, known⟩ := destination_known fine
  have seen := seen_reads (s := s) m.rt.env
  refine ⟨?_, capable_moves locomotion capable, ⟨tool, dest, registered, asked, fun given => ?_⟩, ?_, ?_⟩
  · have rank := cleared.rank
    rw [ranked] at rank
    exact rank
  · rcases known with ⟨absent, -⟩ | ⟨place, w, whither, resolved, reachable⟩
    · rw [absent] at given
      cases given
    · have same : w = m.rt.env := (congrArg Prod.snd resolved).symm
      rw [same] at reachable
      exact (traversable_reachable reachable).2
  · have same : (onRt (outside (destinationOk (simulated (furnished s)) p.intent tool)) m).2 = m := by
      have env : (destinationOk (simulated (furnished s)) p.intent tool m.rt.env).2 = m.rt.env :=
        (seen.keeps_destinationOk p.intent tool).after (s := m.rt) rfl
      rw [onRt_run, outside_run]
      dsimp only
      rw [env]
    have ready := mayMove.ready
    rw [same] at ready
    exact ready
  · intro tool' prompt registered' asks
    cases registered.symm.trans registered'
    have checks : Keeps (fun m' : Brain (SimWorld Stores) => m'.rt.env = m.rt.env)
        (motionChecks (simulated (furnished s)) (droidServices (simulated (furnished s))) p.intent tool) :=
      seen.keeps_motionChecks p.intent tool
    have env := checks.after (s := m) rfl
    have asked : (onRt (outside (needsConfirmation (simulated (furnished s)) tool p.intent))
        (motionChecks (simulated (furnished s)) (droidServices (simulated (furnished s))) p.intent tool m).2).1 =
          .ok (true, prompt) := by
      rw [onRt_run, outside_run]
      dsimp only
      rw [env]
      exact asks
    have given := propose_confirmed proposed (cleared.confirmation prompt asked)
    exact given

/-- A step belongs to the task that one of the calls has just got approved, on the grounds
above. -/
def Authorized (s : Site) (calls : List Call) (m : Brain (SimWorld Stores))
    (t : Brain (SimWorld Stores) × Brain (SimWorld Stores)) : Prop :=
  ∃ before c after p, calls = before ++ c :: after ∧
    (propose (simulated (furnished s)) c.lang c.request
      ((converse (simulated (furnished s)) before).run m).2).1 = .ok (some p) ∧
    Tasked (simulated (furnished s)) c.lang c.request p (propose (simulated (furnished s)) c.lang c.request
      ((converse (simulated (furnished s)) before).run m).2).2 t ∧
    Granted s c p (propose (simulated (furnished s)) c.lang c.request
      ((converse (simulated (furnished s)) before).run m).2).2

/-- Wherever motor power comes on in a conversation, it has been authorized so. -/
theorem power_granted {calls : List Call} {m : Brain (SimWorld Stores)}
    {t : Brain (SimWorld Stores) × Brain (SimWorld Stores)}
    (member : t ∈ trace (converse (simulated (furnished s)) calls) m) (off : Off t.1.rt) (on : ¬ Off t.2.rt) :
    Authorized s calls m t := by
  obtain ⟨before, c, after, split, member⟩ := trace_converse member
  have switched {P : String → Prop} {step : Brain (SimWorld Stores) → Brain (SimWorld Stores)}
      (taken : TaskStep (simulated (furnished s)) (droidServices (simulated (furnished s))) P step)
      (led : t.2 = step t.1) : ∃ name ∈ drivingIntents, P name := by
    rcases (off_bears (furnished s) P).step_cases taken with ⟨-, drives⟩ | kept
    · exact drives
    · rw [led] at on
      exact absurd (kept t.1 off) on
  rcases trace_process member with ⟨step, taken, led⟩ | ⟨p, proposed, tasked⟩
  · obtain ⟨_, -, absurd_⟩ := switched taken led
    exact absurd_.elim
  refine ⟨before, c, after, p, split, proposed, tasked, ?_⟩
  obtain ⟨decision, decides, approved, ran⟩ := tasked
  obtain ⟨step, taken, led⟩ := Coroutine.mem_trace (@atoms_runIntent _ (simulated (furnished s)) (droidServices (simulated (furnished s)))
    (· = decision.intent.intent) _ rfl c.user.name) ran
  obtain ⟨name, drives, rfl⟩ := switched taken led
  have validated := decideOn_validated decides
  rw [(approved_cleared validated approved).1] at drives
  exact granted_of_approved proposed validated approved drives

end

/-! An operator who sends the droid to the hallway. -/

/-- The operator confirms a drive that the droid has asked back about. -/
def operatorAsks : List Call :=
  [{ lang := guestVoice, request := { text := "yes", user := some "operator", pending := some toHallway } }]

/-- The step at which motor power comes on for the operator. -/
def switchedOn : Brain (SimWorld Stores) × Brain (SimWorld Stores) :=
  ((trace (converse (simulated (furnished wheeledSite)) operatorAsks) parked)[6]?).getD (parked, parked)

theorem switchedOn_step :
    (trace (converse (simulated (furnished wheeledSite)) operatorAsks) parked)[6]? = some switchedOn := by
  have long : ((trace (converse (simulated (furnished wheeledSite)) operatorAsks) parked)[6]?).isSome = true := by
    decide +kernel
  obtain ⟨t, found⟩ := Option.isSome_iff_exists.mp long
  rw [switchedOn, found]
  rfl

theorem hallway_granted : Authorized wheeledSite operatorAsks parked switchedOn :=
  power_granted (List.mem_of_getElem? switchedOn_step) (by unfold Off; decide +kernel)
    (by unfold Off; decide +kernel)

end DroidOs.System.PowerGrants
