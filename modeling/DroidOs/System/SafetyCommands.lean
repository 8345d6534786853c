/- GID: DroidOs/System/SafetyCommands
   generality: I
   source: src/droidos/language/service.py, src/droidos/language/providers.py
   digest: When a typed stop is carried out, whatever the providers make of it. -/

import DroidOs.Language.Approval
import DroidOs.System.Interruptions

set_option autoImplicit false
set_option relaxedAutoImplicit false

namespace DroidOs.System.SafetyCommands

open DroidOs.Lib.Procedure DroidOs.Lib.Interleaving
open DroidOs.Core.Values DroidOs.Core.Context
open DroidOs.Services.Lifecycle DroidOs.Services.SafetyGateway DroidOs.Services.Supervisor
open DroidOs.Executive.RunIntent
open DroidOs.Language.Intent DroidOs.Language.Broker DroidOs.Language.OfflineParser
open DroidOs.Language.Conversation DroidOs.Language.Approval DroidOs.Language.Dispatch
open Registration WorldLaw Simulated LatchLaw Interruptions

/-- The intents that stop the droid. -/
def safetyCommands : List String := ["motion.emergency_stop", "motion.stop"]

/-! Which command a provider chain makes of a text. -/

/-- A task can be made of the intent. -/
def Startable (intent : StructuredIntent) : Prop := ∃ items, intent.arguments.toDict = .ok items

/-- The provider says nothing about the text: it is not available, or it fails as a
provider may. -/
inductive Silent (text : String) (p : Provider) : Prop
  | unavailable : p.available = .ok false → Silent text p
  | unreachable {e : Exn} : p.available = .error e → e.cls = .providerError → Silent text p
  | failed {e : Exn} : p.available = .ok true → p.generate text = .error e → e.cls = .providerError →
      Silent text p

/-- The first provider that says anything proposes the command, for a task that can be
made; or none says anything. -/
inductive Proposes (name text : String) : List Provider → Prop
  | nobody : Proposes name text []
  | later {p : Provider} {rest : List Provider} : Silent text p → Proposes name text rest →
      Proposes name text (p :: rest)
  | speaks {p : Provider} {rest : List Provider} {intent : StructuredIntent} : p.available = .ok true →
      p.generate text = .ok intent → intent.intent = name → Startable intent →
      Proposes name text (p :: rest)

variable {text : PyText} {t name : String} {chain : List Provider}

/-- Silent providers are passed over. -/
private theorem generate_silent {p : Provider} {rest : List Provider} (silent : Silent t p) :
    generate text t (p :: rest) = generate text t rest := by
  cases silent with
  | unavailable absent => simp [generate, absent, bind, Except.bind]
  | unreachable raised cls => simp [generate, raised, cls, bind, Except.bind]
  | failed available raised cls =>
    simp [generate, available, raised, cls, bind, Except.bind, Functor.map, Except.map]

private theorem generate_speaks {p : Provider} {rest : List Provider} {intent : StructuredIntent}
    (available : p.available = .ok true) (spoken : p.generate t = .ok intent) :
    generate text t (p :: rest) = .ok intent := by
  simp [generate, available, spoken, bind, Except.bind, Functor.map, Except.map]

private theorem generate_raises {p : Provider} {rest : List Provider} {intent : StructuredIntent}
    (proposed : generate text t (p :: rest) = .ok intent) :
    Silent t p ∨ (p.available = .ok true ∧ p.generate t = .ok intent) := by
  unfold generate at proposed
  rcases available : p.available with e | _ | _ <;>
    simp only [available, bind, Except.bind, Bool.false_eq_true, if_false, if_true] at proposed
  · by_cases cls : e.cls = .providerError
    · exact .inl (.unreachable available cls)
    · rw [if_neg cls] at proposed
      cases proposed
  · exact .inl (.unavailable available)
  · rcases spoken : p.generate t with e | intent'
    · simp only [spoken, Functor.map, Except.map] at proposed
      by_cases cls : e.cls = .providerError
      · exact .inl (.failed available spoken cls)
      · rw [if_neg cls] at proposed
        cases proposed
    · simp only [spoken, Functor.map, Except.map] at proposed
      cases proposed
      exact .inr ⟨rfl, rfl⟩

/-- The chain comes up with a startable command exactly if it proposes it so. -/
theorem generate_iff (parsed : (parse text t).intent = name) :
    (∃ intent, generate text t chain = .ok intent ∧ intent.intent = name ∧ Startable intent) ↔
      Proposes name t chain := by
  constructor
  · rintro ⟨intent, proposed, named, startable⟩
    induction chain with
    | nil => exact .nobody
    | cons p rest ih =>
      rcases generate_raises proposed with silent | ⟨available, spoken⟩
      · rw [generate_silent silent] at proposed
        exact .later silent (ih proposed)
      · exact .speaks available spoken named startable
  · intro proposes
    induction proposes with
    | nobody =>
      obtain ⟨items, mapping⟩ := parse_arguments text t
      exact ⟨_, rfl, parsed, items, by rw [mapping]; rfl⟩
    | later silent _ ih =>
      rw [generate_silent silent]
      exact ih
    | speaks available spoken named startable => exact ⟨_, generate_speaks available spoken, named, startable⟩

/-! What a call gets approved. -/

section

variable {ε : Type} {svc : Services ε} {lang : LanguageService} {r : Request} {m : Brain ε}

/-- Without a pending intent the chain's proposal is all that can be approved. -/
theorem approved_generated (fresh : r.pending = none) {intent : StructuredIntent}
    (approved : approvedIntent svc (droidServices svc) lang r m = some intent) :
    generate svc.text r.text (providerChain svc.text lang.providers) = .ok intent := by
  obtain ⟨p, decision, decides, outcome, rfl, -⟩ := process_approved approved
  obtain ⟨proposed, decides⟩ := decided_ok decides
  rw [(approved_cleared (decideOn_validated decides) outcome).1]
  unfold propose at proposed
  rw [fresh] at proposed
  exact (proposeFresh_ok proposed).1

private theorem safety_always {name : String} (safety : name ∈ safetyCommands) :
    ∃ tool, getTool name = some tool ∧ tool.alwaysAvailable = true := by
  simp only [safetyCommands, List.mem_cons, List.not_mem_nil, or_false] at safety
  rcases safety with rfl | rfl <;> exact ⟨_, rfl, rfl⟩

/-- A safety command is approved whoever gives it. -/
theorem safety_approved (fresh : r.pending = none) {intent : StructuredIntent}
    (proposed : generate svc.text r.text (providerChain svc.text lang.providers) = .ok intent)
    (safety : intent.intent ∈ safetyCommands) (logs : ∀ record env, (svc.emit record env).1 = .ok ()) :
    approvedIntent svc (droidServices svc) lang r m = some intent := by
  obtain ⟨tool, registered, always⟩ := safety_always safety
  have emits (record : AuditRecord) (m : Brain ε) : ∃ m', onRt (outside (svc.emit record)) m = (.ok (), m') := by
    refine ⟨_, Prod.ext ?_ rfl⟩
    rw [onRt_run, outside_run]
    exact logs record m.rt.env
  obtain ⟨m₁, commanded⟩ := emits (commandRecord (lang.authorizer.resolve r.user) r.text intent) m
  have proposes : propose svc lang r m = (.ok (some ⟨intent, r.confirmed⟩), m₁) := by
    unfold propose proposeFresh
    rw [fresh]
    dsimp only
    rw [bind_ok (t := m) (a := intent) (by rw [ofExcept_run, proposed]), bind_ok commanded]
    rfl
  obtain ⟨d, validated, outcome, rfl⟩ := @always_approved _ svc (droidServices svc) intent
    (lang.authorizer.resolve r.user) r.confirmed m₁ tool registered always
  obtain ⟨m₂, recorded⟩ := emits (approvalRecord (lang.authorizer.resolve r.user) d) m₁
  have decides : decideOn svc (droidServices svc) lang r ⟨d.intent, r.confirmed⟩ m₁ = (.ok d, m₂) := by
    unfold decideOn
    rw [bind_ok validated, bind_ok recorded]
    rfl
  unfold approvedIntent decided
  rw [bind_ok proposes]
  dsimp only
  rw [bind_ok decides]
  change (if d.outcome = .approved then some d.intent else none) = _
  rw [if_pos outcome]

end

/-! Carrying out a safety command. -/

section

variable {δ : Type} (s : Surroundings δ)

/-- The e-stop has latched the controller, and motor power is off. -/
structure Stopped (rt : Runtime (SimWorld δ)) : Prop where
  estop : rt.controller.estop = true
  contactor : rt.controller.power = false
  power : rt.env.backend.power = false

/-- The call runs a task of the command, and after an emergency stop the droid is stopped. -/
structure Obeys (lang : LanguageService) (r : Request) (m : Brain (SimWorld δ)) (name : String) : Prop where
  runs : ∃ intent, (approvedIntent (simulated s) (droidServices (simulated s)) lang r m).bind starting =
    some intent ∧ intent.intent = name
  stops : name = "motion.emergency_stop" →
    Stopped ((process (simulated s) (droidServices (simulated s)) lang r).run m).2.rt

variable {s} {lang : LanguageService} {r : Request} {m : Brain (SimWorld δ)} {name : String}

private theorem stopped_hEstop (task : Task) (m : Brain (SimWorld δ)) :
    Stopped (hEstop (simulated s) task m).2.rt := by
  obtain ⟨controller, store, estop, contactor, run⟩ := @engageEstop_run _ s "voice_or_text_command" m.rt
  have engaged : onRt (engageEstop (simulated s) "voice_or_text_command") m =
      (.ok (), { m with rt := (engageEstop (simulated s) "voice_or_text_command" m.rt).2 }) := by
    rw [onRt_run, run]
  unfold hEstop
  rw [bind_ok engaged, run]
  exact ⟨estop, contactor, rfl⟩

private theorem stopped_finish (task : Task) (user : String) (result : TaskResult) :
    Keeps (Stopped (δ := δ)) (finishTask (simulated s) task user result) := by
  have beside {f : Runtime (SimWorld δ) → Runtime (SimWorld δ)} (controller : ∀ rt, (f rt).controller = rt.controller)
      (env : ∀ rt, (f rt).env = rt.env) : Keeps Stopped (modify f : Proc _ Exn Unit) := by
    refine keeps_modify fun rt stopped => ⟨?_, ?_, ?_⟩
    · rw [controller]
      exact stopped.estop
    · rw [controller]
      exact stopped.contactor
    · rw [env]
      exact stopped.power
  refine keeps_bind (beside (fun _ => rfl) fun _ => rfl) fun _ => keeps_bind (keeps_reads _) fun _ => ?_
  refine keeps_bind (keeps_iff.mpr fun _ stopped => ⟨stopped.estop, stopped.contactor, stopped.power⟩) fun _ => ?_
  exact keeps_bind (beside (fun _ => rfl) fun _ => rfl) fun _ => keeps_pure _

/-- A task of the emergency stop stops the droid. -/
private theorem stopped_runIntent {intent : StructuredIntent} (startable : Startable intent)
    (named : intent.intent = "motion.emergency_stop") (user : String) (m : Brain (SimWorld δ)) :
    Stopped ((runIntent (simulated s) (droidServices (simulated s)) intent user).run m).2.rt := by
  obtain ⟨items, arguments⟩ := startable
  obtain ⟨task, rt, started, -, -⟩ := startTask_simulated s arguments user m.rt
  have first : onRt (startTask (simulated s) intent user) m = (.ok task, { m with rt := rt }) := by
    rw [onRt_run, started]
  have handler : handlerFor (simulated s) (droidServices (simulated s)) "motion.emergency_stop" =
      fun t => Coroutine.atomically (hEstop (simulated s) t) := rfl
  unfold runIntent
  rw [Coroutine.run_bind, Coroutine.run_atomically, bind_ok first, Coroutine.run_bind, Coroutine.run_attempt,
    named, handler, attempt_bind, Coroutine.run_atomically, Coroutine.run_atomically]
  exact (keeps_onRt_of (stopped_finish task user _)).after (stopped_hEstop task _)

/-- The command is obeyed exactly if the chain comes up with it for a task that can be made. -/
private theorem obeys_iff_generated (fresh : r.pending = none) (safety : name ∈ safetyCommands) :
    Obeys s lang r m name ↔ ∃ intent, generate s.text r.text (providerChain s.text lang.providers) = .ok intent ∧
      intent.intent = name ∧ Startable intent := by
  constructor
  · rintro ⟨⟨intent, ran, named⟩, -⟩
    obtain ⟨approved, found, started⟩ := Option.bind_eq_some_iff.mp ran
    unfold starting at started
    rcases arguments : approved.arguments.toDict with e | items <;> rw [arguments] at started
    · cases started
    · cases started
      exact ⟨intent, approved_generated fresh found, named, items, arguments⟩
  · rintro ⟨intent, proposed, rfl, startable⟩
    have approved := @safety_approved _ (simulated s) lang r m fresh intent proposed safety fun _ _ => rfl
    refine ⟨⟨intent, ?_, rfl⟩, fun stop => ?_⟩
    · obtain ⟨items, arguments⟩ := startable
      rw [approved, Option.bind_some, starting, arguments]
    · obtain ⟨p, decision, -, -, rfl, run⟩ := process_approved approved
      rw [run, execute_after]
      exact stopped_runIntent startable stop _ _

/-- A typed safety command is carried out, in every state and for everybody, exactly if the
first provider that says anything about the text proposes that command. -/
theorem obeys_iff (s : Surroundings δ) (lang : LanguageService) {r : Request} (fresh : r.pending = none)
    {name : String} (safety : name ∈ safetyCommands) (parsed : (parse s.text r.text).intent = name)
    (m : Brain (SimWorld δ)) :
    Obeys s lang r m name ↔ Proposes name r.text (providerChain s.text lang.providers) :=
  (obeys_iff_generated fresh safety).trans (generate_iff parsed)

/-! A language model that makes something else of an emergency stop. -/

/-- It is available and answers with a registered intent. -/
def helpfulModel : Provider where
  name := "cloud"
  available := .ok true
  generate := fun raw => .ok { intent := "help", rawText := raw, source := "llm" }

def helpfulVoice : LanguageService where
  authorizer := { users := [] }
  providers := [helpfulModel]
  refuse := id
  render := fun _ => .ok ""

def emergency : Request where
  text := "emergency stop"

/-- The parser makes an emergency stop of the text, and the droid helps instead. -/
theorem stop_ignored : (parse PyText.ascii emergency.text).intent = "motion.emergency_stop" ∧
    ¬ Obeys hallwayDroid helpfulVoice emergency (DriveGate.underway) "motion.emergency_stop" := by
  refine ⟨by decide +kernel, fun obeys => ?_⟩
  obtain ⟨intent, proposed, named, -⟩ := (obeys_iff_generated rfl (by decide)).mp obeys
  cases proposed
  exact absurd named (by decide)

/-- Without the model the parser decides. -/
theorem stop_obeyed : Obeys hallwayDroid hallwayVoice.language emergency DriveGate.underway "motion.emergency_stop" ↔
    Proposes "motion.emergency_stop" emergency.text (providerChain PyText.ascii []) :=
  obeys_iff hallwayDroid hallwayVoice.language rfl (by decide) (by decide +kernel) DriveGate.underway

end

end DroidOs.System.SafetyCommands
