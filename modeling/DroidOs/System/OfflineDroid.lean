/- GID: DroidOs/System/OfflineDroid
   generality: I
   source: src/droidos/cli/droid.py, src/droidos/language/service.py, src/droidos/language/providers.py
   digest: Without a language model the console of a droid answers every line of a session. -/

import DroidOs.Cli.Console
import DroidOs.Language.Rules
import DroidOs.System.BodyLaw
import DroidOs.System.Replies

set_option autoImplicit false
set_option relaxedAutoImplicit false

namespace DroidOs.System.OfflineDroid

open DroidOs.Lib.Procedure DroidOs.Lib.Interleaving
open DroidOs.Lib.Interleaving.Coroutine (free)
open DroidOs.Core.Values DroidOs.Core.Context
open DroidOs.Backends.SafetyController DroidOs.Backends.Simulation DroidOs.Backends.Bounds
open DroidOs.Services DroidOs.Services.Lifecycle DroidOs.Services.Inhibition
open DroidOs.Services.Supervisor (Brain hasSafety)
open DroidOs.Executive.RunIntent DroidOs.Executive.Tools
open DroidOs.Language.Intent DroidOs.Language.Broker DroidOs.Language.Conversation
open DroidOs.Language.OfflineParser DroidOs.Language.Rules DroidOs.Language.Reply DroidOs.Language.Wording
open DroidOs.Language.Rendering
open DroidOs.Cli DroidOs.Cli.Console
open Furnished Simulated Registration Operations LatchLaw PoweredStates BodyLaw Serving Replies

/-! What the parser makes of a text. -/

/-- An intent with a mapping of arguments that stores no place. -/
structure Ordinary (intent : StructuredIntent) : Prop where
  arguments : ∃ items, intent.arguments = .dict items
  place : intent.intent ≠ "memory.store_place"

/-- The parser knows these intents and no others. -/
def spokenIntents : List String := commandIntents ++ ["memory.forget", "memory.remember"] ++ motionIntents

theorem parse_spoken (text : PyText) (s : String) : (parse text s).intent ∈ spokenIntents := by
  cases taken : captured text (normalized text s) with
  | true => exact List.mem_append_left _ (List.mem_append_left _ (parse_captured taken))
  | false =>
    rw [parse_request taken]
    change (meaning (parseRequest text (text.strip s) (normalized text s))).1 ∈ spokenIntents
    rcases forget : start text forgetPattern (normalized text s) with _ | groups
    · rcases remember : startIgnoringCase text rememberPattern (text.strip s) with _ | groups
      · exact List.mem_append_right _ (parseRequest_motion forget remember)
      · rw [parseRequest_remember forget remember]
        exact List.mem_append_left _ (List.mem_append_right _ (by simp))
    · rw [parseRequest_forget forget]
      exact List.mem_append_left _ (List.mem_append_right _ (by simp))

/-- No phrase stores a place. -/
theorem parse_ordinary (text : PyText) (s source : String) : Ordinary { parse text s with source := source } where
  arguments := parse_arguments text s
  place := by
    intro stores
    have listed := parse_spoken text s
    rw [show (parse text s).intent = "memory.store_place" from stores] at listed
    exact absurd listed (by decide +kernel)

/-- Providers that are all passed over leave the text to the parser. -/
theorem generate_offline {text : PyText} {raw : String} {providers : List Provider}
    (passed : ∀ q ∈ providers, PassedOver q raw) :
    generate text raw (providerChain text providers) = .ok { parse text raw with source := "offline" } := by
  have last (rest : List Provider) (same : generate text raw rest = .ok { parse text raw with source := "offline" }) :
      generate text raw (providers ++ rest) = .ok { parse text raw with source := "offline" } := by
    induction providers with
    | nil => exact same
    | cons q providers ih =>
      have later := ih fun q' inside => passed q' (List.mem_cons_of_mem q inside)
      rw [List.cons_append, generate]
      rcases passed q List.mem_cons_self with absent | ⟨e, absent, fails⟩ | ⟨present, e, raised, fails⟩
      · rw [absent]
        exact later
      · rw [absent]
        exact (if_pos fails).trans later
      · rw [present]
        dsimp only [bind, Except.bind]
        rw [if_pos rfl, raised]
        exact (if_pos fails).trans later
  unfold providerChain
  split
  · simpa using last [] rfl
  · exact last _ rfl

/-! One request. -/

variable {s : Site} {p : Personality} {authorizer : Authorizer} {hottest : ℚ}
variable {reg : Registry (Runtime (SimWorld Stores))} {m : Brain (SimWorld Stores)}

/-- What a droid needs so that its readings are numbers. -/
structure Equipped (s : Site) : Prop where
  laws : s.equipment.text.Lawful
  sums : Summarizes s.equipment
  sound : Sound s.equipment.text s.math s.equipment.body
  legible : Legible s.equipment.text s.equipment.body
  capabilities : ∃ caps, s.equipment.body.capabilities.raw = .dict caps

/-- An ordinary intent gets what it needs from a body within its bounds. -/
theorem serves_ordinary (equipped : Equipped s) (bounded : Bounded hottest m.rt) {intent : StructuredIntent}
    (ordinary : Ordinary intent) (user : User) (confirmed : Bool) : Serves s user confirmed intent m where
  readable _ _ := ⟨fun _ => equipped.capabilities, fun _ _ _ =>
    .inr (answering_within (s := furnished s) equipped.legible bounded)⟩
  battery _ := ⟨equipped.legible.readBattery _, equipped.legible.minimum⟩
  place named := absurd named ordinary.place

/-- What is carried out asks for nothing more. -/
private theorem execute_settled {svc : Services (SimWorld Stores)} {lang : LanguageService} {decision : BrokerDecision}
    {user : User} {degraded : Bool} {resp : Response}
    (ran : ((execute svc reg lang decision user degraded).run m).1 = .ok resp) : resp.needsConfirmation = false := by
  unfold execute at ran
  rw [Coroutine.run_bind, Coroutine.run_attempt, attempt_bind] at ran
  rcases carried : (runIntent svc reg decision.intent user.name).run m with ⟨e | result, m'⟩ <;> rw [carried] at ran
  · dsimp only at ran
    split at ran
    · cases ran
      rfl
    · cases ran
  · dsimp only at ran
    rw [Coroutine.run_bind, Coroutine.run_atomically] at ran
    rcases said : lang.render result with e | words <;> rw [said] at ran
    · cases ran
    · cases ran
      rfl

/-- What is left to confirm is the intent itself. -/
theorem dispatch_pending {svc : Services (SimWorld Stores)} {lang : LanguageService} {intent : StructuredIntent}
    {user : User} {confirmed degraded : Bool} {resp : Response}
    (ran : ((dispatch svc reg lang intent user confirmed degraded).run m).1 = .ok resp)
    (asks : resp.needsConfirmation = true) : resp.pending = some intent := by
  unfold dispatch at ran
  rw [Coroutine.run_bind, Coroutine.run_atomically] at ran
  rcases validated : validate svc reg intent user confirmed m with ⟨e | d, m₁⟩
  · rw [bind_error validated] at ran
    cases ran
  rw [bind_ok validated, Coroutine.run_bind, Coroutine.run_atomically] at ran
  rcases emitted : onRt (outside (svc.emit (approvalRecord user d))) m₁ with ⟨e | _, m₂⟩
  · rw [bind_error emitted] at ran
    cases ran
  rw [bind_ok emitted] at ran
  cases outcome : d.outcome with
  | confirm =>
    rw [outcome] at ran
    cases ran
    rfl
  | rejected =>
    rw [outcome] at ran
    cases ran
    cases asks
  | approved =>
    rw [outcome] at ran
    rw [execute_settled ran] at asks
    cases asks

/-- Nothing is left to confirm but an ordinary intent. -/
def Settled (resp : Response) : Prop :=
  ∀ intent, resp.needsConfirmation = true → resp.pending = some intent → Ordinary intent

variable {providers : List Provider}

private theorem dispatch_answers (equipped : Equipped s) (safety : hasSafety reg = true)
    (bounded : Bounded hottest m.rt) {intent : StructuredIntent} (ordinary : Ordinary intent) (user : User)
    (confirmed degraded : Bool) :
    ∃ resp, ((dispatch (simulated (furnished s)) reg (worded s p authorizer providers) intent user confirmed
      degraded).run m).1 = .ok resp ∧ Settled resp := by
  obtain ⟨items, given⟩ := ordinary.arguments
  have serves := serves_ordinary equipped bounded ordinary user confirmed
  obtain ⟨resp, answered⟩ := (dispatch_returns_iff safety equipped.sums equipped.laws given confirmed degraded).mpr serves
  refine ⟨resp, answered, fun intent' asks left => ?_⟩
  cases (dispatch_pending answered asks).symm.trans left
  exact ordinary

private theorem processFresh_answers (equipped : Equipped s) (safety : hasSafety reg = true)
    (bounded : Bounded hottest m.rt) {r : Request} (passed : ∀ q ∈ providers, PassedOver q r.text) :
    ∃ resp, ((processFresh (simulated (furnished s)) reg (worded s p authorizer providers) r
      (providerChain s.equipment.text providers)).run m).1 = .ok resp ∧ Settled resp := by
  obtain ⟨intent, generated, ordinary⟩ : ∃ intent,
      generate s.equipment.text r.text (providerChain s.equipment.text providers) = .ok intent ∧ Ordinary intent :=
    ⟨_, generate_offline passed, parse_ordinary _ _ _⟩
  have proposed : (ofExcept (generate (simulated (furnished s)).text r.text (providerChain s.equipment.text providers)) :
      Proc (Brain (SimWorld Stores)) Exn _) m = (.ok intent, m) := congrArg (fun r => (r, m)) generated
  obtain ⟨m', emitted, bounded'⟩ : ∃ m', onRt (outside ((simulated (furnished s)).emit
      (commandRecord ((worded s p authorizer providers).authorizer.resolve r.user) r.text intent))) m = (.ok (), m') ∧
        Bounded hottest m'.rt := ⟨_, rfl, bounded⟩
  unfold processFresh
  dsimp only
  rw [Coroutine.run_bind, Coroutine.run_atomically, bind_ok proposed, Coroutine.run_bind, Coroutine.run_atomically,
    bind_ok emitted]
  exact dispatch_answers equipped safety bounded' ordinary _ _ _

/-- Without a model every request is answered, be it new or the confirmation of an ordinary one. -/
theorem process_answers (equipped : Equipped s) (safety : hasSafety reg = true) (bounded : Bounded hottest m.rt)
    {r : Request} (passed : ∀ q ∈ providers, PassedOver q r.text)
    (ordinary : ∀ intent, r.pending = some intent → Ordinary intent) :
    ∃ resp, ((process (simulated (furnished s)) reg (worded s p authorizer providers) r).run m).1 = .ok resp ∧
      Settled resp := by
  unfold process
  cases asked : r.pending with
  | none => exact processFresh_answers equipped safety bounded passed
  | some intent =>
    dsimp only
    split
    · exact dispatch_answers equipped safety bounded (ordinary intent asked) _ _ _
    · split
      · exact ⟨_, rfl, fun _ asks => by cases asks⟩
      · exact processFresh_answers equipped safety bounded passed

/-! A session. -/

/-- The session goes on: the body is within its bounds, what is pending is ordinary, and
nothing has been raised. -/
structure Going (hottest : ℚ) (c : Session (SimWorld Stores)) : Prop where
  threads : c.pool.Keeps free fun m => Bounded hottest m.rt
  bounded : Bounded hottest c.pool.state.rt
  pending : ∀ intent, c.pending = some intent → Ordinary intent
  raised : c.raised = none

/-- No line is answered by a model. -/
def Unanswered (text : PyText) (events : List (Event {event : SimEvent Stores // Mild hottest event})) : Prop :=
  ∀ line providers, .typed line providers ∈ events → ∀ q ∈ providers, PassedOver q (text.strip line)

variable {user : String} {c : Session (SimWorld Stores)}

/-- A line that is put to the language service is answered, and the session goes on. -/
private theorem going_asked (equipped : Equipped s) (hot : 62 ≤ hottest) (going : Going hottest c) {line : String}
    (passed : ∀ q ∈ providers, PassedOver q (s.equipment.text.strip line))
    (words : (simulated (furnished s)).text.strip line ≠ "")
    (stays : (simulated (furnished s)).text.lower ((simulated (furnished s)).text.strip line) ∉ farewells) :
    let c' := turn (simulated (furnished s)) (worded s p authorizer) user line providers c
    Going hottest c' ∧ c'.closed = c.closed ∧
      ∃ resp, c'.answers = c.answers ++ [((simulated (furnished s)).text.strip line, resp)] := by
  intro c'
  let asked := asks (simulated (furnished s)) user line c.pending
  have replied : ∃ resp, ((process (simulated (furnished s)) (droidServices (simulated (furnished s)))
      (worded s p authorizer providers) asked).run c.pool.state).1 = .ok resp ∧ Settled resp :=
    process_answers equipped (droidServices_hasSafety (simulated (furnished s))) going.bounded passed going.pending
  obtain ⟨resp, answered, settled⟩ := replied
  have after := (bounded_process (s := furnished s) equipped.sound hot (worded s p authorizer providers) asked).after
    going.bounded
  have made := @turn_answered _ (simulated (furnished s)) (worded s p authorizer) user line providers c words stays resp _
    (Prod.ext answered rfl)
  change Going hottest (turn _ _ _ _ _ _) ∧ (turn _ _ _ _ _ _).closed = _ ∧ ∃ resp, (turn _ _ _ _ _ _).answers = _
  rw [made]
  refine ⟨⟨going.threads, after, fun intent left => ?_, going.raised⟩, rfl, resp, rfl⟩
  dsimp only at left
  split at left
  · exact settled intent ‹_› left
  · cases left

private theorem going_turn (equipped : Equipped s) (hot : 62 ≤ hottest) (going : Going hottest c) {line : String}
    (passed : ∀ q ∈ providers, PassedOver q (s.equipment.text.strip line)) :
    Going hottest (turn (simulated (furnished s)) (worded s p authorizer) user line providers c) := by
  by_cases words : (simulated (furnished s)).text.strip line = ""
  · rw [turn_blank words]
    exact going
  by_cases leaves : (simulated (furnished s)).text.lower ((simulated (furnished s)).text.strip line) ∈ farewells
  · rw [turn_farewell words leaves]
    exact ⟨going.threads, going.bounded, going.pending, going.raised⟩
  · exact (going_asked equipped hot going passed words leaves).1

private theorem going_meanwhile (equipped : Equipped s) (hot : 62 ≤ hottest) (going : Going hottest c)
    (made : Move (Operation {event : SimEvent Stores // Mild hottest event})) :
    Going hottest { c with
      pool := move (code (simulated (furnished s)) fun event => happening event.1) c.pool made } := by
  let acts := code (simulated (furnished s)) fun event : {event : SimEvent Stores // Mild hottest event} => happening event.1
  have kept : ∀ op, (acts op).Keeps free fun m => Bounded hottest m.rt := fun op => bounded_code equipped.sound hot op
  have allowed : AllowedRun free acts c.pool [made] := allowedRun_free [made]
  exact ⟨keeps_move going.threads kept made, state_move going.threads going.bounded allowed.1,
    going.pending, going.raised⟩

def levelSite : Site := diagnosed { wheeledSite with math := level } fun _ _ => .ok ⟨"OK", 0, []⟩

theorem levelSite_equipped : Equipped levelSite where
  laws := PyText.ascii_lawful
  sums := diagnosed_summarizes _ _
  sound := level_sound
  legible := ⟨⟨.float 36, 36, rfl, rfl⟩, ⟨20, rfl⟩, ⟨85, rfl⟩⟩
  capabilities := ⟨_, rfl⟩

def warming : SimEvent Stores := .injectFault "motor_overheat" [(.str "temp", .int 80)]

private theorem warming_mild : Mild 80 warming :=
  fun _ => ⟨80, rfl, 80, rfl, by norm_num, le_rfl⟩

/-- Two questions, a motor that warms, and a farewell. -/
def evening : List (Event {event : SimEvent Stores // Mild 80 event}) :=
  [.typed " what can you do " [], .meanwhile (.start (.happen ⟨warming, warming_mild⟩)), .meanwhile (.resume 0),
    .typed "" [], .typed "go to the hallway" [], .typed "Quit" [], .typed "status" []]

end DroidOs.System.OfflineDroid
