/- GID: DroidOs/Language/Dispatch
   generality: I
   source: src/droidos/language/service.py
   digest: A request without interruption: the proposal, the decision about it, and the answer. -/

import DroidOs.Language.Conversation

set_option autoImplicit false
set_option relaxedAutoImplicit false

namespace DroidOs.Language.Dispatch

open DroidOs.Lib.Procedure DroidOs.Lib.Interleaving
open DroidOs.Core.Values DroidOs.Core.Context
open DroidOs.Services.Lifecycle DroidOs.Services.Supervisor
open DroidOs.Executive.RunIntent
open Intent Broker OfflineParser Conversation

variable {ε : Type} (svc : Services ε) (reg : Registry (Runtime ε)) (lang : LanguageService)

/-- What a request puts to the broker, and whether it counts as confirmed. -/
structure Proposal where
  intent : StructuredIntent
  confirmed : Bool

/-- A new proposal of the providers. -/
def proposeFresh (r : Request) : Proc (Brain ε) Exn (Option Proposal) := do
  let intent ← ofExcept (generate svc.text r.text (providerChain svc.text lang.providers))
  onRt (outside (svc.emit (commandRecord (lang.authorizer.resolve r.user) r.text intent)))
  return some ⟨intent, r.confirmed⟩

/-- Nothing is proposed by a refusal to confirm. -/
def propose (r : Request) : Proc (Brain ε) Exn (Option Proposal) :=
  match r.pending with
  | none => proposeFresh svc lang r
  | some pending =>
    if isAffirmative svc.text r.text then pure (some ⟨pending, true⟩)
    else if isNegative svc.text r.text then pure none
    else proposeFresh svc lang r

/-- The decision about what a request proposes. -/
def decideOn (r : Request) (p : Proposal) : Proc (Brain ε) Exn BrokerDecision := do
  let user := lang.authorizer.resolve r.user
  let decision ← validate svc reg p.intent user p.confirmed
  onRt (outside (svc.emit (approvalRecord user decision)))
  return decision

/-- The answer to a decision; only an approved intent is run. -/
def answer (r : Request) (p : Proposal) (decision : BrokerDecision) :
    Coroutine (Brain ε) Exn Response :=
  let degraded := degraded svc.text (providerChain svc.text lang.providers)
  match decision.outcome with
  | .confirm => pure {
      text := lang.refuse decision.confirmPrompt
      outcome := "confirmation_required"
      needsConfirmation := true
      pending := some p.intent
      degraded := degraded
      decision := some decision }
  | .rejected =>
    let text := if p.intent.intent = "unknown" ∧ degraded = true then unavailableText
      else lang.refuse decision.reason
    pure { text := text, outcome := "rejected", degraded := degraded, decision := some decision }
  | .approved => execute svc reg lang decision (lang.authorizer.resolve r.user) degraded

/-- The proposal and the decision about it. -/
def decided (r : Request) : Proc (Brain ε) Exn (Option (Proposal × BrokerDecision)) :=
  propose svc lang r >>= fun proposal => match proposal with
    | none => pure none
    | some p => decideOn svc reg lang r p >>= fun decision => pure (some (p, decision))

def conclude (r : Request) : Option (Proposal × BrokerDecision) → Proc (Brain ε) Exn Response
  | none => pure {
      text := "Understood, cancelled."
      outcome := "cancelled"
      degraded := degraded svc.text (providerChain svc.text lang.providers) }
  | some (p, decision) => (answer svc reg lang r p decision).run

/-- What follows the proposal. -/
private def respond (r : Request) (proposal : Option Proposal) : Proc (Brain ε) Exn Response :=
  (match proposal with
    | none => pure none
    | some p => decideOn svc reg lang r p >>= fun decision => pure (some (p, decision))) >>=
    conclude svc reg lang r

private theorem dispatch_run (r : Request) (p : Proposal) :
    (dispatch svc reg lang p.intent (lang.authorizer.resolve r.user) p.confirmed
      (degraded svc.text (providerChain svc.text lang.providers))).run =
      respond svc reg lang r (some p) := by
  unfold dispatch respond decideOn
  dsimp only
  rw [Coroutine.run_bind, Coroutine.run_atomically, bind_bind, bind_bind]
  refine bind_congr fun decision => ?_
  rw [Coroutine.run_bind, Coroutine.run_atomically, bind_bind]
  rfl

private theorem processFresh_run (r : Request) :
    (processFresh svc reg lang r (providerChain svc.text lang.providers)).run =
      proposeFresh svc lang r >>= respond svc reg lang r := by
  unfold processFresh proposeFresh
  dsimp only
  rw [Coroutine.run_bind, Coroutine.run_atomically, bind_bind]
  refine bind_congr fun intent => ?_
  rw [Coroutine.run_bind, Coroutine.run_atomically, bind_bind]
  refine bind_congr fun _ => ?_
  exact dispatch_run svc reg lang r ⟨intent, r.confirmed⟩

/-- A request is decided about first and concluded then. -/
theorem process_run (r : Request) :
    (process svc reg lang r).run = decided svc reg lang r >>= conclude svc reg lang r := by
  have split : decided svc reg lang r >>= conclude svc reg lang r =
      propose svc lang r >>= respond svc reg lang r := bind_bind _ _ _
  rw [split]
  unfold process propose
  cases r.pending with
  | none => exact processFresh_run svc reg lang r
  | some pending =>
    dsimp only
    split
    · exact dispatch_run svc reg lang r ⟨pending, true⟩
    split
    · rfl
    · exact processFresh_run svc reg lang r

/-! What has gone before a decision. -/

section

variable {svc reg lang} {r : Request} {m : Brain ε} {p : Proposal} {decision : BrokerDecision}

/-- A new proposal is what the chain generates, and counts as confirmed if the caller says so. -/
theorem proposeFresh_ok (proposed : (proposeFresh svc lang r m).1 = .ok (some p)) :
    generate svc.text r.text (providerChain svc.text lang.providers) = .ok p.intent ∧
      p.confirmed = r.confirmed := by
  unfold proposeFresh at proposed
  rcases generated : generate svc.text r.text (providerChain svc.text lang.providers) with e | intent
  · rw [bind_error (t := m) (e := e) (by rw [ofExcept_run, generated])] at proposed
    cases proposed
  rw [bind_ok (t := m) (a := intent) (by rw [ofExcept_run, generated])] at proposed
  rcases emitted : onRt (outside (svc.emit (commandRecord (lang.authorizer.resolve r.user) r.text
      intent))) m with ⟨e | _, m'⟩
  · rw [bind_error emitted] at proposed
    cases proposed
  · rw [bind_ok emitted] at proposed
    cases proposed
    exact ⟨rfl, rfl⟩

/-- A proposal counts as confirmed if the caller says so or confirms a pending intent. -/
theorem propose_confirmed (proposed : (propose svc lang r m).1 = .ok (some p)) (confirmed : p.confirmed = true) :
    r.confirmed = true ∨ (r.pending = some p.intent ∧ isAffirmative svc.text r.text = true) := by
  have fresh (proposed : (proposeFresh svc lang r m).1 = .ok (some p)) : r.confirmed = true :=
    (proposeFresh_ok proposed).2.symm.trans confirmed
  unfold propose at proposed
  cases asked : r.pending with
  | none =>
    rw [asked] at proposed
    exact .inl (fresh proposed)
  | some pending =>
    rw [asked] at proposed
    dsimp only at proposed
    split at proposed
    · next affirmed =>
      cases proposed
      exact .inr ⟨rfl, affirmed⟩
    split at proposed
    · cases proposed
    · exact .inl (fresh proposed)

/-- The decision about a proposal is the broker's. -/
theorem decideOn_validated (decides : (decideOn svc reg lang r p m).1 = .ok decision) :
    (validate svc reg p.intent (lang.authorizer.resolve r.user) p.confirmed m).1 = .ok decision := by
  unfold decideOn at decides
  rcases validation : validate svc reg p.intent (lang.authorizer.resolve r.user) p.confirmed m with
    ⟨e | decision', m'⟩
  · rw [bind_error validation] at decides
    cases decides
  · rw [bind_ok validation] at decides
    rcases emitted : onRt (outside (svc.emit (approvalRecord (lang.authorizer.resolve r.user)
        decision'))) m' with ⟨e | _, m''⟩
    · rw [bind_error emitted] at decides
      cases decides
    · rw [bind_ok emitted] at decides
      exact decides

theorem decided_ok (decides : (decided svc reg lang r m).1 = .ok (some (p, decision))) :
    (propose svc lang r m).1 = .ok (some p) ∧
      (decideOn svc reg lang r p (propose svc lang r m).2).1 = .ok decision := by
  unfold decided at decides
  rcases proposal : propose svc lang r m with ⟨e | _ | p', m'⟩
  · rw [bind_error proposal] at decides
    cases decides
  · rw [bind_ok proposal] at decides
    cases decides
  · rw [bind_ok proposal] at decides
    dsimp only at decides
    rcases run : decideOn svc reg lang r p' m' with ⟨e | decision', m''⟩
    · rw [bind_error run] at decides
      cases decides
    · rw [bind_ok run] at decides
      cases decides
      exact ⟨rfl, by rw [run]⟩

end

/-- The intent that a request gets approved, if it gets one approved. -/
def approvedIntent (r : Request) (m : Brain ε) : Option StructuredIntent :=
  match (decided svc reg lang r m).1 with
  | .ok (some (_, decision)) => if decision.outcome = .approved then some decision.intent else none
  | _ => none

variable {svc reg lang} {r : Request} {m : Brain ε}

/-- An approved intent is run where the decision has left the droid. -/
theorem process_approved {intent : StructuredIntent}
    (approved : approvedIntent svc reg lang r m = some intent) :
    ∃ p decision, (decided svc reg lang r m).1 = .ok (some (p, decision)) ∧
      decision.outcome = .approved ∧ decision.intent = intent ∧
      (process svc reg lang r).run m = (execute svc reg lang decision (lang.authorizer.resolve r.user)
        (degraded svc.text (providerChain svc.text lang.providers))).run (decided svc reg lang r m).2 := by
  unfold approvedIntent at approved
  rw [process_run]
  rcases run : decided svc reg lang r m with ⟨e | _ | ⟨p, decision⟩, m'⟩ <;> rw [run] at approved
  · cases approved
  · cases approved
  · dsimp only at approved
    split at approved
    · next outcome =>
      refine ⟨p, decision, rfl, outcome, Option.some.inj approved, ?_⟩
      rw [bind_ok run]
      change (answer svc reg lang r p decision).run m' = _
      unfold answer
      rw [outcome]
    · cases approved

/-- Wording the answer leaves the droid as the task has left it. -/
theorem execute_after (decision : BrokerDecision) (user : User) (degraded : Bool) (m : Brain ε) :
    ((execute svc reg lang decision user degraded).run m).2 =
      ((runIntent svc reg decision.intent user.name).run m).2 := by
  unfold execute
  rw [Coroutine.run_bind, Coroutine.run_attempt, attempt_bind]
  rcases (runIntent svc reg decision.intent user.name).run m with ⟨e | result, m'⟩
  · dsimp only
    split <;> rfl
  · dsimp only
    rw [Coroutine.run_bind, Coroutine.run_atomically]
    rcases lang.render result with e | text <;> rfl

/-- Otherwise nothing follows the decision. -/
theorem process_unapproved (refused : approvedIntent svc reg lang r m = none) :
    ((process svc reg lang r).run m).2 = (decided svc reg lang r m).2 := by
  unfold approvedIntent at refused
  rw [process_run]
  rcases run : decided svc reg lang r m with ⟨e | _ | ⟨p, decision⟩, m'⟩ <;> rw [run] at refused
  · rw [bind_error run]
  · rw [bind_ok run]
    rfl
  · rw [bind_ok run]
    dsimp only at refused
    change ((answer svc reg lang r p decision).run m').2 = m'
    unfold answer
    cases outcome : decision.outcome with
    | approved => simp [outcome] at refused
    | rejected => rfl
    | confirm => rfl

end DroidOs.Language.Dispatch
