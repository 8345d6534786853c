/- GID: DroidOs/Language/Conversation
   generality: I
   source: src/droidos/language/service.py, src/droidos/language/providers.py
   digest: The provider chain and the processing of one request. -/

import DroidOs.Language.Broker
import DroidOs.Language.OfflineParser

set_option autoImplicit false
set_option relaxedAutoImplicit false

namespace DroidOs.Language.Conversation

open DroidOs.Lib.Procedure DroidOs.Lib.Interleaving
open DroidOs.Lib.Interleaving.Coroutine (atomically)
open DroidOs.Core.Values DroidOs.Core.States DroidOs.Core.Context
open DroidOs.Services.Lifecycle DroidOs.Services.Supervisor
open DroidOs.Executive.RunIntent
open Intent Broker OfflineParser

/-! Providers. -/

/-- An `LLMProvider`, as it behaves during one request. -/
structure Provider where
  name : String
  isOffline : Bool := false
  available : Except Exn Bool
  generate : String → Except Exn StructuredIntent

def offlineProvider (text : PyText) : Provider where
  name := "offline"
  isOffline := true
  available := .ok true
  generate := fun s => .ok { parse text s with source := "offline" }

/-- `ProviderChain.__init__`: an offline provider always ends the chain. -/
def providerChain (text : PyText) (providers : List Provider) : List Provider :=
  if providers.any Provider.isOffline then providers else providers ++ [offlineProvider text]

/-- `active`. -/
def active (text : PyText) (chain : List Provider) : Provider :=
  (chain.find? fun p => match p.available with
    | .ok available => available
    | .error _ => false).getD (offlineProvider text)

/-- `degraded`. -/
def degraded (text : PyText) (chain : List Provider) : Bool :=
  (active text chain).isOffline && decide (1 < chain.length)

/-- `generate_structured_intent`: the first provider that is available and does
not raise `ProviderError` decides. -/
def generate (text : PyText) (s : String) : List Provider → Except Exn StructuredIntent
  | [] => .ok { parse text s with source := "offline" }
  | p :: rest =>
    let answer := do
      if ← p.available then some <$> p.generate s else .ok none
    match answer with
    | .ok (some intent) => .ok intent
    | .ok none => generate text s rest
    | .error e => if e.cls = .providerError then generate text s rest else .error e

/-! The service. -/

/-- `refuse` and `render` only word the answer. -/
structure LanguageService where
  authorizer : Authorizer
  providers : List Provider
  refuse : String → String
  render : TaskResult → Except Exn String

structure Response where
  text : String
  outcome : String := "approved"
  needsConfirmation : Bool := false
  pending : Option StructuredIntent := none
  degraded : Bool := false
  decision : Option BrokerDecision := none

/-- The arguments of one call of `process`. -/
structure Request where
  text : String
  user : Option String := none
  confirmed : Bool := false
  pending : Option StructuredIntent := none

variable {ε : Type} (svc : Services ε) (reg : Registry (Runtime ε)) (lang : LanguageService)

def commandRecord (user : User) (s : String) (intent : StructuredIntent) : AuditRecord where
  kind := "command"
  user := some user.name
  requestText := some s
  intent := some intent.intent
  arguments := some intent.arguments
  detail := some [(.str "source", .str intent.source)]

def approvalRecord (user : User) (decision : BrokerDecision) : AuditRecord where
  kind := "approval"
  user := some user.name
  intent := some decision.intent.intent
  approval := some decision.outcome.value
  reason := some decision.reason

def unavailableText : String :=
  "My advanced language service is unavailable. Basic status, stop, cancel, " ++
    "return and shutdown commands remain available."

/-- An approved intent is run; a `DroidError` becomes an answer. -/
def execute (decision : BrokerDecision) (user : User) (degraded : Bool) :
    Coroutine (Brain ε) Exn Response := do
  match ← Coroutine.attempt (runIntent svc reg decision.intent user.name) with
  | .ok result =>
    let text ← atomically (ofExcept (lang.render result))
    let outcome := if result.ok then "approved" else "failed"
    return { text := text, outcome := outcome, degraded := degraded, decision := some decision }
  | .error e =>
    if e.cls.isDroidError then
      return { text := lang.refuse e.msg, outcome := "error", degraded := degraded }
    else atomically (raise e)

/-- `_dispatch`. -/
def dispatch (intent : StructuredIntent) (user : User) (confirmed degraded : Bool) :
    Coroutine (Brain ε) Exn Response := do
  let decision ← atomically (validate svc reg intent user confirmed)
  atomically (onRt (outside (svc.emit (approvalRecord user decision))))
  match decision.outcome with
  | .confirm => return {
      text := lang.refuse decision.confirmPrompt
      outcome := "confirmation_required"
      needsConfirmation := true
      pending := some intent
      degraded := degraded
      decision := some decision }
  | .rejected =>
    let text := if intent.intent = "unknown" ∧ degraded = true then unavailableText
      else lang.refuse decision.reason
    return { text := text, outcome := "rejected", degraded := degraded, decision := some decision }
  | .approved => execute svc reg lang decision user degraded

/-- A request that does not answer a pending confirmation. -/
def processFresh (r : Request) (chain : List Provider) : Coroutine (Brain ε) Exn Response := do
  let user := lang.authorizer.resolve r.user
  let intent ← atomically (ofExcept (generate svc.text r.text chain))
  atomically (onRt (outside (svc.emit (commandRecord user r.text intent))))
  dispatch svc reg lang intent user r.confirmed (degraded svc.text chain)

/-- `process`. -/
def process (r : Request) : Coroutine (Brain ε) Exn Response :=
  let chain := providerChain svc.text lang.providers
  let user := lang.authorizer.resolve r.user
  let degraded := degraded svc.text chain
  match r.pending with
  | none => processFresh svc reg lang r chain
  | some pending =>
    if isAffirmative svc.text r.text then dispatch svc reg lang pending user true degraded
    else if isNegative svc.text r.text then
      pure { text := "Understood, cancelled.", outcome := "cancelled", degraded := degraded }
    else processFresh svc reg lang r chain

end DroidOs.Language.Conversation
