/- GID: DroidOs/System/Replies
   generality: I
   source: src/droidos/language/providers.py, src/droidos/language/service.py
   digest: Exactly which replies of a language model are answered, and taken for what they may be. -/

import DroidOs.Language.Reply
import DroidOs.System.Serving

set_option autoImplicit false
set_option relaxedAutoImplicit false

namespace DroidOs.System.Replies

open DroidOs.Lib.Procedure DroidOs.Lib.Interleaving
open DroidOs.Lib.Json (Text)
open DroidOs.Core.Values DroidOs.Core.Context
open DroidOs.Backends.Simulation
open DroidOs.Services DroidOs.Services.Lifecycle DroidOs.Services.Inhibition
open DroidOs.Services.Supervisor (Brain hasSafety)
open DroidOs.Executive.Tools
open DroidOs.Language.Intent DroidOs.Language.OfflineParser DroidOs.Language.Conversation
open DroidOs.Language.FirstObject
open DroidOs.Language.Wording DroidOs.Language.Rendering DroidOs.Language.Reply
open Furnished Simulated Registration Serving

variable {s : Site} {reg : Registry (Runtime (SimWorld Stores))} {p : Personality} {authorizer : Authorizer}
  {number : Text → Option PyVal} {name : String} {content : Text} {before rest : List Provider} {r : Request}
  {m : Brain (SimWorld Stores)}

/-- The request asks something new. -/
def Fresh (text : PyText) (r : Request) : Prop :=
  ∀ intent, r.pending = some intent → isAffirmative text r.text = false ∧ isNegative text r.text = false

private theorem process_fresh (fresh : Fresh s.equipment.text r) (lang : LanguageService) :
    process (simulated (furnished s)) reg lang r =
      processFresh (simulated (furnished s)) reg lang r (providerChain s.equipment.text lang.providers) := by
  unfold process
  cases asked : r.pending with
  | none => rfl
  | some intent =>
    obtain ⟨yes, no⟩ := fresh intent asked
    have yes' : isAffirmative (simulated (furnished s)).text r.text = false := yes
    have no' : isNegative (simulated (furnished s)).text r.text = false := no
    simp only [yes', no']
    rfl

/-- The stores take no part in the readings of the assessment. -/
private theorem agree_store (w : SimWorld Stores) (st : Stores) :
    Agree (simulated (furnished s)) w { w with store := st } where
  battery := rfl
  actuators := rfl
  sensor := fun _ => rfl
  bus := by
    intro online has
    simp only [simulated] at has
    split at has
    · cases has
    · cases has
      rfl
  names := rfl

/-- A record in the log changes nothing that an intent needs. -/
private theorem logged (record : AuditRecord) (m : Brain (SimWorld Stores)) : ∃ m' : Brain (SimWorld Stores),
    onRt (outside ((simulated (furnished s)).emit record)) m = (.ok (), m') ∧
      ∀ user confirmed intent, Serves s user confirmed intent m' ↔ Serves s user confirmed intent m := by
  refine ⟨_, rfl, fun user confirmed intent => ?_⟩
  have agree := agree_store (s := s) m.rt.env ((furnished s).emit record m.rt.env.store)
  constructor
  · intro serves
    refine ⟨fun tool consulted => ?_, serves.battery, serves.place⟩
    obtain ⟨capability, readiness⟩ := serves.readable tool consulted
    exact ⟨capability, fun moves mobile sends => (readiness moves mobile sends).imp id agree.symm.answering⟩
  · intro serves
    refine ⟨fun tool consulted => ?_, serves.battery, serves.place⟩
    obtain ⟨capability, readiness⟩ := serves.readable tool consulted
    exact ⟨capability, fun moves mobile sends => (readiness moves mobile sends).imp id agree.answering⟩

/-! The language service with a model that replies. -/

/-- The providers before the model are passed over. -/
def speaking (s : Site) (p : Personality) (authorizer : Authorizer) (number : Text → Option PyVal) (name : String)
    (content : Text) (before rest : List Provider) : LanguageService :=
  worded s p authorizer (before ++ replying s.equipment.text number name content :: rest)

private theorem process_returns (safety : hasSafety reg = true) (sums : Summarizes s.equipment)
    (laws : s.equipment.text.Lawful) (fresh : Fresh s.equipment.text r) (passed : ∀ q ∈ before, PassedOver q r.text)
    {intent : StructuredIntent} {items : Items} (given : intent.arguments = .dict items)
    (parsed : parseIntent s.equipment.text number content r.text allowedNames = .ok intent) :
    (∃ response, ((process (simulated (furnished s)) reg (speaking s p authorizer number name content before rest)
      r).run m).1 = .ok response) ↔ Serves s (authorizer.resolve r.user) r.confirmed intent m := by
  have generated : generate s.equipment.text r.text (providerChain s.equipment.text
      (speaking s p authorizer number name content before rest).providers) = .ok intent :=
    (generate_chain passed rest).trans parsed
  obtain ⟨m', emitted, same⟩ := logged (s := s)
    (commandRecord ((speaking s p authorizer number name content before rest).authorizer.resolve r.user) r.text intent) m
  have proposed : (ofExcept (generate (simulated (furnished s)).text r.text (providerChain s.equipment.text
      (speaking s p authorizer number name content before rest).providers)) : Proc (Brain (SimWorld Stores)) Exn _) m =
        (.ok intent, m) := congrArg (fun r => (r, m)) generated
  rw [process_fresh fresh, ← same]
  unfold processFresh
  dsimp only
  rw [Coroutine.run_bind, Coroutine.run_atomically, bind_ok proposed, Coroutine.run_bind, Coroutine.run_atomically,
    bind_ok emitted]
  exact dispatch_returns_iff safety sums laws given r.confirmed _

/-! The claim. -/

variable (s reg p authorizer number name content before rest r m)

/-- The reply becomes an intent with a registered name and a mapping of arguments, or gives way to the parse of the
user's text, and the request is answered. -/
structure Handled : Prop where
  parsed : ∃ intent, parseIntent s.equipment.text number content r.text allowedNames = .ok intent ∧
    ((∃ tool, getTool intent.intent = some tool) ∧ (∃ items, intent.arguments = .dict items) ∨
      intent = fallback s.equipment.text r.text)
  answered : ∃ response, ((process (simulated (furnished s)) reg
    (speaking s p authorizer number name content before rest) r).run m).1 = .ok response

/-- The reply can be read, its arguments are a mapping or nothing, its confidence is a number, and what it leads to
can be served. -/
def Usable : Prop := ∃ found, firstObject number content = .ok found ∧
  match proposal found with
  | none => Serves s (authorizer.resolve r.user) r.confirmed (fallback s.equipment.text r.text) m
  | some (name, obj) => (∃ items, proposedArguments obj = .dict items) ∧
      ∃ confidence, s.equipment.text.float (saidConfidence obj) = .ok confidence ∧
        Serves s (authorizer.resolve r.user) r.confirmed (proposedIntent name obj r.text confidence) m

variable {s reg p authorizer number name content before rest r m}

theorem handled_iff (safety : hasSafety reg = true) (sums : Summarizes s.equipment)
    (laws : s.equipment.text.Lawful) (fresh : Fresh s.equipment.text r) (passed : ∀ q ∈ before, PassedOver q r.text) :
    Handled s reg p authorizer number name content before rest r m ↔ Usable s authorizer number content r m := by
  have answers {intent : StructuredIntent} {items : Items} (given : intent.arguments = .dict items)
      (parsed : parseIntent s.equipment.text number content r.text allowedNames = .ok intent) :=
    @process_returns s reg p authorizer number name content before rest r m safety sums laws fresh passed intent items
      given parsed
  rcases read : firstObject number content with e | found
  · refine iff_of_false (fun handled => ?_) fun ⟨found, same, _⟩ => by rw [read] at same; cases same
    obtain ⟨intent, parsed, -⟩ := handled.parsed
    rw [parseIntent_unread read] at parsed
    cases parsed
  rcases proposes : proposal found with _ | ⟨name', obj⟩
  · have parsed := @parseIntent_fallback s.equipment.text number content r.text found read proposes
    obtain ⟨items, given⟩ := @fallback_arguments s.equipment.text r.text
    rw [Usable, read]
    constructor
    · intro handled
      refine ⟨found, rfl, ?_⟩
      rw [proposes]
      exact (answers given parsed).mp handled.answered
    · rintro ⟨_, same, serves⟩
      cases same
      rw [proposes] at serves
      exact ⟨⟨_, parsed, .inr rfl⟩, (answers given parsed).mpr serves⟩
  · have parsed := @parseIntent_proposal s.equipment.text number content r.text found name' obj read proposes
    rw [Usable, read]
    constructor
    · intro handled
      refine ⟨found, rfl, ?_⟩
      rw [proposes]
      obtain ⟨intent, became, proper⟩ := handled.parsed
      rcases said : s.equipment.text.float (saidConfidence obj) with e | confidence
      · rw [parsed, said] at became
        cases became
      have own := parsed
      rw [said] at own
      cases became.symm.trans own
      rcases proper with ⟨-, items, given⟩ | other
      · exact ⟨⟨items, given⟩, confidence, said, (answers given own).mp handled.answered⟩
      · have source : "llm" = "llm-fallback" := congrArg StructuredIntent.source other
        exact absurd source (by decide)
    · rintro ⟨_, same, serves⟩
      cases same
      rw [proposes] at serves
      obtain ⟨⟨items, given⟩, confidence, said, serves⟩ := serves
      rw [said] at parsed
      exact ⟨⟨_, parsed, .inl ⟨proposal_registered proposes, items, given⟩⟩, (answers given parsed).mpr serves⟩

/-- The site with diagnostics that sum up what they collect. -/
def diagnosed (s : Site) (summed : SimulationBackend → Stores → Except Exn Diagnostics.Summary) : Site :=
  { s with equipment := { s.equipment with diagnose := fun b st => summaryItems <$> summed b st } }

theorem diagnosed_summarizes (s : Site) (summed : SimulationBackend → Stores → Except Exn Diagnostics.Summary) :
    Summarizes (diagnosed s summed).equipment := by
  intro b st items collected
  obtain ⟨summary, -, same⟩ := except_bind_ok (f := fun summary => Except.ok (summaryItems summary)) collected
  exact ⟨summary, (Except.ok.inj same).symm⟩

private def codes (l : List Char) : Text := Text.ofChars l

/-- `{"intent":"help"}`. -/
def helpful : Text :=
  codes ['{', '"', 'i', 'n', 't', 'e', 'n', 't', '"', ':', '"', 'h', 'e', 'l', 'p', '"', '}']

/-- `{"intent":"help","confidence":"high"}`. -/
def confident : Text :=
  codes ['{', '"', 'i', 'n', 't', 'e', 'n', 't', '"', ':', '"', 'h', 'e', 'l', 'p', '"', ',', '"', 'c', 'o', 'n',
    'f', 'i', 'd', 'e', 'n', 'c', 'e', '"', ':', '"', 'h', 'i', 'g', 'h', '"', '}']

private theorem intent_shown : shown (codes ['i', 'n', 't', 'e', 'n', 't']) = "intent" := by decide

private theorem help_shown : shown (codes ['h', 'e', 'l', 'p']) = "help" := by decide

theorem helpful_read : firstObject (fun _ => none) helpful = .ok (some (.dict [(.str "intent", .str "help")])) := by
  have found : firstJsonObject (fun _ => (none : Option PyVal)) helpful = .ok (some (.obj
    [(codes ['i', 'n', 't', 'e', 'n', 't'], .str (codes ['h', 'e', 'l', 'p']))])) := rfl
  unfold firstObject
  rw [found, ← intent_shown, ← help_shown]
  rfl

theorem confident_read : firstObject (fun _ => none) confident =
    .ok (some (.dict [(.str "intent", .str "help"), (.str "confidence", .str "high")])) := by
  have found : firstJsonObject (fun _ => (none : Option PyVal)) confident = .ok (some (.obj
    [(codes ['i', 'n', 't', 'e', 'n', 't'], .str (codes ['h', 'e', 'l', 'p'])),
      (codes ['c', 'o', 'n', 'f', 'i', 'd', 'e', 'n', 'c', 'e'], .str (codes ['h', 'i', 'g', 'h']))])) := rfl
  have confidence_shown : shown (codes ['c', 'o', 'n', 'f', 'i', 'd', 'e', 'n', 'c', 'e']) = "confidence" := by decide
  have high_shown : shown (codes ['h', 'i', 'g', 'h']) = "high" := by decide
  unfold firstObject
  rw [found, ← intent_shown, ← help_shown, ← confidence_shown, ← high_shown]
  rfl

/-- A question that the model answers for. -/
def question : Request := { text := "what can you do" }

private theorem question_fresh : Fresh PyText.ascii question := by
  intro intent pending
  cases pending

/-- A confidence that is no number makes the request raise. -/
theorem confident_raises : ¬ Handled (diagnosed wheeledSite fun _ _ => .ok ⟨"OK", 0, []⟩)
    (droidServices (simulated (furnished (diagnosed wheeledSite fun _ _ => .ok ⟨"OK", 0, []⟩)))) {} { users := [] }
    (fun _ => none) "model" confident [] [] question parked := by
  rintro ⟨⟨intent, parsed, -⟩, -⟩
  rw [parseIntent_proposal confident_read rfl] at parsed
  cases parsed

end DroidOs.System.Replies
