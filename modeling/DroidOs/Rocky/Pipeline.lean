/- GID: DroidOs/Rocky/Pipeline
   generality: I
   source: rocky/rockyctl, rocky/policy.py, rocky/audit.py
   digest: For which proposed actions the handling returns and leaves a full record. -/

import DroidOs.Rocky.Audit
import DroidOs.Rocky.AutoRun

set_option autoImplicit false
set_option relaxedAutoImplicit false

namespace DroidOs.Rocky.Pipeline

open DroidOs.Lib.Procedure
open DroidOs.Core.Values
open Policy Executor AutoRun Audit

/-! A full record. -/

variable {σ : Type}

/-- The table of actions ends with the row of this action, and with this status. -/
def Settled (before after : Tables) (id status : String) : Prop :=
  ∃ row, after.actions = before.actions.map (ActionRow.restatus id status) ++ [row] ∧
    row.id = id ∧ row.status = status

/-- The log ends with an event of this type. -/
def Logged (before after : Tables) (eventType : String) : Prop :=
  ∃ row, after.auditLog = before.auditLog ++ [row] ∧ row.eventType = eventType

/-- What the tables and the machine show of a reply. -/
def Shows (before after : Desk σ) : Reply → Prop
  | .rejected _ => after.tables.actions = before.tables.actions ∧
      after.tables.toolCalls = before.tables.toolCalls ∧ after.executions = before.executions ∧
      Logged before.tables after.tables "schema_reject"
  | .denied _ id => Settled before.tables after.tables id "denied" ∧
      after.tables.toolCalls = before.tables.toolCalls ∧ after.executions = before.executions ∧
      Logged before.tables after.tables "decision"
  | .needsConfirmation _ id => Settled before.tables after.tables id "awaiting_confirmation" ∧
      after.tables.toolCalls = before.tables.toolCalls ∧ after.executions = before.executions ∧
      Logged before.tables after.tables "decision"
  | .ran result => Settled before.tables after.tables result.actionId (if result.ok then "succeeded" else "failed") ∧
      (∃ call, after.tables.toolCalls = before.tables.toolCalls ++ [call] ∧
        call.actionId = result.actionId ∧ call.toolName = result.kind ∧ call.exitCode = result.exitCode) ∧
      Logged before.tables after.tables "execute"

/-- The call returns, the tables end with its outcome, and at most one thing was executed,
after the action's row had been recorded. -/
structure Accounted (before : Desk σ) (call : Except Exn Reply × Desk σ) : Prop where
  returns : ∃ reply, call.1 = .ok reply ∧ Shows before call.2 reply
  once : call.2.executions = before.executions ∨
    ∃ x, call.2.executions = before.executions ++ [x] ∧
      ∃ row, x.recorded = before.tables.actions ++ [row] ∧ row.id = x.actionId

/-! The condition. -/

/-- `v or []` can be iterated over. -/
def iterable : PyVal → Bool
  | .list _ | .str _ | .dict _ => true
  | v => !v.truthy

/-- The action is typed as the schema asks, with this risk and this payload. -/
structure Typed (items : List (PyVal × PyVal)) (risk : String) (payload : List (PyVal × PyVal)) : Prop where
  type : Has (.dict items) "type" "action"
  kind : ∃ kind ∈ validKinds, Has (.dict items) "kind" kind
  valid : risk ∈ validRisks
  risk : Has (.dict items) "risk" risk
  payload : (PyVal.lookup "payload" items).getD (.dict []) = .dict payload

/-- The stated kind and risk are no lists or mappings, and the arguments of a typed action,
unless its risk is `forbidden`, can be iterated over. -/
structure Legible (items : List (PyVal × PyVal)) : Prop where
  kind : ((PyVal.lookup "kind" items).getD .none).hashable = true
  risk : ((PyVal.lookup "risk" items).getD .none).hashable = true
  args : ∀ risk payload, Typed items risk payload → risk ≠ "forbidden" →
    iterable ((PyVal.lookup "args" payload).getD (.list [])) = true

/-- The two configuration files have the shape that the policy reads: a mapping of
capabilities to mappings, and lists of texts. -/
structure WellFormed (config : Config) : Prop where
  capabilities : ∃ items, config.capabilities = .dict items ∧
    ∀ item ∈ items, item.2 = .none ∨ isDict item.2 = true
  lists : ∀ key ∈ ["forbidden_patterns", "debian_read_only_commands", "dangerous_commands"],
    ∃ words : List String, entries config.registry key = .ok (words.map PyVal.str)

/-! What the policy asks the configuration always has an answer. -/

variable {text : PyText} {config : Config}

private theorem listed_returns (formed : WellFormed config) (key : String)
    (read : key ∈ ["forbidden_patterns", "debian_read_only_commands", "dangerous_commands"]) (base : String) :
    ∃ found, listed config.registry key base = .ok found := by
  obtain ⟨words, entries⟩ := formed.lists key read
  have plain : (words.map PyVal.str).all PyVal.hashable = true := by simp [PyVal.hashable]
  exact ⟨_, by simp only [listed, entries, bind, Except.bind, plain, if_true]; rfl⟩

private theorem firstPattern_returns (haystack : String) (words : List String) :
    ∃ found, firstPattern haystack (words.map PyVal.str) = .ok found := by
  induction words with
  | nil => exact ⟨none, rfl⟩
  | cons word words ih =>
    simp only [List.map_cons, firstPattern]
    split
    · exact ih
    · split
      · exact ⟨_, rfl⟩
      · exact ih

private theorem lookup_mem {key : String} {items : List (PyVal × PyVal)} {v : PyVal}
    (found : PyVal.lookup key items = some v) : ∃ item ∈ items, item.2 = v := by
  obtain ⟨item, first, rfl⟩ := Option.map_eq_some_iff.mp found
  exact ⟨item, List.mem_of_find?_eq_some first, rfl⟩

private theorem enabled_returns (formed : WellFormed config) (name : String) :
    ∃ on, enabled config.capabilities name = .ok on := by
  obtain ⟨items, mapping, switches⟩ := formed.capabilities
  have shape : ∀ cap, (PyVal.lookup name items).getD .none = cap → cap = .none ∨ isDict cap = true := by
    rintro cap rfl
    cases found : PyVal.lookup name items with
    | none => exact .inl rfl
    | some v =>
      obtain ⟨item, member, rfl⟩ := lookup_mem found
      exact switches item member
  simp only [enabled, mapping, PyVal.get, bind, Except.bind]
  rcases shape _ rfl with absent | mapped
  · rw [absent]
    exact ⟨_, rfl⟩
  · cases cap : (PyVal.lookup name items).getD .none with
    | dict switch => exact ⟨_, rfl⟩
    | none => exact ⟨_, rfl⟩
    | _ =>
      rw [cap] at mapped
      cases mapped

variable (text) in
private theorem requiredCapability_returns (formed : WellFormed config) (kind : String) (risk : PyVal)
    (payload : List (PyVal × PyVal)) :
    ∃ needs, requiredCapability text (.str kind) risk (.dict payload) config.registry = .ok needs := by
  obtain ⟨allow, listed⟩ := listed_returns formed "debian_read_only_commands" (by simp)
    (text.strip (strOf text ((PyVal.lookup "command" payload).getD (.str ""))))
  unfold requiredCapability
  split
  · have base : baseOf text (.dict payload) =
      .ok (text.strip (strOf text ((PyVal.lookup "command" payload).getD (.str "")))) := rfl
    simp only [base, listed, bind, Except.bind, pure, Except.pure]
    split
    · exact ⟨_, rfl⟩
    split
    · exact ⟨_, rfl⟩
    · exact ⟨_, rfl⟩
  · split
    · exact ⟨_, rfl⟩
    · exact ⟨_, rfl⟩

variable (text) in
private theorem missingCapability_returns (formed : WellFormed config) (kind : String) (risk : PyVal)
    (payload : List (PyVal × PyVal)) :
    ∃ gap, missingCapability text config (.str kind) risk (.dict payload) = .ok gap := by
  obtain ⟨needs, required⟩ := requiredCapability_returns text formed kind risk payload
  unfold missingCapability
  rw [required]
  cases needs with
  | none => exact ⟨_, rfl⟩
  | some name =>
    obtain ⟨on, switched⟩ := enabled_returns formed name
    simp only [switched, bind, Except.bind]
    exact ⟨_, rfl⟩

variable (text) in
private theorem decideCommand_returns (formed : WellFormed config) (risk : PyVal)
    (payload : List (PyVal × PyVal)) :
    ∃ verdict, decideCommand text config risk (.dict payload) = .ok verdict := by
  have base : baseOf text (.dict payload) =
    .ok (text.strip (strOf text ((PyVal.lookup "command" payload).getD (.str "")))) := rfl
  obtain ⟨allow, allowed⟩ := listed_returns formed "debian_read_only_commands" (by simp)
    (text.strip (strOf text ((PyVal.lookup "command" payload).getD (.str ""))))
  obtain ⟨danger, dangerous⟩ := listed_returns formed "dangerous_commands" (by simp)
    (text.strip (strOf text ((PyVal.lookup "command" payload).getD (.str ""))))
  unfold decideCommand
  simp only [base, allowed, dangerous, bind, Except.bind, pure, Except.pure]
  repeat' split
  all_goals exact ⟨_, rfl⟩

/-! When the policy decides. -/

variable {items payload : List (PyVal × PyVal)} {risk : String}

/-- What can be iterated over is what `list` takes, once `[]` stands for what is falsy. -/
theorem iterable_iff (v : PyVal) : iterable v = true ↔ ∃ xs, (v.orElse (.list [])).toList = .ok xs := by
  cases truth : v.truthy with
  | false =>
    have empty : v.orElse (.list []) = .list [] := by simp [PyVal.orElse, truth]
    rw [empty]
    refine iff_of_true ?_ ⟨[], rfl⟩
    cases v <;> simp_all [iterable]
  | true =>
    have itself : v.orElse (.list []) = v := by simp [PyVal.orElse, truth]
    rw [itself]
    cases v <;> simp_all [iterable, PyVal.toList]

private theorem payloadOf_typed (typed : Typed items risk payload) :
    payloadOf (.dict items) = .ok (.dict payload) := by
  have either : (PyVal.dict payload).orElse (.dict []) = .dict payload := by
    cases payload <;> rfl
  show Except.ok (((PyVal.lookup "payload" items).getD (.dict [])).orElse (.dict [])) = _
  rw [typed.payload, either]

variable (text) in
private theorem commandString_returns_iff (typed : Typed items risk payload) :
    (∃ command, commandString text (.dict items) = .ok command) ↔
      iterable ((PyVal.lookup "args" payload).getD (.list [])) = true := by
  have args : argsOf text (.dict payload) = (((PyVal.lookup "args" payload).getD (.list [])).orElse
    (.list [])).toList >>= fun args => .ok (args.map (strOf text)) := rfl
  rw [iterable_iff]
  unfold commandString
  simp only [payloadOf_typed typed, args, PyVal.get, bind, Except.bind, pure, Except.pure]
  rcases (((PyVal.lookup "args" payload).getD (.list [])).orElse (.list [])).toList with e | xs
  · exact iff_of_false (by simp) (by simp)
  · exact iff_of_true ⟨_, rfl⟩ ⟨_, rfl⟩

variable (text) in
private theorem forbiddenPattern_returns_iff (formed : WellFormed config) (typed : Typed items risk payload) :
    (∃ found, forbiddenPattern text config.registry (.dict items) = .ok found) ↔
      iterable ((PyVal.lookup "args" payload).getD (.list [])) = true := by
  rw [← commandString_returns_iff text typed]
  obtain ⟨words, patterns⟩ := formed.lists "forbidden_patterns" (by simp)
  unfold forbiddenPattern
  simp only [payloadOf_typed typed, patterns, PyVal.get, bind, Except.bind]
  rcases commandString text (.dict items) with e | command
  · exact iff_of_false (by simp) (by simp)
  · exact iff_of_true (firstPattern_returns _ words) ⟨_, rfl⟩

/-- The policy decides about a typed action exactly if its risk is `forbidden` or its
arguments can be iterated over. -/
theorem decides_iff (formed : WellFormed config) (typed : Typed items risk payload) :
    (∃ verdict, Policy.decide text config (.dict items) = .ok verdict) ↔
      risk = "forbidden" ∨ iterable ((PyVal.lookup "args" payload).getD (.list [])) = true := by
  obtain ⟨kind, -, kinded⟩ := typed.kind
  have hpayload := payloadOf_typed typed
  have hkind := kinded.get (.str "")
  have hrisk := typed.risk.get (.str "")
  rw [decide_eq text config (.dict items) hkind hrisk hpayload]
  by_cases forbidden : risk = "forbidden"
  · subst forbidden
    exact iff_of_true ⟨_, rfl⟩ (.inl rfl)
  rw [if_neg (by simpa [PyVal.isKey] using forbidden), or_iff_right forbidden,
    ← forbiddenPattern_returns_iff text formed typed]
  have gap : capabilityGap text config (.dict items) =
      missingCapability text config (.str kind) (.str risk) (.dict payload) := by
    simp only [capabilityGap, hkind, hrisk, hpayload, bind, Except.bind]
  obtain ⟨missing, found⟩ := missingCapability_returns text formed kind (.str risk) payload
  obtain ⟨verdict, command⟩ := decideCommand_returns text formed (.str risk) payload
  rw [gap, found]
  rcases forbiddenPattern text config.registry (.dict items) with e | pattern
  · exact iff_of_false (by simp [bind, Except.bind]) (by simp)
  refine iff_of_true ?_ ⟨_, rfl⟩
  cases pattern with
  | some pattern => exact ⟨_, rfl⟩
  | none =>
    cases missing with
    | some name => exact ⟨_, rfl⟩
    | none =>
      show ∃ v, (if (PyVal.str kind).isKey "debian.command" then _ else _) = _
      split
      · exact ⟨verdict, command⟩
      · exact ⟨_, rfl⟩

/-! What the schema check finds. -/

private theorem memberOf_hashable (names : List String) {v : PyVal} (hashable : v.hashable = true) :
    memberOf names v = .ok (names.any fun name => v.isKey name) := if_pos hashable

private theorem memberOf_unhashable (names : List String) {v : PyVal} (unhashable : v.hashable = false) :
    ∃ e, memberOf names v = .error e := ⟨_, if_neg (by rw [unhashable]; decide)⟩

/-- What the schema check makes of an action whose kind and risk are no lists or mappings. -/
private theorem validate_eq (kind : ((PyVal.lookup "kind" items).getD .none).hashable = true)
    (risk : ((PyVal.lookup "risk" items).getD .none).hashable = true) :
    ∃ typeError kindError riskError payloadError : String, validateAction (.dict items) = .ok (
      (if ((PyVal.lookup "type" items).getD .none).isKey "action" then [] else [typeError]) ++
      (if validKinds.any fun name => ((PyVal.lookup "kind" items).getD .none).isKey name then []
        else [kindError]) ++
      (if validRisks.any fun name => ((PyVal.lookup "risk" items).getD .none).isKey name then []
        else [riskError]) ++
      (if isDict ((PyVal.lookup "payload" items).getD (.dict [])) then [] else [payloadError])) := by
  unfold validateAction
  simp only [isDict, PyVal.get, bind, Except.bind, Bool.not_true, Bool.false_eq_true, if_false,
    memberOf_hashable validKinds kind, memberOf_hashable validRisks risk]
  exact ⟨_, _, _, _, rfl⟩

/-- The schema check returns exactly if the stated kind and risk are no lists or mappings. -/
theorem validates_iff : (∃ errors, validateAction (.dict items) = .ok errors) ↔
    ((PyVal.lookup "kind" items).getD .none).hashable = true ∧
      ((PyVal.lookup "risk" items).getD .none).hashable = true := by
  constructor
  · rintro ⟨errors, returned⟩
    simp only [validateAction, isDict, PyVal.get, bind, Except.bind, Bool.not_true, Bool.false_eq_true,
      if_false] at returned
    cases kind : ((PyVal.lookup "kind" items).getD .none).hashable with
    | false =>
      obtain ⟨e, raised⟩ := memberOf_unhashable validKinds kind
      rw [raised] at returned
      cases returned
    | true =>
      rw [memberOf_hashable validKinds kind] at returned
      cases risk : ((PyVal.lookup "risk" items).getD .none).hashable with
      | false =>
        obtain ⟨e, raised⟩ := memberOf_unhashable validRisks risk
        simp only [raised] at returned
        cases returned
      | true => exact ⟨rfl, rfl⟩
  · rintro ⟨kind, risk⟩
    obtain ⟨_, _, _, _, returned⟩ := validate_eq kind risk
    exact ⟨_, returned⟩

private theorem has_iff {key value : String} :
    Has (.dict items) key value ↔ ((PyVal.lookup key items).getD .none).isKey value = true := by
  constructor
  · intro has
    rw [Except.ok.inj has]
    simp [PyVal.isKey]
  · exact Has.of_get rfl (fun _ => .inl (by simp))

private theorem has_hashable {key value : String} (has : Has (.dict items) key value) :
    ((PyVal.lookup key items).getD .none).hashable = true := by
  rw [Except.ok.inj has]
  rfl

/-- A typed action is one in which the schema check finds nothing. -/
theorem typed_iff : validateAction (.dict items) = .ok [] ↔ ∃ risk payload, Typed items risk payload := by
  constructor
  · intro accepted
    obtain ⟨kind, risk⟩ := validates_iff.mp ⟨[], accepted⟩
    obtain ⟨typeError, kindError, riskError, payloadError, errors⟩ := validate_eq kind risk
    rw [errors] at accepted
    have none := Except.ok.inj accepted
    simp only [List.append_eq_nil_iff, ite_eq_left_iff, List.cons_ne_nil, imp_false, not_not,
      List.any_eq_true] at none
    obtain ⟨⟨⟨type, kind, listed, is⟩, risk, valid, labelled⟩, mapping⟩ := none
    cases payload : (PyVal.lookup "payload" items).getD (.dict []) with
    | dict payload' =>
      exact ⟨risk, payload', has_iff.mpr type, ⟨kind, listed, has_iff.mpr is⟩, valid, has_iff.mpr labelled,
        payload⟩
    | _ =>
      rw [payload] at mapping
      cases mapping
  · rintro ⟨risk, payload, typed⟩
    obtain ⟨kind, listed, is⟩ := typed.kind
    obtain ⟨_, _, _, _, errors⟩ := validate_eq (has_hashable is) (has_hashable typed.risk)
    rw [errors, if_pos (has_iff.mp typed.type), if_pos (List.any_eq_true.mpr ⟨kind, listed, has_iff.mp is⟩),
      if_pos (List.any_eq_true.mpr ⟨risk, typed.valid, has_iff.mp typed.risk⟩), typed.payload]
    rfl

/-! What is recorded. -/

variable {hex : Nat → String} {machine : Machine σ} {assumeYes : Bool} {action : PyVal}

private theorem startResult_names (id : String) (kind : PyVal) (argv : List String)
    (ended : Except Exn (Int × String × String)) :
    (startResult id kind argv ended).actionId = id ∧ (startResult id kind argv ended).kind = kind := by
  unfold startResult
  repeat' split
  all_goals exact ⟨rfl, rfl⟩

private theorem actResult_names (id : String) (kind : PyVal) (ended : Except Exn PyVal) :
    (actResult id kind ended).actionId = id ∧ (actResult id kind ended).kind = kind := by
  cases ended <;> exact ⟨rfl, rfl⟩

/-- A run is reported under its action's identifier, leaves the tables, and executes at
most one thing, seeing the rows recorded so far. -/
theorem perform_spec (kind : PyVal) (id : String) (s : Desk σ) :
    ∃ result s', perform text machine action kind id s = (.ok result, s') ∧
      result.actionId = id ∧ result.kind = kind ∧ s'.tables = s.tables ∧
      (s'.executions = s.executions ∨ ∃ x, s'.executions = s.executions ++ [x] ∧
        x.recorded = s.tables.actions ∧ x.actionId = id) := by
  unfold perform
  cases Executor.run text action with
  | fail error => exact ⟨_, _, rfl, rfl, rfl, rfl, .inl rfl⟩
  | start argv =>
    have names := startResult_names id kind argv (machine.start action argv s.world).1
    exact ⟨_, _, rfl, names.1, names.2, rfl, .inr ⟨_, rfl, rfl, rfl⟩⟩
  | _ => exact ⟨_, _, rfl, (actResult_names id kind _).1, (actResult_names id kind _).2, rfl,
      .inr ⟨_, rfl, rfl, rfl⟩⟩

/-- The row of an action follows the rows that were there, and its status is set. -/
private theorem settled_row (before : List ActionRow) {row : ActionRow} {id : String} (own : row.id = id)
    (status : String) : ∃ row', (before ++ [row]).map (ActionRow.restatus id status) =
      before.map (ActionRow.restatus id status) ++ [row'] ∧ row'.id = id ∧ row'.status = status := by
  refine ⟨row.restatus id status, by simp, ?_, ?_⟩
  · simp [ActionRow.restatus, own]
  · simp [ActionRow.restatus, own]

/-- Recording an action adds its row. -/
private theorem recordAction_spec (items : List (PyVal × PyVal)) (verdict : Verdict) (s : Desk σ) :
    ∃ id row s', recordAction hex (.dict items) verdict s = (.ok id, s') ∧ row.id = id ∧
      s'.tables.actions = s.tables.actions ++ [row] ∧ s'.tables.toolCalls = s.tables.toolCalls ∧
      s'.tables.auditLog = s.tables.auditLog ∧ s'.executions = s.executions :=
  ⟨_, ⟨_, _, _, _, _, _, _, _⟩, _, rfl, rfl, rfl, rfl, rfl, rfl⟩

/-- An event is added to the log, and nothing else changes. -/
private theorem log_spec (hex : Nat → String) (eventType actor message : String) (data : List (PyVal × PyVal))
    (s : Desk σ) :
    ∃ row s', log hex eventType actor message data s = (.ok (), s') ∧ row.eventType = eventType ∧
      s'.tables.auditLog = s.tables.auditLog ++ [row] ∧ s'.tables.actions = s.tables.actions ∧
      s'.tables.toolCalls = s.tables.toolCalls ∧ s'.executions = s.executions :=
  ⟨⟨_, eventType, actor, message, .dict data⟩, _, rfl, rfl, rfl, rfl, rfl, rfl⟩

private theorem recordToolCall_spec (hex : Nat → String) (id : String) (toolName input : PyVal) (result : Result)
    (s : Desk σ) :
    ∃ call s', recordToolCall hex id toolName input result s = (.ok (), s') ∧ call.actionId = id ∧
      call.toolName = toolName ∧ call.exitCode = result.exitCode ∧
      s'.tables.toolCalls = s.tables.toolCalls ++ [call] ∧ s'.tables.actions = s.tables.actions ∧
      s'.tables.auditLog = s.tables.auditLog ∧ s'.executions = s.executions :=
  ⟨⟨_, id, toolName, input, _, result.exitCode⟩, _, rfl, rfl, rfl, rfl, rfl, rfl, rfl, rfl⟩

private theorem updateActionStatus_spec (id status : String) (s : Desk σ) :
    ∃ s', updateActionStatus id status s = (.ok (), s') ∧
      s'.tables.actions = s.tables.actions.map (ActionRow.restatus id status) ∧
      s'.tables.toolCalls = s.tables.toolCalls ∧ s'.tables.auditLog = s.tables.auditLog ∧
      s'.executions = s.executions :=
  ⟨_, rfl, rfl, rfl, rfl, rfl⟩

/-- An action that is carried out leaves its row, a tool call and an event. -/
private theorem carryOut_spec (typed : Typed items risk payload) {s₀ s : Desk σ} {row : ActionRow}
    (actions : s.tables.actions = s₀.tables.actions ++ [row])
    (toolCalls : s.tables.toolCalls = s₀.tables.toolCalls)
    (auditLog : s.tables.auditLog = s₀.tables.auditLog) (executions : s.executions = s₀.executions) :
    Accounted s₀ (carryOut text hex machine (.dict items) row.id s) := by
  obtain ⟨kind, -, kinded⟩ := typed.kind
  obtain ⟨result, s', performed, owner, named, tables, executed⟩ :=
    @perform_spec σ text machine (.dict items) (.str kind) row.id s
  obtain ⟨row', rows, own, status⟩ := settled_row s₀.tables.actions (Eq.refl row.id)
    (if result.ok then "succeeded" else "failed")
  have first : ofExcept ((PyVal.dict items).get "kind" (.str "")) s = (.ok (.str kind), s) := by
    rw [kinded.get (.str "")]
    rfl
  have second : ofExcept ((PyVal.dict items).get "payload" (.dict [])) s' = (.ok (.dict payload), s') := by
    rw [← typed.payload]
    rfl
  obtain ⟨call, s₁, called, callOwner, callName, callCode, calls₁, actions₁, log₁, executions₁⟩ :=
    recordToolCall_spec hex row.id (.str kind) (.dict payload) result s'
  obtain ⟨s₂, updated, actions₂, calls₂, log₂, executions₂⟩ :=
    updateActionStatus_spec row.id (if result.ok then "succeeded" else "failed") s₁
  obtain ⟨entry, s₃, logged, type, log₃, actions₃, calls₃, executions₃⟩ := log_spec hex "execute" "executor"
    (strOf text (.str kind) ++ " exit=" ++ toString result.exitCode)
    [(.str "action_id", .str row.id), (.str "ok", .bool result.ok)] s₂
  unfold carryOut
  rw [bind_ok first, bind_ok performed, bind_ok second, bind_ok called, bind_ok updated, bind_ok logged]
  refine ⟨⟨.ran result, rfl, ⟨row', ?_, own.trans owner.symm, status⟩, ⟨call, ?_, callOwner.trans owner.symm,
    callName.trans named.symm, callCode⟩, ⟨entry, ?_, type⟩⟩, ?_⟩
  · rw [pure_run, actions₃, actions₂, actions₁, tables, actions, owner, rows]
  · rw [pure_run, calls₃, calls₂, calls₁, tables, toolCalls]
  · rw [pure_run, log₃, log₂, log₁, tables, auditLog]
  · rw [pure_run, executions₃, executions₂, executions₁]
    rcases executed with none | ⟨x, one, recorded, id⟩
    · exact .inl (none.trans executions)
    · exact .inr ⟨x, by rw [one, executions], row, by rw [recorded, actions], id.symm⟩

/-- Every verdict about a typed action leads to a full record. -/
private theorem accounted_typed (typed : Typed items risk payload) {verdict : Verdict}
    (decided : Policy.decide text config (.dict items) = .ok verdict) (s : Desk σ) :
    Accounted s (Audit.handleAction text hex config machine assumeYes (.dict items) s) := by
  have accepted : validateAction (.dict items) = .ok [] := typed_iff.mpr ⟨risk, payload, typed⟩
  obtain ⟨id, row, s', recorded, rfl, actions, toolCalls, auditLog, executions⟩ :=
    @recordAction_spec σ hex items verdict s
  have refused (status reason : String) (reply : Reply)
      (shows : ∀ after : Desk σ, Settled s.tables after.tables row.id status →
        after.tables.toolCalls = s.tables.toolCalls → after.executions = s.executions →
        Logged s.tables after.tables "decision" → Shows s after reply) :
      Accounted s ((do
        updateActionStatus row.id status
        log hex "decision" "policy" reason [(.str "action_id", .str row.id)]
        return reply) s') := by
    obtain ⟨row', rows, own, settled⟩ := settled_row s.tables.actions (Eq.refl row.id) status
    obtain ⟨s₁, updated, actions₁, calls₁, log₁, executions₁⟩ := updateActionStatus_spec row.id status s'
    obtain ⟨entry, s₂, logged, type, log₂, actions₂, calls₂, executions₂⟩ := log_spec hex "decision" "policy"
      reason [(.str "action_id", .str row.id)] s₁
    have same : s₂.executions = s.executions := by rw [executions₂, executions₁, executions]
    rw [bind_ok updated, bind_ok logged]
    refine ⟨⟨reply, rfl, shows s₂ ⟨row', ?_, own, settled⟩ ?_ same ⟨entry, ?_, type⟩⟩, .inl same⟩
    · rw [actions₂, actions₁, actions, rows]
    · rw [calls₂, calls₁, toolCalls]
    · rw [log₂, log₁, auditLog]
  have carried := @carryOut_spec σ text items payload risk hex machine typed s s' row actions toolCalls
    auditLog executions
  unfold Audit.handleAction
  rw [bind_ok (show ofExcept (validateAction _) s = (.ok [], s) by rw [accepted]; rfl)]
  show Accounted s ((ofExcept _ >>= _) s)
  rw [bind_ok (show ofExcept (Policy.decide text config _) s = (.ok verdict, s) by rw [decided]; rfl),
    bind_ok recorded]
  cases verdict.decision with
  | allow => exact carried
  | deny => exact refused "denied" _ _ fun _ settled calls executed logged => ⟨settled, calls, executed, logged⟩
  | askUser =>
    cases assumeYes with
    | true => exact carried
    | false =>
      exact refused "awaiting_confirmation" _ _ fun _ settled calls executed logged =>
        ⟨settled, calls, executed, logged⟩

/-- The handling of an action returns and leaves a full record exactly if the action is no
mapping or a legible one. -/
theorem accounted_iff (formed : WellFormed config) (hex : Nat → String) (machine : Machine σ) (assumeYes : Bool)
    (action : PyVal) (s : Desk σ) :
    Accounted s (Audit.handleAction text hex config machine assumeYes action s) ↔
      ∀ items, action = .dict items → Legible items := by
  constructor
  · rintro ⟨⟨reply, returned, -⟩, -⟩ items rfl
    rcases validated : validateAction (.dict items) with e | errors
    · have raised : (Audit.handleAction text hex config machine assumeYes (.dict items) s).1 = .error e := by
        unfold Audit.handleAction
        rw [bind_error (show ofExcept (validateAction _) s = (.error e, s) by rw [validated]; rfl)]
      rw [raised] at returned
      cases returned
    obtain ⟨kind, risk⟩ := validates_iff.mp ⟨errors, validated⟩
    refine ⟨kind, risk, fun risk payload typed permitted => ?_⟩
    by_contra args
    rcases decided : Policy.decide text config (.dict items) with e | verdict
    · have accepted : validateAction (.dict items) = .ok [] := typed_iff.mpr ⟨risk, payload, typed⟩
      have raised : (Audit.handleAction text hex config machine assumeYes (.dict items) s).1 = .error e := by
        unfold Audit.handleAction
        rw [bind_ok (show ofExcept (validateAction _) s = (.ok [], s) by rw [accepted]; rfl)]
        show ((ofExcept _ >>= _) s).1 = _
        rw [bind_error (show ofExcept (Policy.decide text config _) s = (.error e, s) by rw [decided]; rfl)]
      rw [raised] at returned
      cases returned
    · rcases (decides_iff formed typed).mp ⟨verdict, decided⟩ with forbidden | iterates
      · exact permitted forbidden
      · exact args iterates
  · intro legible
    have rejected {error : String} {errors : List String} (found : validateAction action = .ok (error :: errors)) :
        Accounted s (Audit.handleAction text hex config machine assumeYes action s) := by
      unfold Audit.handleAction
      rw [bind_ok (show ofExcept (validateAction _) s = (.ok (error :: errors), s) by rw [found]; rfl)]
      exact ⟨⟨_, rfl, rfl, rfl, rfl, ⟨⟨_, _, _, _, _⟩, rfl, rfl⟩⟩, .inl rfl⟩
    cases action with
    | dict items =>
      obtain ⟨kind, risk, args⟩ := legible items rfl
      obtain ⟨errors, validated⟩ := validates_iff.mpr ⟨kind, risk⟩
      cases errors with
      | cons error errors => exact rejected validated
      | nil =>
        obtain ⟨risk, payload, typed⟩ := typed_iff.mp validated
        have permitted : risk = "forbidden" ∨ iterable ((PyVal.lookup "args" payload).getD (.list [])) = true := by
          by_cases forbidden : risk = "forbidden"
          · exact .inl forbidden
          · exact .inr (args risk payload typed forbidden)
        obtain ⟨verdict, decided⟩ := (@decides_iff text config items payload risk formed typed).mpr permitted
        exact accounted_typed typed decided s
    | _ => exact rejected rfl

private theorem shipped_wellFormed : WellFormed shipped where
  capabilities := by
    refine ⟨_, rfl, fun item member => .inr ?_⟩
    exact List.all_eq_true.mp (show List.all _ (fun item => isDict item.2) = true from rfl) item member
  lists := by
    intro key listed
    simp only [List.mem_cons, List.not_mem_nil, or_false] at listed
    rcases listed with rfl | rfl | rfl
    all_goals exact ⟨_, rfl⟩

/-- A machine on which every program succeeds. -/
def quietMachine : Machine Unit where
  start := fun _ _ s => (.ok (0, "", ""), s)
  act := fun _ _ s => (.ok (.str ""), s)

/-- Nothing is recorded yet. -/
def emptyDesk : Desk Unit := { tables := {}, world := () }

/-- An action that asks for a command, with these arguments. -/
def uptimeWith (args : PyVal) : List (PyVal × PyVal) :=
  [(.str "type", .str "action"), (.str "kind", .str "debian.command"), (.str "risk", .str "read_only"),
    (.str "payload", .dict [(.str "command", .str "uptime"), (.str "args", args)])]

theorem accounted_uptime :
    Accounted emptyDesk (Audit.handleAction .ascii toString shipped quietMachine false
      (.dict (uptimeWith (.list []))) emptyDesk) ↔
      ∀ items, PyVal.dict (uptimeWith (.list [])) = .dict items → Legible items :=
  accounted_iff shipped_wellFormed toString quietMachine false _ emptyDesk

/-- With a number as the arguments, or a list as the kind, the handling raises and leaves
no trace in the tables. -/
theorem illegible_unrecorded :
    (¬ Accounted emptyDesk (Audit.handleAction .ascii toString shipped quietMachine false
      (.dict (uptimeWith (.int 5))) emptyDesk)) ∧
    (Audit.handleAction .ascii toString shipped quietMachine false (.dict (uptimeWith (.int 5))) emptyDesk) =
      (.error ⟨.typeError, "object is not iterable"⟩, emptyDesk) ∧
    (Audit.handleAction .ascii toString shipped quietMachine false
      (.dict [(.str "type", .str "action"), (.str "kind", .list [])]) emptyDesk) =
      (.error ⟨.typeError, "unhashable type"⟩, emptyDesk) := by
  refine ⟨?_, rfl, rfl⟩
  rintro ⟨⟨reply, returned, -⟩, -⟩
  cases returned

/-! The handling without its records. -/

/-- A reply, with the effect of the action in place of its result. -/
def handled (effect : Effect) : Reply → Handled
  | .rejected errors => .rejected errors
  | .denied reason _ => .denied reason
  | .needsConfirmation reason _ => .needsConfirmation reason
  | .ran _ => .ran effect

/-- What is recorded does not change what is answered. -/
theorem handled_eq (action : PyVal) (s : Desk σ) :
    (Audit.handleAction text hex config machine assumeYes action s).1.map (handled (Executor.run text action)) =
      Executor.handleAction text config assumeYes action := by
  have carried (items : List (PyVal × PyVal)) (id : String) (s : Desk σ) :
      (carryOut text hex machine (.dict items) id s).1.map (handled (Executor.run text (.dict items))) =
        .ok (.ran (Executor.run text (.dict items))) := by
    obtain ⟨result, s', performed, -⟩ := @perform_spec σ text machine (.dict items)
      ((PyVal.lookup "kind" items).getD (.str "")) id s
    have first : ofExcept ((PyVal.dict items).get "kind" (.str "")) s =
      (.ok ((PyVal.lookup "kind" items).getD (.str "")), s) := rfl
    unfold carryOut
    rw [bind_ok first, bind_ok performed]
    rfl
  cases action with
  | dict items =>
    unfold Audit.handleAction Executor.handleAction
    rcases validated : validateAction (.dict items) with e | errors
    · rfl
    cases errors with
    | cons error errors => rfl
    | nil =>
      show ((Core.Values.ofExcept (Policy.decide text config (.dict items)) >>= _) s).1.map _ =
        Policy.decide text config (.dict items) >>= _
      rcases Policy.decide text config (.dict items) with e | ⟨decision, reason⟩
      · rfl
      cases decision with
      | allow => exact carried items _ _
      | deny => rfl
      | askUser =>
        cases assumeYes with
        | true => exact carried items _ _
        | false => rfl
  | _ => rfl

end DroidOs.Rocky.Pipeline
