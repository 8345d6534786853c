/- GID: DroidOs/Rocky/AutoRun
   generality: I
   source: rocky/policy.py, rocky/rockyctl, rocky/policy_rules.md
   digest: Which actions run without a question, and which of them change state. -/

import DroidOs.Rocky.Executor

set_option autoImplicit false
set_option relaxedAutoImplicit false

namespace DroidOs.Rocky.AutoRun

open DroidOs.Core.Values
open Policy Executor

/-- The action has this text under the key. -/
def Has (action : PyVal) (key value : String) : Prop := action.get key .none = .ok (.str value)

theorem Has.get {action : PyVal} {key value : String} (has : Has action key value) (default : PyVal) :
    action.get key default = .ok (.str value) := by
  unfold Has PyVal.get at *
  split at has
  · rename_i items
    cases found : PyVal.lookup key items with
    | none => simp [found] at has
    | some v => simpa [found] using has
  · cases has

theorem Has.of_get {action v default : PyVal} {key value : String} (found : action.get key default = .ok v)
    (apart : ∀ s, default ≠ .str s ∨ s ≠ value) (is : v.isKey value = true) : Has action key value := by
  unfold Has PyVal.get at *
  split at found
  · rename_i items
    cases entry : PyVal.lookup key items with
    | none =>
      simp only [entry, Option.getD_none, Except.ok.injEq] at found
      cases v with
      | str s =>
        have same : s = value := by simpa [PyVal.isKey] using is
        rcases apart s with other | other
        · exact absurd found other
        · exact absurd same other
      | _ => cases is
    | some w =>
      simp only [entry, Option.getD_some, Except.ok.injEq] at found ⊢
      subst found
      cases w with
      | str s => simpa [PyVal.isKey] using is
      | _ => cases is
  · cases found

variable (text : PyText) (config : Config) (action : PyVal)

/-- The disabled capability that is in the action's way. -/
def capabilityGap : Except Exn (Option String) := do
  missingCapability text config (← action.get "kind" (.str "")) (← action.get "risk" (.str ""))
    (← payloadOf action)

/-- The command, as the action spells it, is on the read-only list and not on the dangerous one. -/
def Allowlisted : Prop := ∃ payload base, payloadOf action = .ok payload ∧ baseOf text payload = .ok base ∧
  base ≠ "" ∧ listed config.registry "debian_read_only_commands" base = .ok true ∧
  listed config.registry "dangerous_commands" base = .ok false

/-- What the policy asks of an action before it lets it run unasked. -/
structure Cleared : Prop where
  readOnly : Has action "risk" "read_only"
  unmatched : forbiddenPattern text config.registry action = .ok none
  capable : capabilityGap text config action = .ok none
  command : Has action "kind" "debian.command" → Allowlisted text config action

def AutoAllowed : Prop := ∃ v, Policy.decide text config action = .ok v ∧ v.decision = .allow

/-! The decision, step by step. -/

theorem decide_eq {kind risk payload : PyVal} (hkind : action.get "kind" (.str "") = .ok kind)
    (hrisk : action.get "risk" (.str "") = .ok risk) (hpayload : payloadOf action = .ok payload) :
    Policy.decide text config action =
      if risk.isKey "forbidden" then .ok ⟨.deny, "risk is 'forbidden'"⟩
      else forbiddenPattern text config.registry action >>= fun
        | some pattern => .ok ⟨.deny, "matches forbidden pattern: " ++ text.repr pattern⟩
        | none => capabilityGap text config action >>= fun
          | some name => .ok ⟨.deny, "capability '" ++ name ++ "' is disabled"⟩
          | none =>
            if kind.isKey "debian.command" then decideCommand text config risk payload
            else .ok (decideByRisk text risk) := by
  have gap : capabilityGap text config action = missingCapability text config kind risk payload := by
    simp only [capabilityGap, hkind, hrisk, hpayload, bind, Except.bind]
  rw [gap]
  simp only [Policy.decide, hkind, hrisk, hpayload]
  rfl

/-- The command rules let an action run only where the registry's two lists do. -/
private theorem decide_command_allow {risk payload : PyVal} (hpayload : payloadOf action = .ok payload) :
    (∃ v, decideCommand text config risk payload = .ok v ∧ v.decision = .allow) ↔
      risk.isKey "read_only" = true ∧ Allowlisted text config action := by
  constructor
  · rintro ⟨v, ran, allowed⟩
    unfold decideCommand at ran
    obtain ⟨base, hbase, ran⟩ := except_bind_ok ran
    split at ran
    · cases ran
      cases allowed
    rename_i named
    obtain ⟨allow, hallow, ran⟩ := except_bind_ok ran
    obtain ⟨dangerous, hdangerous, ran⟩ := except_bind_ok ran
    split at ran
    · cases ran
      cases allowed
    rename_i safe
    split at ran
    · rename_i both
      rw [Bool.and_eq_true] at both
      refine ⟨both.1, payload, base, hpayload, hbase, named, ?_, ?_⟩
      · rw [hallow, both.2]
      · rw [hdangerous, Bool.eq_false_iff.mpr safe]
    · cases ran
      cases allowed
  · rintro ⟨labelled, payload', base, hpayload', hbase, named, hallow, hdangerous⟩
    obtain rfl : payload' = payload := Except.ok.inj (hpayload'.symm.trans hpayload)
    refine ⟨⟨.allow, "'" ++ base ++ "' is an allowlisted read-only command"⟩, ?_, rfl⟩
    simp [decideCommand, hbase, hallow, hdangerous, named, labelled, bind, Except.bind, pure, Except.pure]

theorem auto_allowed_iff : AutoAllowed text config action ↔ Cleared text config action := by
  constructor
  · rintro ⟨v, ran, allowed⟩
    have parts := ran
    obtain ⟨kind, hkind, parts⟩ := except_bind_ok parts
    obtain ⟨risk, hrisk, parts⟩ := except_bind_ok parts
    obtain ⟨payload, hpayload, -⟩ := except_bind_ok parts
    rw [decide_eq text config action hkind hrisk hpayload] at ran
    split at ran
    · cases ran
      cases allowed
    obtain ⟨matched, hmatched, ran⟩ := except_bind_ok ran
    cases matched with
    | some pattern =>
      cases ran
      cases allowed
    | none =>
    obtain ⟨gap, hgap, ran⟩ := except_bind_ok ran
    cases gap with
    | some name =>
      cases ran
      cases allowed
    | none =>
    have label (is : risk.isKey "read_only" = true) : Has action "risk" "read_only" :=
      Has.of_get hrisk (fun s => by by_cases s = "read_only" <;> simp_all) is
    by_cases command : kind.isKey "debian.command" = true
    · rw [if_pos command] at ran
      obtain ⟨labelled, listed⟩ := (decide_command_allow text config action hpayload).mp ⟨v, ran, allowed⟩
      exact ⟨label labelled, hmatched, hgap, fun _ => listed⟩
    · rw [if_neg command] at ran
      refine ⟨label ?_, hmatched, hgap, fun has => absurd ?_ command⟩
      · by_contra unlabelled
        simp only [decideByRisk, unlabelled, Except.ok.injEq] at ran
        subst ran
        cases allowed
      · have same := hkind.symm.trans (has.get (.str ""))
        cases same
        rfl
  · rintro ⟨labelled, unmatched, capable, listed⟩
    obtain ⟨kind, hkind, parts⟩ := except_bind_ok capable
    obtain ⟨risk, hrisk, parts⟩ := except_bind_ok parts
    obtain ⟨payload, hpayload, -⟩ := except_bind_ok parts
    obtain rfl : risk = .str "read_only" := Except.ok.inj (hrisk.symm.trans (labelled.get _))
    unfold AutoAllowed
    rw [decide_eq text config action hkind hrisk hpayload, unmatched, capable]
    by_cases command : kind.isKey "debian.command" = true
    · have has : Has action "kind" "debian.command" :=
        Has.of_get hkind (fun s => by by_cases s = "debian.command" <;> simp_all) command
      have labelled : (PyVal.str "read_only").isKey "read_only" = true := rfl
      obtain ⟨v, ran, allowed⟩ :=
        (decide_command_allow text config action hpayload).mpr ⟨labelled, listed has⟩
      refine ⟨v, Eq.trans ?_ ran, allowed⟩
      rw [if_neg (by decide)]
      simp only [bind, Except.bind, if_pos command]
    · refine ⟨⟨.allow, "read-only action"⟩, ?_, rfl⟩
      rw [if_neg (by decide)]
      simp only [bind, Except.bind, if_neg command]
      rfl

/-! What may run without a question. -/

/-- The action asks for a confirmation itself. -/
def Flagged : Prop := action.get "needs_confirmation" (.bool false) = .ok (.bool true)

/-- The action is of a kind that changes files or memory. -/
def Writes : Prop := ∃ kind ∈ ["file.write", "file.delete", "memory.write"], Has action "kind" kind

/-- An action that changes nothing and asks for nothing. -/
def Harmless : Prop := ¬ Flagged action ∧
  ((∃ kind ∈ ["file.read", "memory.search", "notify", "speak"], Has action "kind" kind) ∨
    Has action "kind" "debian.command" ∧ Allowlisted text config action)

/-- The kinds of an accepted action. -/
private theorem accepted_kind (accepted : validateAction action = .ok []) :
    ∃ kind ∈ validKinds, Has action "kind" kind := by
  cases action with
  | dict items =>
    simp only [validateAction, isDict, Bool.not_true] at accepted
    obtain ⟨typed, -, accepted⟩ := except_bind_ok accepted
    obtain ⟨kind, hkind, accepted⟩ := except_bind_ok accepted
    obtain ⟨known, hknown, accepted⟩ := except_bind_ok accepted
    obtain ⟨risk, -, accepted⟩ := except_bind_ok accepted
    obtain ⟨labelled, -, accepted⟩ := except_bind_ok accepted
    obtain ⟨payload, -, accepted⟩ := except_bind_ok accepted
    have empty := Except.ok.inj accepted
    simp only [List.append_eq_nil_iff] at empty
    have member : known = true := by
      by_contra unknown
      have unsaid := empty.1.1.2
      rw [if_neg unknown] at unsaid
      cases unsaid
    subst member
    unfold memberOf at hknown
    split at hknown
    · obtain ⟨name, valid, same⟩ := List.any_eq_true.mp (Except.ok.inj hknown)
      refine ⟨name, valid, ?_⟩
      exact Has.of_get hkind (fun _ => .inl (by simp)) same
    · cases hknown
  | _ => cases accepted

/-- Nothing is run unasked but what the policy allows. -/
theorem ran_unasked_iff (accepted : validateAction action = .ok []) :
    (∃ effect, handleAction text config false action = .ok (.ran effect)) ↔ AutoAllowed text config action := by
  unfold handleAction AutoAllowed
  rw [accepted]
  rcases Policy.decide text config action with e | ⟨decision, reason⟩
  · constructor
    · rintro ⟨effect, ran⟩
      cases ran
    · rintro ⟨v, ran, -⟩
      cases ran
  · cases decision with
    | allow => exact ⟨fun _ => ⟨_, rfl, rfl⟩, fun _ => ⟨_, rfl⟩⟩
    | askUser =>
      constructor
      · rintro ⟨effect, ran⟩
        cases ran
      · rintro ⟨v, ran, allowed⟩
        cases ran
        cases allowed
    | deny =>
      constructor
      · rintro ⟨effect, ran⟩
        cases ran
      · rintro ⟨v, ran, allowed⟩
        cases ran
        cases allowed

theorem has_unique {key a b : String} (one : Has action key a) (other : Has action key b) : a = b := by
  have same := one.symm.trans other
  simpa using same

/-- Only harmless actions are allowed, and no write is run without `--yes`. -/
def Careful : Prop := (AutoAllowed text config action → Harmless text config action) ∧
  ((∃ effect, handleAction text config false action = .ok (.ran effect)) → ¬ Writes action)

theorem auto_run_careful_iff (accepted : validateAction action = .ok []) :
    Careful text config action ↔ (Cleared text config action → ¬ Flagged action ∧ ¬ Writes action) := by
  unfold Careful
  rw [ran_unasked_iff text config action accepted, auto_allowed_iff]
  constructor
  · rintro ⟨harmless, unwritten⟩ cleared
    exact ⟨(harmless cleared).1, unwritten cleared⟩
  · intro plain
    refine ⟨fun cleared => ⟨(plain cleared).1, ?_⟩, fun cleared => (plain cleared).2⟩
    obtain ⟨kind, valid, has⟩ := accepted_kind action accepted
    by_cases command : kind = "debian.command"
    · subst command
      exact .inr ⟨has, cleared.command has⟩
    · refine .inl ⟨kind, ?_, has⟩
      have unwritten : kind ∉ ["file.write", "file.delete", "memory.write"] := fun among =>
        (plain cleared).2 ⟨kind, among, has⟩
      simp only [validKinds, List.mem_cons, List.not_mem_nil, or_false] at valid unwritten ⊢
      tauto

/-- An action of a kind, with the label `read_only`. -/
def labelledReadOnly (kind : String) (payload : List (PyVal × PyVal)) (asks : Bool) : PyVal :=
  .dict [(.str "type", .str "action"), (.str "kind", .str kind), (.str "risk", .str "read_only"),
    (.str "payload", .dict payload), (.str "needs_confirmation", .bool asks)]

theorem auto_run_careful_uname :
    Careful PyText.ascii shipped (labelledReadOnly "debian.command" [(.str "command", .str "uname")] false) :=
  (auto_run_careful_iff PyText.ascii shipped _ rfl).mpr fun _ => by
    refine ⟨fun flagged => ?_, ?_⟩
    · cases flagged
    · rintro ⟨kind, among, has⟩
      have command : Has (labelledReadOnly "debian.command" [(.str "command", .str "uname")] false) "kind"
        "debian.command" := rfl
      obtain rfl := has_unique _ command has
      exact absurd among (by decide)

/-- A memory write that is labelled `read_only` and asks for a confirmation. -/
theorem mislabelled_memory_write :
    let write := labelledReadOnly "memory.write" [(.str "content", .str "the key is under the mat")] true
    validateAction write = .ok [] ∧ Flagged write ∧ Writes write ∧ ¬ Careful PyText.ascii shipped write ∧
      ∃ effect, handleAction PyText.ascii shipped false write = .ok (.ran effect) := by
  intro write
  have accepted : validateAction write = .ok [] := rfl
  have flagged : Flagged write := rfl
  have writes : Writes write := ⟨"memory.write", by decide, rfl⟩
  have cleared : Cleared PyText.ascii shipped write := by
    refine ⟨rfl, ?_, rfl, fun command => ?_⟩
    · rfl
    · exact absurd (has_unique write command (rfl : Has write "kind" "memory.write")) (by decide)
  have allowed := (auto_allowed_iff _ _ _).mpr cleared
  refine ⟨accepted, flagged, writes, fun careful => ?_, (ran_unasked_iff _ _ _ accepted).mpr allowed⟩
  exact (careful.1 allowed).1 flagged

end DroidOs.Rocky.AutoRun
