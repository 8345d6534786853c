/- GID: DroidOs/Rocky/Tightening
   generality: I
   source: rocky/policy.py, rocky/policy_rules.md
   digest: A tighter configuration decides no action more loosely, but for one kind of command. -/

import DroidOs.Core.Words
import DroidOs.Rocky.AutoRun

set_option autoImplicit false
set_option relaxedAutoImplicit false

namespace DroidOs.Rocky.Tightening

open DroidOs.Core.Values DroidOs.Core.Words
open Policy AutoRun

/-! Tighter configurations. -/

/-- How much a decision holds back. -/
def strictness : Decision → Nat
  | .allow => 0
  | .askUser => 1
  | .deny => 2

def Grants (config : Config) (name : String) : Prop := enabled config.capabilities name = .ok true

def OnList (config : Config) (key base : String) : Prop := listed config.registry key base = .ok true

/-- The new configuration grants no other capability, lists no other command as read-only and
every command as dangerous that was, and matches whatever the old one matched. -/
structure Tighter (old new : Config) : Prop where
  patterns : ∀ ps qs, entries old.registry "forbidden_patterns" = .ok ps →
    entries new.registry "forbidden_patterns" = .ok qs → ∀ s, PyVal.str s ∈ ps → s ≠ "" →
      ∃ t, PyVal.str t ∈ qs ∧ t ≠ "" ∧ containsText t s = true
  capabilities : ∀ name, Grants new name → Grants old name
  readOnly : ∀ base, OnList new "debian_read_only_commands" base → OnList old "debian_read_only_commands" base
  dangerous : ∀ base, OnList old "dangerous_commands" base → OnList new "dangerous_commands" base

variable (text : PyText) {old new : Config} {action : PyVal}

/-- A read-only command of the old list that the new one lacks, so that it no longer needs
`shell_read`, which was not granted, but `shell_write`, which is. -/
structure Shifted (old new : Config) (action : PyVal) : Prop where
  command : Has action "kind" "debian.command"
  labelled : Has action "risk" "read_only"
  unmatched : forbiddenPattern text new.registry action = .ok none
  withdrawn : ∃ payload base, payloadOf action = .ok payload ∧ baseOf text payload = .ok base ∧ base ≠ "" ∧
    base ∉ privilegedCommands ∧ OnList old "debian_read_only_commands" base ∧
    ¬ OnList new "debian_read_only_commands" base
  granted : Grants new "shell_write"
  missed : ¬ Grants old "shell_read"

/-! The steps of a decision. -/

variable {text} {config : Config} {kind risk payload : PyVal}

/-- The pattern that is found is one of the list, and in the text. -/
private theorem firstPattern_found {haystack : String} {ps : List PyVal} {p : PyVal}
    (found : firstPattern haystack ps = .ok (some p)) :
    ∃ s, PyVal.str s ∈ ps ∧ s ≠ "" ∧ containsText s haystack = true := by
  induction ps with
  | nil => cases found
  | cons q ps ih =>
    have later (rest : firstPattern haystack ps = .ok (some p)) :
        ∃ s, PyVal.str s ∈ q :: ps ∧ s ≠ "" ∧ containsText s haystack = true := by
      obtain ⟨s, inside, filled, here⟩ := ih rest
      exact ⟨s, List.mem_cons_of_mem q inside, filled, here⟩
    unfold firstPattern at found
    split at found
    · exact later found
    rename_i truthy
    cases q with
    | str s =>
      dsimp only at found
      split at found
      · exact ⟨s, List.mem_cons_self, fun empty => truthy (by simp [PyVal.truthy, empty]), ‹_›⟩
      · exact later found
    | _ => cases found

/-- Where no pattern is found, none of the list is in the text. -/
private theorem firstPattern_none {haystack : String} {ps : List PyVal}
    (missed : firstPattern haystack ps = .ok none) :
    ∀ s, PyVal.str s ∈ ps → s ≠ "" → ¬ containsText s haystack = true := by
  induction ps with
  | nil => exact fun s inside => absurd inside List.not_mem_nil
  | cons q ps ih =>
    intro s inside filled here
    unfold firstPattern at missed
    rcases List.mem_cons.mp inside with rfl | later
    · rw [if_neg (by simpa [PyVal.truthy] using filled)] at missed
      dsimp only at missed
      rw [if_pos here] at missed
      cases missed
    · split at missed
      · exact ih missed s later filled here
      cases q with
      | str t =>
        dsimp only at missed
        split at missed
        · cases missed
        · exact ih missed s later filled here
      | _ => cases missed

theorem containsText_trans {a b c : String} (first : containsText a b = true) (second : containsText b c = true) :
    containsText a c = true := by
  rw [PyText.containsText_iff] at first second ⊢
  exact first.trans second

/-- What the old patterns match, the new ones match. -/
theorem unmatched_before (tighter : Tighter old new) {matched : Option PyVal}
    (before : forbiddenPattern text old.registry action = .ok matched)
    (after : forbiddenPattern text new.registry action = .ok none) : matched = none := by
  obtain ⟨command, hcommand, before⟩ := except_bind_ok before
  obtain ⟨payload, hpayload, before⟩ := except_bind_ok before
  obtain ⟨content, hcontent, before⟩ := except_bind_ok before
  obtain ⟨ps, hps, before⟩ := except_bind_ok before
  obtain ⟨command', hcommand', after⟩ := except_bind_ok after
  obtain ⟨payload', hpayload', after⟩ := except_bind_ok after
  obtain ⟨content', hcontent', after⟩ := except_bind_ok after
  obtain ⟨qs, hqs, after⟩ := except_bind_ok after
  obtain rfl := Except.ok.inj (hcommand.symm.trans hcommand')
  obtain rfl := Except.ok.inj (hpayload.symm.trans hpayload')
  obtain rfl := Except.ok.inj (hcontent.symm.trans hcontent')
  cases matched with
  | none => rfl
  | some p =>
    obtain ⟨s, inside, filled, here⟩ := firstPattern_found before
    obtain ⟨t, listed, filled', within⟩ := tighter.patterns ps qs hps hqs s inside filled
    exact absurd (containsText_trans within here) (firstPattern_none after t listed filled')

/-- The four ways to a verdict. -/
private theorem decide_cases (hkind : action.get "kind" (.str "") = .ok kind)
    (hrisk : action.get "risk" (.str "") = .ok risk) (hpayload : payloadOf action = .ok payload) {v : Verdict}
    (decided : Policy.decide text config action = .ok v) :
    risk.isKey "forbidden" = true ∧ v.decision = .deny ∨
      risk.isKey "forbidden" ≠ true ∧ ∃ matched, forbiddenPattern text config.registry action = .ok matched ∧
        (matched ≠ none ∧ v.decision = .deny ∨ matched = none ∧
          ∃ gap, missingCapability text config kind risk payload = .ok gap ∧
            (gap ≠ none ∧ v.decision = .deny ∨ gap = none ∧
              (if kind.isKey "debian.command" then decideCommand text config risk payload
                else .ok (decideByRisk text risk)) = .ok v)) := by
  have gapped : capabilityGap text config action = missingCapability text config kind risk payload := by
    simp only [capabilityGap, hkind, hrisk, hpayload, bind, Except.bind]
  rw [decide_eq text config action hkind hrisk hpayload, gapped] at decided
  split at decided
  · cases decided
    exact .inl ⟨‹_›, rfl⟩
  rename_i permitted
  refine .inr ⟨permitted, ?_⟩
  obtain ⟨matched, hmatched, decided⟩ := except_bind_ok decided
  refine ⟨matched, hmatched, ?_⟩
  cases matched with
  | some pattern =>
    cases decided
    exact .inl ⟨Option.some_ne_none _, rfl⟩
  | none =>
    obtain ⟨gap, hgap, decided⟩ := except_bind_ok decided
    refine .inr ⟨rfl, gap, hgap, ?_⟩
    cases gap with
    | some name =>
      cases decided
      exact .inl ⟨Option.some_ne_none _, rfl⟩
    | none => exact .inr ⟨rfl, decided⟩

/-- The capability of a command. -/
private theorem command_needs {needs : Option String} (command : kind.isKey "debian.command" = true)
    (required : requiredCapability text kind risk payload config.registry = .ok needs) :
    ∃ base, baseOf text payload = .ok base ∧
      ((decide (base ∈ privilegedCommands) || risk.isKey "privileged") = true ∧ needs = some "privileged" ∨
        ¬ (decide (base ∈ privilegedCommands) || risk.isKey "privileged") = true ∧
          (risk.isKey "network" = true ∧ needs = some "network" ∨
            ¬ risk.isKey "network" = true ∧
              ∃ allow, listed config.registry "debian_read_only_commands" base = .ok allow ∧
                needs = some (if (risk.isKey "read_only" && allow) = true then "shell_read" else "shell_write"))) := by
  unfold requiredCapability at required
  rw [if_pos command] at required
  obtain ⟨base, hbase, required⟩ := except_bind_ok required
  refine ⟨base, hbase, ?_⟩
  split at required
  · exact .inl ⟨‹_›, (Except.ok.inj required).symm⟩
  rename_i plain
  refine .inr ⟨plain, ?_⟩
  split at required
  · exact .inl ⟨‹_›, (Except.ok.inj required).symm⟩
  rename_i local'
  obtain ⟨allow, hallow, required⟩ := except_bind_ok required
  exact .inr ⟨local', allow, hallow, (Except.ok.inj required).symm⟩

/-- The registry says nothing about the capability of another action. -/
private theorem other_needs (other : ¬ kind.isKey "debian.command" = true) :
    requiredCapability text kind risk payload old.registry =
      requiredCapability text kind risk payload new.registry := by
  unfold requiredCapability
  rw [if_neg other, if_neg other]

private theorem missing_iff {gap : Option String} (found : missingCapability text config kind risk payload = .ok gap) :
    ∃ needs, requiredCapability text kind risk payload config.registry = .ok needs ∧
      (gap = none ↔ ∀ name, needs = some name → Grants config name) := by
  obtain ⟨needs, required, found⟩ := except_bind_ok found
  refine ⟨needs, required, ?_⟩
  cases needs with
  | none =>
    cases found
    exact iff_of_true rfl fun name same => absurd same.symm (Option.some_ne_none name)
  | some name =>
    obtain ⟨on, switched, found⟩ := except_bind_ok found
    cases on with
    | true =>
      cases found
      refine iff_of_true rfl fun name' same => ?_
      cases same
      exact switched
    | false =>
      cases found
      refine iff_of_false (Option.some_ne_none name) fun all => ?_
      have granted := switched.symm.trans (all name rfl)
      cases granted

/-- What the rules for a command come to. -/
private theorem command_cases {v : Verdict} (decided : decideCommand text config risk payload = .ok v) :
    ∃ base, baseOf text payload = .ok base ∧
      (base = "" ∧ v.decision = .deny ∨ base ≠ "" ∧ ∃ allow dangerous,
        listed config.registry "debian_read_only_commands" base = .ok allow ∧
        listed config.registry "dangerous_commands" base = .ok dangerous ∧
        v.decision = if dangerous = true then .askUser
          else if (risk.isKey "read_only" && allow) = true then .allow else .askUser) := by
  unfold decideCommand at decided
  obtain ⟨base, hbase, decided⟩ := except_bind_ok decided
  refine ⟨base, hbase, ?_⟩
  split at decided
  · cases decided
    exact .inl ⟨‹_›, rfl⟩
  rename_i named
  obtain ⟨allow, hallow, decided⟩ := except_bind_ok decided
  obtain ⟨dangerous, hdangerous, decided⟩ := except_bind_ok decided
  refine .inr ⟨named, allow, dangerous, hallow, hdangerous, ?_⟩
  split at decided
  · cases decided
    rw [if_pos ‹_›]
  rename_i safe
  rw [if_neg safe]
  split at decided
  · cases decided
    rw [if_pos ‹_›]
  · cases decided
    rw [if_neg ‹_›]

private theorem decideCommand_le (tighter : Tighter old new) {v w : Verdict}
    (before : decideCommand text old risk payload = .ok v) (after : decideCommand text new risk payload = .ok w) :
    strictness v.decision ≤ strictness w.decision := by
  obtain ⟨base, hbase, before⟩ := command_cases before
  obtain ⟨base', hbase', after⟩ := command_cases after
  obtain rfl := Except.ok.inj (hbase.symm.trans hbase')
  rcases before with ⟨empty, denied⟩ | ⟨named, allow, dangerous, hallow, hdangerous, decision⟩
  · rcases after with ⟨-, denied'⟩ | ⟨named, -⟩
    · rw [denied, denied']
    · exact absurd empty named
  rcases after with ⟨empty, -⟩ | ⟨-, allow', dangerous', hallow', hdangerous', decision'⟩
  · exact absurd empty named
  have alarm : dangerous = true → dangerous' = true := by
    rintro rfl
    exact Except.ok.inj (hdangerous'.symm.trans (tighter.dangerous base hdangerous))
  have pass : allow' = true → allow = true := by
    rintro rfl
    exact Except.ok.inj (hallow.symm.trans (tighter.readOnly base hallow'))
  rw [decision, decision']
  cases dangerous with
  | true =>
    rw [alarm rfl]
    exact Nat.le_refl _
  | false =>
    cases dangerous' with
    | true =>
      rw [if_neg Bool.false_ne_true, if_pos rfl]
      split <;> decide
    | false =>
      rw [if_neg Bool.false_ne_true, if_neg Bool.false_ne_true]
      cases allow' with
      | true =>
        rw [pass rfl]
      | false =>
        rw [Bool.and_false, if_neg Bool.false_ne_true]
        split <;> decide

private theorem strictness_le (d : Decision) : strictness d ≤ strictness .deny := by
  cases d <;> decide

/-- A capability that was missing and is no longer: the command has moved from `shell_read` to
`shell_write`. -/
private theorem gap_closed (tighter : Tighter old new) {gap : Option String}
    (before : missingCapability text old kind risk payload = .ok gap) (open' : gap ≠ none)
    (after : missingCapability text new kind risk payload = .ok none) :
    kind.isKey "debian.command" = true ∧ risk.isKey "read_only" = true ∧
      (∃ base, baseOf text payload = .ok base ∧ base ∉ privilegedCommands ∧
        OnList old "debian_read_only_commands" base ∧ ¬ OnList new "debian_read_only_commands" base) ∧
      Grants new "shell_write" ∧ ¬ Grants old "shell_read" := by
  obtain ⟨needs, required, missing⟩ := missing_iff before
  obtain ⟨needs', required', missing'⟩ := missing_iff after
  have granted := missing'.mp rfl
  have lacking : needs ≠ needs' := by
    rintro rfl
    exact open' (missing.mpr fun name same => tighter.capabilities name (granted name same))
  by_cases command : kind.isKey "debian.command" = true
  · obtain ⟨base, hbase, cases⟩ := command_needs command required
    obtain ⟨base', hbase', cases'⟩ := command_needs command required'
    obtain rfl := Except.ok.inj (hbase.symm.trans hbase')
    rcases cases with ⟨privileged, same⟩ | ⟨plain, ⟨network, same⟩ | ⟨inside, allow, hallow, same⟩⟩
    · rcases cases' with ⟨-, same'⟩ | ⟨plain, -⟩
      · exact absurd (same.trans same'.symm) lacking
      · exact absurd privileged plain
    · rcases cases' with ⟨privileged, -⟩ | ⟨-, ⟨-, same'⟩ | ⟨inside, -⟩⟩
      · exact absurd privileged plain
      · exact absurd (same.trans same'.symm) lacking
      · exact absurd network inside
    · rcases cases' with ⟨privileged, -⟩ | ⟨-, ⟨network, -⟩ | ⟨-, allow', hallow', same'⟩⟩
      · exact absurd privileged plain
      · exact absurd network inside
      rw [Bool.not_eq_true, Bool.or_eq_false_iff, decide_eq_false_iff_not] at plain
      cases labelled : risk.isKey "read_only" with
      | false =>
        rw [labelled, Bool.false_and] at same same'
        exact absurd (same.trans same'.symm) lacking
      | true =>
        rw [labelled, Bool.true_and] at same same'
        cases allow' with
        | true =>
          have listed := Except.ok.inj (hallow.symm.trans (tighter.readOnly base hallow'))
          rw [listed] at same
          exact absurd (same.trans same'.symm) lacking
        | false =>
          cases allow with
          | false => exact absurd (same.trans same'.symm) lacking
          | true =>
            refine ⟨command, rfl, ⟨base, hbase, plain.1, hallow, fun still => ?_⟩, granted _ same', fun had => ?_⟩
            · have wrong := hallow'.symm.trans still
              cases wrong
            · refine open' (missing.mpr fun name is => ?_)
              obtain rfl := Option.some.inj (same.symm.trans is)
              exact had
  · have same := @other_needs text old new kind risk payload command
    rw [same] at required
    exact absurd (Except.ok.inj (required.symm.trans required')) lacking

/-- A plain read-only command needs one of the two shell capabilities. -/
private theorem shell_needs {needs : Option String} {base : String}
    (required : requiredCapability text (.str "debian.command") (.str "read_only") payload config.registry =
      .ok needs) (hbase : baseOf text payload = .ok base) (plain : base ∉ privilegedCommands) :
    ∃ allow, listed config.registry "debian_read_only_commands" base = .ok allow ∧
      needs = some (if allow = true then "shell_read" else "shell_write") := by
  obtain ⟨base', hbase', cases⟩ := command_needs rfl required
  obtain rfl := Except.ok.inj (hbase.symm.trans hbase')
  rcases cases with ⟨privileged, -⟩ | ⟨-, ⟨network, -⟩ | ⟨-, allow, hallow, needed⟩⟩
  · exact absurd privileged (by simp [plain, PyVal.isKey])
  · exact absurd network (by simp [PyVal.isKey])
  · exact ⟨allow, hallow, needed⟩

/-- Only `shell_write` is granted, and these commands are listed as read-only. -/
private def writesOnly (readOnly : List String) : Config where
  capabilities := .dict [(.str "shell_write", .dict [(.str "enabled", .bool true)])]
  registry := .dict [(.str "debian_read_only_commands", .list (readOnly.map PyVal.str))]

end DroidOs.Rocky.Tightening
