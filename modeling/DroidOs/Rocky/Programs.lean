/- GID: DroidOs/Rocky/Programs
   generality: I
   source: rocky/policy.py, rocky/executor.py, rocky/tool_registry.yaml
   digest: The programs that a command really starts, and what the policy made of its spelling. -/

import DroidOs.Rocky.AutoRun

set_option autoImplicit false
set_option relaxedAutoImplicit false

namespace DroidOs.Rocky.Programs

open DroidOs.Core.Values
open Policy Executor AutoRun

/-! The programs behind an argument vector. -/

/-- `os.path.basename`. -/
def basename (path : String) : String :=
  String.ofList (path.toList.reverse.takeWhile fun c => c != '/').reverse

def isOption (word : String) : Bool := word.toList.head? = some '-'

/-- `NAME=VALUE`. -/
def isAssignment (word : String) : Bool := word.toList.contains '='

/-- The base names of the started programs. `env` passes over its options and
assignments and starts the operand that follows them. -/
def programsFrom : Bool → List String → List String
  | _, [] => []
  | inEnv, word :: rest =>
    if inEnv && (isOption word || isAssignment word) then programsFrom inEnv rest
    else basename word :: if basename word = "env" then programsFrom true rest else []

/-- The first word is the program itself, however it is spelled. -/
def programs (argv : List String) : List String := programsFrom false argv

variable (text : PyText) (config : Config) (action : PyVal)

def Denied : Prop := ∃ v, Policy.decide text config action = .ok v ∧ v.decision = .deny

/-- The base name of the command as the action spells it. -/
def Spelled (base : String) : Prop := ∃ payload, payloadOf action = .ok payload ∧ baseOf text payload = .ok base

/-- The capability that the stated kind, risk and spelling call for. -/
def calledFor : Except Exn (Option String) := do
  requiredCapability text (← action.get "kind" (.str "")) (← action.get "risk" (.str ""))
    (← payloadOf action) config.registry

/-- Why a command is refused while the capability `privileged` is disabled. -/
inductive Refused : Prop
  | forbidden (label : Has action "risk" "forbidden")
  | pattern (p : PyVal) (found : forbiddenPattern text config.registry action = .ok (some p))
  | spelled (unmatched : forbiddenPattern text config.registry action = .ok none) (base : String)
      (spelling : Spelled text action base) (privileged : base ∈ privilegedCommands)
  | labelled (unmatched : forbiddenPattern text config.registry action = .ok none)
      (label : Has action "risk" "privileged")
  | incapable (unmatched : forbiddenPattern text config.registry action = .ok none) (name : String)
      (needs : calledFor text config action = .ok (some name))
      (off : enabled config.capabilities name = .ok false)
  | unnamed (unmatched : forbiddenPattern text config.registry action = .ok none)
      (capable : capabilityGap text config action = .ok none) (empty : Spelled text action "")

variable {text config action}

/-- A command is in the way of a disabled capability exactly when it calls for it. -/
theorem capability_gap_iff {name : String} : capabilityGap text config action = .ok (some name) ↔
    calledFor text config action = .ok (some name) ∧ enabled config.capabilities name = .ok false := by
  unfold capabilityGap calledFor
  rcases action.get "kind" (.str "") with e | kind
  · simp [bind, Except.bind]
  rcases action.get "risk" (.str "") with e | risk
  · simp [bind, Except.bind]
  rcases payloadOf action with e | payload
  · simp [bind, Except.bind]
  show missingCapability text config kind risk payload = _ ↔ requiredCapability text kind risk payload _ = _ ∧ _
  unfold missingCapability
  rcases requiredCapability text kind risk payload config.registry with e | needs
  · simp [bind, Except.bind]
  rcases needs with _ | needed
  · simp [bind, Except.bind, pure, Except.pure]
  rcases run : enabled config.capabilities needed with e | on
  · simp only [run, bind, Except.bind, Except.ok.injEq, Option.some.injEq, reduceCtorEq, false_iff, not_and]
    rintro rfl
    simp [run]
  · cases on
    · simp only [run, bind, Except.bind, pure, Except.pure, Except.ok.injEq, Option.some.injEq,
        Bool.false_eq_true, if_false]
      constructor
      · rintro rfl
        exact ⟨rfl, run⟩
      · exact fun both => both.1
    · simp only [run, bind, Except.bind, pure, Except.pure, Except.ok.injEq, Option.some.injEq]
      constructor
      · intro none
        cases none
      · rintro ⟨rfl, off⟩
        simp [run] at off

theorem called_for_privileged (config : Config) (command : Has action "kind" "debian.command") {base : String}
    (spelling : Spelled text action base) {risk : PyVal} (hrisk : action.get "risk" (.str "") = .ok risk)
    (privileged : base ∈ privilegedCommands ∨ risk.isKey "privileged" = true) :
    calledFor text config action = .ok (some "privileged") := by
  obtain ⟨payload, hpayload, hbase⟩ := spelling
  have kinded : (PyVal.str "debian.command").isKey "debian.command" = true := by decide
  have either : (Decidable.decide (base ∈ privilegedCommands) || risk.isKey "privileged") = true := by
    rcases privileged with among | label
    · simp [among]
    · simp [label]
  simp only [calledFor, command.get, hrisk, hpayload, bind, Except.bind, requiredCapability, kinded,
    if_true, hbase]
  rw [if_pos either]
  rfl

/-- A nameless command is the only one that the command rules refuse. -/
private theorem decide_command_deny {risk payload : PyVal} {base : String} (hbase : baseOf text payload = .ok base) :
    (∃ v, decideCommand text config risk payload = .ok v ∧ v.decision = .deny) ↔ base = "" := by
  unfold decideCommand
  rw [hbase]
  constructor
  · rintro ⟨v, ran, denied⟩
    by_contra named
    simp only [bind, Except.bind, if_neg named] at ran
    obtain ⟨allow, -, ran⟩ := except_bind_ok ran
    obtain ⟨dangerous, -, ran⟩ := except_bind_ok ran
    split at ran
    · cases ran
      cases denied
    split at ran
    · cases ran
      cases denied
    · cases ran
      cases denied
  · rintro rfl
    exact ⟨⟨.deny, "no command specified"⟩, rfl, rfl⟩

theorem denied_iff (command : Has action "kind" "debian.command") {base : String}
    (spelling : Spelled text action base) (disabled : enabled config.capabilities "privileged" = .ok false) :
    Denied text config action ↔ Refused text config action := by
  have hkind := command.get (.str "")
  have spelled := spelling
  obtain ⟨payload, hpayload, hbase⟩ := spelled
  have found : ∃ risk, action.get "risk" (.str "") = .ok risk := by
    cases action with
    | dict items => exact ⟨_, rfl⟩
    | _ => cases hkind
  obtain ⟨risk, hrisk⟩ := found
  unfold Denied
  rw [decide_eq text config action hkind hrisk hpayload]
  constructor
  · rintro ⟨v, ran, denied⟩
    split at ran
    · rename_i label
      exact .forbidden (Has.of_get hrisk (fun s => by by_cases s = "forbidden" <;> simp_all) label)
    obtain ⟨matched, hmatched, ran⟩ := except_bind_ok ran
    cases matched with
    | some pattern => exact .pattern pattern hmatched
    | none =>
    obtain ⟨gap, hgap, ran⟩ := except_bind_ok ran
    cases gap with
    | some name =>
      obtain ⟨needs, off⟩ := capability_gap_iff.mp hgap
      exact .incapable hmatched name needs off
    | none =>
      obtain rfl := (decide_command_deny hbase).mp ⟨v, ran, denied⟩
      exact .unnamed hmatched hgap spelling
  · intro refused
    by_cases label : risk.isKey "forbidden" = true
    · exact ⟨_, if_pos label, rfl⟩
    rw [if_neg label]
    cases refused with
    | forbidden has =>
      obtain rfl : risk = .str "forbidden" := Except.ok.inj (hrisk.symm.trans (has.get _))
      exact absurd rfl label
    | pattern p found =>
      rw [found]
      exact ⟨_, rfl, rfl⟩
    | spelled unmatched base' spelling' privileged =>
      have gap := capability_gap_iff.mpr
        ⟨called_for_privileged config command spelling' hrisk (.inl privileged), disabled⟩
      rw [unmatched, gap]
      exact ⟨_, rfl, rfl⟩
    | labelled unmatched has =>
      obtain rfl : risk = .str "privileged" := Except.ok.inj (hrisk.symm.trans (has.get _))
      have gap := capability_gap_iff.mpr
        ⟨called_for_privileged config command spelling hrisk (.inr (by decide)), disabled⟩
      rw [unmatched, gap]
      exact ⟨_, rfl, rfl⟩
    | incapable unmatched name needs off =>
      rw [unmatched, capability_gap_iff.mpr ⟨needs, off⟩]
      exact ⟨_, rfl, rfl⟩
    | unnamed unmatched capable empty =>
      obtain ⟨payload', hpayload', hempty⟩ := empty
      obtain rfl : payload' = payload := Except.ok.inj (hpayload'.symm.trans hpayload)
      rw [unmatched, capable]
      exact (decide_command_deny hempty).mpr rfl

/-- What the executor starts has a spelling that the policy saw. -/
theorem spelled_of_start {argv : List String} (command : Has action "kind" "debian.command")
    (starts : run text action = .start argv) : ∃ base, Spelled text action base := by
  have ran : runCommand text action = .ok (.start argv) := by
    have handled : (handlers text).lookup "debian.command" = some (runCommand text) := rfl
    rcases outcome : runCommand text action with e | effect
    · have failed : run text action = .fail e.describe := by
        simp only [run, command.get, handled, outcome]
      rw [failed] at starts
      cases starts
    · have answered : run text action = effect := by
        simp only [run, command.get, handled, outcome]
      rw [← starts, answered]
  obtain ⟨payload, hpayload, -⟩ := except_bind_ok ran
  have mapping : ∃ items, payload = .dict items := by
    unfold runCommand at ran
    rw [hpayload] at ran
    cases payload with
    | dict items => exact ⟨items, rfl⟩
    | _ => cases ran
  obtain ⟨items, rfl⟩ := mapping
  exact ⟨_, .dict items, hpayload, rfl⟩

/-- The programs that start are refused when privileged, and none of them, nor a dangerous one, is
started unasked. -/
def Contained (text : PyText) (config : Config) (action : PyVal) : Prop :=
  ∀ argv, run text action = .start argv → ∀ program ∈ programs argv,
    (program ∈ privilegedCommands → Denied text config action) ∧
    (program ∈ privilegedCommands ∨ listed config.registry "dangerous_commands" program = .ok true →
      ¬ AutoAllowed text config action)

theorem contained_iff (command : Has action "kind" "debian.command")
    (disabled : enabled config.capabilities "privileged" = .ok false) :
    Contained text config action ↔
      ∀ argv, run text action = .start argv → ∀ program ∈ programs argv,
        (program ∈ privilegedCommands → Refused text config action) ∧
        (listed config.registry "dangerous_commands" program = .ok true → ¬ Cleared text config action) := by
  unfold Contained
  constructor
  · intro contained argv starts program started
    obtain ⟨base, spelling⟩ := spelled_of_start command starts
    obtain ⟨denied, unasked⟩ := contained argv starts program started
    refine ⟨fun privileged => (denied_iff command spelling disabled).mp (denied privileged), ?_⟩
    exact fun dangerous cleared => unasked (.inr dangerous) ((auto_allowed_iff _ _ _).mpr cleared)
  · intro held argv starts program started
    obtain ⟨base, spelling⟩ := spelled_of_start command starts
    obtain ⟨refused, uncleared⟩ := held argv starts program started
    have denied (privileged : program ∈ privilegedCommands) : Denied text config action :=
      (denied_iff command spelling disabled).mpr (refused privileged)
    refine ⟨denied, ?_⟩
    rintro (privileged | dangerous) ⟨v, decided, allowed⟩
    · obtain ⟨w, ran, refuses⟩ := denied privileged
      obtain rfl : w = v := Except.ok.inj (ran.symm.trans decided)
      rw [refuses] at allowed
      cases allowed
    · exact uncleared dangerous ((auto_allowed_iff _ _ _).mp ⟨v, decided, allowed⟩)

/-- A command with its arguments, labelled `read_only`. -/
def commandOf (command : String) (args : List String) : PyVal :=
  labelledReadOnly "debian.command"
    [(.str "command", .str command), (.str "args", .list (args.map PyVal.str))] false

theorem contained_sudo : Contained PyText.ascii shipped (commandOf "sudo" ["reboot"]) := by
  have command : Has (commandOf "sudo" ["reboot"]) "kind" "debian.command" := rfl
  have spelling : Spelled PyText.ascii (commandOf "sudo" ["reboot"]) "sudo" := ⟨_, rfl, rfl⟩
  refine (contained_iff command rfl).mpr fun argv _ program _ => ⟨fun _ => ?_, fun _ cleared => ?_⟩
  · exact .spelled rfl "sudo" spelling (by decide)
  · have gap : capabilityGap PyText.ascii shipped (commandOf "sudo" ["reboot"]) = .ok (some "privileged") := rfl
    rw [cleared.capable] at gap
    cases gap

/-- The shipped switches, with commands that change the machine let through to the question. -/
def askingShell : Config where
  capabilities := .dict [(.str "shell_write", .dict [(.str "enabled", .bool true)]),
    (.str "privileged", .dict [(.str "enabled", .bool false)])]
  registry := shipped.registry

/-- Behind `env` a privileged program is started unasked, and under its path it is merely asked for. -/
theorem wrapped_sudo_allowed :
    let wrapped := commandOf "env" ["sudo", "reboot"]
    let located := commandOf "/usr/bin/sudo" ["reboot"]
    (run PyText.ascii wrapped = .start ["env", "sudo", "reboot"] ∧
      "sudo" ∈ programs ["env", "sudo", "reboot"] ∧
      enabled shipped.capabilities "privileged" = .ok false ∧ AutoAllowed PyText.ascii shipped wrapped ∧
      ¬ Contained PyText.ascii shipped wrapped) ∧
    (run PyText.ascii located = .start ["/usr/bin/sudo", "reboot"] ∧
      "sudo" ∈ programs ["/usr/bin/sudo", "reboot"] ∧
      enabled askingShell.capabilities "privileged" = .ok false ∧ ¬ Denied PyText.ascii askingShell located ∧
      ¬ Contained PyText.ascii askingShell located) := by
  intro wrapped located
  have wraps : run PyText.ascii wrapped = .start ["env", "sudo", "reboot"] := rfl
  have locates : run PyText.ascii located = .start ["/usr/bin/sudo", "reboot"] := rfl
  have allowed : AutoAllowed PyText.ascii shipped wrapped := ⟨_, rfl, rfl⟩
  have undenied : ¬ Denied PyText.ascii askingShell located := by
    rintro ⟨v, decided, denied⟩
    have asks : Policy.decide PyText.ascii askingShell located =
      .ok ⟨.askUser, "'/usr/bin/sudo' is not on the read-only allowlist"⟩ := rfl
    rw [asks] at decided
    cases decided
    cases denied
  have behind : "sudo" ∈ programs ["env", "sudo", "reboot"] := by decide
  have named : "sudo" ∈ programs ["/usr/bin/sudo", "reboot"] := by decide
  refine ⟨⟨wraps, behind, rfl, allowed, fun contained => ?_⟩, locates, named, rfl, undenied, fun contained => ?_⟩
  · exact (contained _ wraps "sudo" behind).2 (.inl (by decide)) allowed
  · exact undenied ((contained _ locates "sudo" named).1 (by decide))

end DroidOs.Rocky.Programs
