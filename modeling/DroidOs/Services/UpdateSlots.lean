/- GID: DroidOs/Services/UpdateSlots
   generality: I
   source: src/droidos/services/update.py
   digest: When an installation spares the running slot, and when the active slot is a sound one. -/

import DroidOs.Lib.History
import DroidOs.Services.Update

set_option autoImplicit false
set_option relaxedAutoImplicit false

namespace DroidOs.Services.UpdateSlots

open DroidOs.Lib.Procedure DroidOs.Lib.History
open DroidOs.Core.Values
open Update

/-! The machine and its runs. -/

/-- The update service, with two ghost fields that no operation reads: the slot that
the machine physically runs from, and the slots whose last health report since their
last installation was a pass. -/
structure Machine where
  update : UpdateStore := {}
  running : Slot := .a
  passed : Slot → Bool := fun s => decide (s = .a)

def Machine.info (m : Machine) : UpdateInfo := m.update.uinfo

inductive Event
  | install (file : BundleFile)
  | confirmBootHealth (healthy : Bool)
  | rollback
  | reboot

variable (text : PyText) (digest : PyVal → String)

def Machine.step (m : Machine) : Event → Machine
  | .install file => { m with
      update := (Update.install text digest file m.update).2
      passed := if (bundleVersion digest file).isSome
        then Function.update m.passed m.info.inactive false else m.passed }
  | .confirmBootHealth healthy => { m with
      update := (Update.confirmBootHealth healthy m.update).2
      passed := Function.update m.passed m.info.nextBoot healthy }
  | .rollback => { m with update := (Update.rollback m.update).2 }
  | .reboot => { m with update := m.update.load, running := m.info.nextBoot }

def Machine.run (m : Machine) (events : List Event) : Machine := events.foldl (Machine.step text digest) m

/-- The machine after these events from the default state. -/
def after (events : List Event) : Machine := Machine.run text digest {} events

@[simp] theorem run_nil (m : Machine) : m.run text digest [] = m := rfl

@[simp] theorem run_snoc (m : Machine) (events : List Event) (e : Event) :
    m.run text digest (events ++ [e]) = (m.run text digest events).step text digest e := by
  simp [Machine.run]

@[simp] theorem after_snoc (events : List Event) (e : Event) :
    after text digest (events ++ [e]) = (after text digest events).step text digest e :=
  run_snoc text digest {} events e

variable {text digest}

/-- The file tells what the service has in memory. -/
def Persisted (u : UpdateStore) : Prop := u.file.getD {} = u.uinfo

private theorem load_of_persisted {u : UpdateStore} (persisted : Persisted u) : u.load = u := by
  unfold UpdateStore.load
  rw [persisted]

private theorem persisted_step {m : Machine} (persisted : Persisted m.update) (e : Event) :
    Persisted (m.step text digest e).update := by
  cases e with
  | install file =>
    have spec := @install_spec text digest file m.update
    simp only [Machine.step]
    cases version : bundleVersion digest file with
    | some version' =>
      rw [version] at spec
      rw [spec]
      rfl
    | none =>
      rw [version] at spec
      rcases spec with ⟨e, run⟩ | ⟨reason, run⟩
      · rw [run]
        exact persisted
      · rw [run]
        rfl
  | confirmBootHealth healthy => rfl
  | rollback =>
    cases alternative : (m.info.slots m.info.inactive).version.truthy with
    | true =>
      simp only [Machine.step, rollback_taken alternative]
      rfl
    | false =>
      simp only [Machine.step, rollback_refused alternative]
      exact persisted
  | reboot =>
    simp only [Machine.step]
    rw [load_of_persisted persisted]
    exact persisted

theorem persisted_after (events : List Event) : Persisted (after text digest events).update := by
  induction events using List.reverseRecOn with
  | nil => rfl
  | append_singleton events e ih =>
    rw [after_snoc]
    exact persisted_step ih e

/-! The phases of an update. -/

/-- Where an update stands: nothing pending; a bundle waits for its reboot; the machine
runs a slot whose health nobody has reported; a switch waits for its reboot. -/
inductive Phase
  | settled | staged | trial | switching
  deriving DecidableEq

/-- What takes effect. -/
inductive Act
  | installed | accepted | reverted | switchedBack | rebooted
  deriving DecidableEq

def Phase.next : Phase → Act → Phase
  | settled, .installed => staged
  | staged, .installed => staged
  | trial, .installed => trial
  | switching, .installed => trial
  | settled, .accepted => settled
  | staged, .accepted => switching
  | trial, .accepted => settled
  | switching, .accepted => switching
  | settled, .reverted => switching
  | staged, .reverted => settled
  | trial, .reverted => switching
  | switching, .reverted => settled
  | settled, .switchedBack => switching
  | staged, .switchedBack => switching
  | trial, .switchedBack => settled
  | switching, .switchedBack => settled
  | settled, .rebooted => settled
  | staged, .rebooted => trial
  | trial, .rebooted => trial
  | switching, .rebooted => settled

/-- A refused bundle and a rollback without an alternative have no effect. -/
def act (digest : PyVal → String) (m : Machine) : Event → List Act
  | .install file => if (bundleVersion digest file).isSome then [.installed] else []
  | .confirmBootHealth healthy => if healthy then [.accepted] else [.reverted]
  | .rollback => if (m.info.slots m.info.inactive).version.truthy then [.switchedBack] else []
  | .reboot => [.rebooted]

/-- The effects of a run, in their order. -/
def acts (text : PyText) (digest : PyVal → String) : Machine → List Event → List Act
  | _, [] => []
  | m, e :: events => act digest m e ++ acts text digest (m.step text digest e) events

/-- The phase after some effects from the default state. -/
def phaseAfter (effects : List Act) : Phase := effects.foldl Phase.next .settled

/-- The phase that three slots tell: the active one, the next to boot, the running one. -/
def phaseOf (active next running : Slot) : Phase :=
  if active = running then
    if next = running then .settled else .staged
  else if next = running then .trial else .switching

def Machine.phase (m : Machine) : Phase := phaseOf m.info.activeSlot m.info.nextBoot m.running

private theorem phaseOf_installed (p q r : Slot) :
    phaseOf p p.other r = (phaseOf p q r).next .installed := by
  cases p <;> cases q <;> cases r <;> rfl

private theorem phaseOf_accepted (p q r : Slot) : phaseOf q q r = (phaseOf p q r).next .accepted := by
  cases p <;> cases q <;> cases r <;> rfl

private theorem phaseOf_reverted (p q r : Slot) :
    phaseOf q.other q.other r = (phaseOf p q r).next .reverted := by
  cases p <;> cases q <;> cases r <;> rfl

private theorem phaseOf_switchedBack (p q r : Slot) :
    phaseOf p.other p.other r = (phaseOf p q r).next .switchedBack := by
  cases p <;> cases q <;> cases r <;> rfl

private theorem phaseOf_rebooted (p q r : Slot) : phaseOf p q q = (phaseOf p q r).next .rebooted := by
  cases p <;> cases q <;> cases r <;> rfl

/-- The machine runs from the slot that takes the next bundle in the other two phases. -/
private theorem phaseOf_sparing (p q r : Slot) :
    r ≠ p.other ↔ phaseOf p q r = .settled ∨ phaseOf p q r = .staged := by
  cases p <;> cases q <;> cases r <;> decide

/-- One event moves the phase as its effect says. -/
theorem phase_step {m : Machine} (persisted : Persisted m.update) (e : Event) :
    (m.step text digest e).phase = (act digest m e).foldl Phase.next m.phase := by
  cases e with
  | install file =>
    have spec := @install_spec text digest file m.update
    cases version : bundleVersion digest file with
    | some version' =>
      rw [version] at spec
      simp only [Machine.step, act, version, spec, Option.isSome_some, if_true]
      exact phaseOf_installed _ _ _
    | none =>
      rw [version] at spec
      simp only [Machine.step, act, version, Option.isSome_none, Bool.false_eq_true, if_false]
      rcases spec with ⟨e, run⟩ | ⟨reason, run⟩ <;> rw [run] <;> rfl
  | confirmBootHealth healthy =>
    cases healthy with
    | true => exact phaseOf_accepted _ _ _
    | false => exact phaseOf_reverted _ _ _
  | rollback =>
    cases alternative : (m.info.slots m.info.inactive).version.truthy with
    | true =>
      simp only [Machine.step, act, rollback_taken alternative, alternative, if_true]
      exact phaseOf_switchedBack _ _ _
    | false =>
      simp only [Machine.step, act, rollback_refused alternative, alternative, Bool.false_eq_true,
        if_false]
      rfl
  | reboot =>
    simp only [Machine.step, act, load_of_persisted persisted]
    exact phaseOf_rebooted _ _ _

private theorem phase_run {m : Machine} (persisted : Persisted m.update) (events : List Event) :
    (m.run text digest events).phase = (acts text digest m events).foldl Phase.next m.phase := by
  induction events generalizing m with
  | nil => rfl
  | cons e events ih =>
    change ((m.step text digest e).run text digest events).phase = _
    rw [ih (persisted_step persisted e), phase_step persisted e, acts, List.foldl_append]

/-- The slots and the order of the effects tell the same phase. -/
theorem phase_after (events : List Event) :
    (after text digest events).phase = phaseAfter (acts text digest {} events) :=
  phase_run (m := {}) rfl events

/-! Installations and the running slot. -/

/-- An installation that reports that it went into this slot. -/
def Writes (text : PyText) (digest : PyVal → String) (m : Machine) (file : BundleFile) (s : Slot) : Prop :=
  ∃ version, (Update.install text digest file m.update).1 = .ok (installedResult s version)

/-- No installation of the run goes into the slot that the machine runs from. -/
def RunningSlotSpared (text : PyText) (digest : PyVal → String) : List Event → Prop :=
  Throughout fun past e => ∀ file, e = .install file →
    ¬ Writes text digest (after text digest past) file (after text digest past).running

private theorem installedResult_ne_refused (s : Slot) (version : PyVal) (reason : String) :
    refusedResult reason ≠ installedResult s version := by
  simp [refusedResult, installedResult]

private theorem name_injective {s t : Slot} (same : s.name = t.name) : s = t := by
  revert same
  cases s <;> cases t <;> decide

private theorem writes_iff (m : Machine) (file : BundleFile) (s : Slot) :
    Writes text digest m file s ↔ (bundleVersion digest file).isSome ∧ s = m.info.inactive := by
  have spec := @install_spec text digest file m.update
  unfold Writes
  cases version : bundleVersion digest file with
  | some version' =>
    rw [version] at spec
    rw [spec]
    constructor
    · rintro ⟨other, same⟩
      have named : m.info.inactive.name = s.name ∧ version' = other := by
        simpa [installedResult, Machine.info] using same
      exact ⟨rfl, (name_injective named.1).symm⟩
    · rintro ⟨-, rfl⟩
      exact ⟨version', rfl⟩
  | none =>
    rw [version] at spec
    refine ⟨?_, fun ⟨accepted, _⟩ => by cases accepted⟩
    rintro ⟨other, same⟩
    rcases spec with ⟨e, run⟩ | ⟨reason, run⟩
    · rw [run] at same
      cases same
    · rw [run] at same
      exact absurd (Except.ok.inj same) (installedResult_ne_refused s other reason)

/-- A slot that an installation does not report keeps its entry. -/
theorem slots_of_not_writes {m : Machine} {file : BundleFile} {s : Slot}
    (spared : ¬ Writes text digest m file s) :
    (m.step text digest (.install file)).info.slots s = m.info.slots s := by
  rw [writes_iff] at spared
  have spec := @install_spec text digest file m.update
  cases version : bundleVersion digest file with
  | some version' =>
    rw [version] at spec spared
    have other : s ≠ m.info.inactive := fun same => spared ⟨rfl, same⟩
    simp only [Machine.step, Machine.info, spec, placeBundle, UpdateInfo.setSlot]
    exact Function.update_of_ne other _ _
  | none =>
    rw [version] at spec
    rcases spec with ⟨e, run⟩ | ⟨reason, run⟩ <;> simp only [Machine.step, Machine.info, run]

/-- Installations spare the running slot exactly when no bundle is accepted between a
reboot into a new slot and its health report, nor between a health report or a rollback
that switches slots and the reboot. -/
theorem running_slot_spared_iff (text : PyText) (digest : PyVal → String) (events : List Event) :
    RunningSlotSpared text digest events ↔ Throughout (fun past e =>
      ∀ file, e = .install file → (bundleVersion digest file).isSome →
        phaseAfter (acts text digest {} past) = .settled ∨
          phaseAfter (acts text digest {} past) = .staged) events := by
  refine forall_congr' fun past => forall_congr' fun e => forall_congr' fun rest =>
    forall_congr' fun _ => forall_congr' fun file => forall_congr' fun _ => ?_
  rw [writes_iff, not_and, ← phase_after]
  exact forall_congr' fun _ => phaseOf_sparing _ _ _

/-- A signed bundle without a checksum. -/
def signedBundle (version : PyVal) : BundleFile :=
  .document (.dict [(.str "compatible", .str "droidos"), (.str "version", version),
    (.str "signature", .str "SIGNED")])

/-- A second bundle that arrives before the first one's health report goes into the slot
that the machine has just booted. -/
theorem running_slot_written : ¬ RunningSlotSpared .ascii (fun _ => "")
    [.install (signedBundle (.str "1.1.0")), .reboot, .install (signedBundle (.str "1.2.0"))] := by
  intro spared
  have second := spared [.install (signedBundle (.str "1.1.0")), .reboot]
    (.install (signedBundle (.str "1.2.0"))) [] rfl (signedBundle (.str "1.2.0")) rfl
  exact second ⟨.str "1.2.0", rfl⟩

/-! The active slot. -/

/-- The active slot's entry has a version, is healthy and holds the version that runs. -/
structure ActiveSound (i : UpdateInfo) : Prop where
  versioned : (i.slots i.activeSlot).version.truthy = true
  healthy : (i.slots i.activeSlot).healthy = true
  running : i.runningVersion = (i.slots i.activeSlot).version

/-- A step that leaves the active slot sound and, if it makes a slot active, with a pass
as that slot's last health report. -/
structure StepSound (text : PyText) (digest : PyVal → String) (m : Machine) (e : Event) : Prop where
  active : ActiveSound (m.step text digest e).info
  checked : (m.step text digest e).info.activeSlot ≠ m.info.activeSlot →
    (m.step text digest e).passed (m.step text digest e).info.activeSlot = true

/-- The active slot is sound in every state of the run, and no slot becomes active
without having passed its last health check. -/
structure SlotsSound (text : PyText) (digest : PyVal → String) (events : List Event) : Prop where
  start : ActiveSound (after text digest []).info
  steps : Throughout (fun past e => StepSound text digest (after text digest past) e) events

/-- What a step must find: a passing health report a slot with a version, a failing one
either an update that is not yet active or another slot that has passed and holds the
version that runs, a rollback no alternative or one that has passed. -/
def Expected (m : Machine) : Event → Prop
  | .confirmBootHealth true => (m.info.slots m.info.nextBoot).version.truthy = true
  | .confirmBootHealth false => m.info.nextBoot ≠ m.info.activeSlot ∨
      (m.passed m.info.nextBoot.other = true ∧
        m.info.runningVersion = (m.info.slots m.info.nextBoot.other).version)
  | .rollback => (m.info.slots m.info.inactive).version.truthy = false ∨
      m.passed m.info.inactive = true
  | _ => True

/-- What holds as long as every step finds what it must. -/
structure Good (m : Machine) : Prop where
  persisted : Persisted m.update
  active : ActiveSound m.info
  passed : ∀ s, m.passed s = true →
    (m.info.slots s).version.truthy = true ∧ (m.info.slots s).healthy = true

private theorem orElse_truthy {v : PyVal} (truthy : v.truthy = true) (default : PyVal) :
    v.orElse default = v := by
  simp [PyVal.orElse, truthy]

/-- An installation leaves the active slot, its entry and the version that runs alone. -/
private theorem install_keeps (m : Machine) (file : BundleFile) :
    (m.step text digest (.install file)).info.activeSlot = m.info.activeSlot ∧
    (m.step text digest (.install file)).info.runningVersion = m.info.runningVersion ∧
    (m.step text digest (.install file)).info.slots m.info.activeSlot = m.info.slots m.info.activeSlot := by
  have spared : ¬ Writes text digest m file m.info.activeSlot := by
    rw [writes_iff]
    rintro ⟨-, same⟩
    exact Slot.ne_other _ same
  refine ⟨?_, ?_, slots_of_not_writes spared⟩ <;>
  · have spec := @install_spec text digest file m.update
    simp only [Machine.step, Machine.info]
    cases version : bundleVersion digest file with
    | some version' =>
      rw [version] at spec
      rw [spec]
      rfl
    | none =>
      rw [version] at spec
      rcases spec with ⟨e, run⟩ | ⟨reason, run⟩ <;> rw [run]

private theorem activeSound_of_same {i i' : UpdateInfo} (sound : ActiveSound i)
    (active : i'.activeSlot = i.activeSlot) (running : i'.runningVersion = i.runningVersion)
    (entry : i'.slots i.activeSlot = i.slots i.activeSlot) : ActiveSound i' := by
  refine ⟨?_, ?_, ?_⟩
  · rw [active, entry]
    exact sound.versioned
  · rw [active, entry]
    exact sound.healthy
  · rw [active, running, entry]
    exact sound.running

private theorem sound_of_same {m : Machine} {e : Event} (good : Good m)
    (active : (m.step text digest e).info.activeSlot = m.info.activeSlot)
    (running : (m.step text digest e).info.runningVersion = m.info.runningVersion)
    (entry : (m.step text digest e).info.slots m.info.activeSlot = m.info.slots m.info.activeSlot) :
    StepSound text digest m e :=
  ⟨activeSound_of_same good.active active running entry, fun changed => absurd active changed⟩

private theorem passed_install {m : Machine} (good : Good m) (file : BundleFile) (s : Slot)
    (passed : (m.step text digest (.install file)).passed s = true) :
    ((m.step text digest (.install file)).info.slots s).version.truthy = true ∧
      ((m.step text digest (.install file)).info.slots s).healthy = true := by
  have spared : ¬ Writes text digest m file s ∧ m.passed s = true := by
    rw [writes_iff]
    simp only [Machine.step] at passed
    split at passed
    · rename_i accepted
      by_cases same : s = m.info.inactive
      · simp [same] at passed
      · rw [Function.update_of_ne same] at passed
        exact ⟨fun wrote => same wrote.2, passed⟩
    · rename_i refused
      exact ⟨fun wrote => refused wrote.1, passed⟩
  rw [slots_of_not_writes spared.1]
  exact good.passed s spared.2

/-- A passing report is sound exactly when the booted slot has a version. -/
private theorem good_accepted {m : Machine} (good : Good m) :
    (StepSound text digest m (.confirmBootHealth true) ↔ Expected m (.confirmBootHealth true)) ∧
      (Expected m (.confirmBootHealth true) →
        Good (m.step text digest (.confirmBootHealth true))) := by
  have entry : (m.step text digest (.confirmBootHealth true)).info.slots m.info.nextBoot =
      { m.info.slots m.info.nextBoot with healthy := true } := Function.update_self _ _ _
  have sound (versioned : Expected m (.confirmBootHealth true)) :
      ActiveSound (m.step text digest (.confirmBootHealth true)).info := by
    refine ⟨?_, ?_, ?_⟩
    · change ((m.step text digest (.confirmBootHealth true)).info.slots m.info.nextBoot).version.truthy = true
      rw [entry]
      exact versioned
    · change ((m.step text digest (.confirmBootHealth true)).info.slots m.info.nextBoot).healthy = true
      rw [entry]
    · change (m.info.slots m.info.nextBoot).version.orElse builtinVersion =
        ((m.step text digest (.confirmBootHealth true)).info.slots m.info.nextBoot).version
      rw [entry]
      exact orElse_truthy versioned _
  refine ⟨⟨fun step => ?_, fun versioned => ⟨sound versioned, fun _ => ?_⟩⟩, fun versioned => ?_⟩
  · have versioned := step.active.versioned
    change ((m.step text digest (.confirmBootHealth true)).info.slots m.info.nextBoot).version.truthy = true
      at versioned
    rw [entry] at versioned
    exact versioned
  · exact Function.update_self _ _ _
  · refine ⟨rfl, sound versioned, fun s passed => ?_⟩
    by_cases same : s = m.info.nextBoot
    · rw [same, entry]
      exact ⟨versioned, rfl⟩
    · have others : (m.step text digest (.confirmBootHealth true)).info.slots s = m.info.slots s :=
        Function.update_of_ne same _ _
      have before : (m.step text digest (.confirmBootHealth true)).passed s = m.passed s :=
        Function.update_of_ne same _ _
      rw [others]
      exact good.passed s (before ▸ passed)

/-- A failing report is sound exactly when the slot that was not booted is the active
one or may become it. -/
private theorem good_reverted {m : Machine} (good : Good m) :
    (StepSound text digest m (.confirmBootHealth false) ↔ Expected m (.confirmBootHealth false)) ∧
      (Expected m (.confirmBootHealth false) →
        Good (m.step text digest (.confirmBootHealth false))) := by
  have others : (m.step text digest (.confirmBootHealth false)).passed m.info.nextBoot.other =
      m.passed m.info.nextBoot.other := Function.update_of_ne (Slot.other_ne _) _ _
  have sound (expected : Expected m (.confirmBootHealth false)) :
      StepSound text digest m (.confirmBootHealth false) := by
    by_cases active : m.info.nextBoot = m.info.activeSlot
    · obtain ⟨passed, version⟩ := expected.resolve_left fun ne => ne active
      obtain ⟨versioned, healthy⟩ := good.passed _ passed
      refine ⟨⟨versioned, healthy, version⟩, fun _ => ?_⟩
      exact others.trans passed
    · have same : m.info.nextBoot.other = m.info.activeSlot :=
        (Slot.ne_iff.mp (Ne.symm active)).symm
      exact sound_of_same good same rfl rfl
  refine ⟨⟨fun step => ?_, sound⟩, fun expected => ⟨rfl, (sound expected).active, fun s passed => ?_⟩⟩
  · by_cases active : m.info.nextBoot = m.info.activeSlot
    · refine Or.inr ⟨others.symm.trans (step.checked ?_), step.active.running⟩
      change m.info.nextBoot.other ≠ m.info.activeSlot
      rw [active]
      exact Slot.other_ne _
    · exact Or.inl active
  · refine good.passed s ?_
    by_cases same : s = m.info.nextBoot
    · rw [same] at passed
      rw [show (m.step text digest (.confirmBootHealth false)).passed m.info.nextBoot = false from
        Function.update_self _ _ _] at passed
      cases passed
    · have before : (m.step text digest (.confirmBootHealth false)).passed s = m.passed s :=
        Function.update_of_ne same _ _
      exact before ▸ passed

/-- A rollback is sound exactly when it is refused or the other slot may become active. -/
private theorem good_rollback {m : Machine} (good : Good m) :
    (StepSound text digest m .rollback ↔ Expected m .rollback) ∧
      (Expected m .rollback → Good (m.step text digest .rollback)) := by
  cases alternative : (m.info.slots m.info.inactive).version.truthy with
  | false =>
    have same : m.step text digest .rollback = m := by
      simp only [Machine.step, rollback_refused alternative]
    refine ⟨⟨fun _ => Or.inl alternative, fun _ => ?_⟩, fun _ => ?_⟩
    · exact sound_of_same good (by rw [same]) (by rw [same]) (by rw [same])
    · rw [same]
      exact good
  | true =>
    have run : m.step text digest .rollback = { m with
        update := { uinfo := switchBack m.info, file := some (switchBack m.info) } } := by
      simp only [Machine.step, rollback_taken alternative]
      rfl
    have sound (expected : Expected m .rollback) : StepSound text digest m .rollback := by
      have passed := expected.resolve_left fun absent => by simp [alternative] at absent
      obtain ⟨versioned, healthy⟩ := good.passed _ passed
      constructor
      · rw [run]
        exact ⟨versioned, healthy, rfl⟩
      · rw [run]
        exact fun _ => passed
    refine ⟨⟨fun step => Or.inr ?_, sound⟩, fun expected => ⟨?_, (sound expected).active, ?_⟩⟩
    · have checked := step.checked
      rw [run] at checked
      exact checked (Slot.other_ne _)
    · rw [run]
      rfl
    · rw [run]
      exact good.passed

/-- A step from a good machine is sound exactly when it finds what it must, and then it
ends in a good machine. -/
private theorem good_step {m : Machine} (good : Good m) (e : Event) :
    (StepSound text digest m e ↔ Expected m e) ∧ (Expected m e → Good (m.step text digest e)) := by
  cases e with
  | install file =>
    obtain ⟨active, running, entry⟩ := @install_keeps text digest m file
    have sound : StepSound text digest m (.install file) := sound_of_same good active running entry
    refine ⟨iff_of_true sound trivial, fun _ => ⟨?_, sound.active, passed_install good file⟩⟩
    exact persisted_step good.persisted (.install file)
  | confirmBootHealth healthy =>
    cases healthy with
    | true => exact good_accepted good
    | false => exact good_reverted good
  | rollback => exact good_rollback good
  | reboot =>
    have info : (m.step text digest .reboot).update = m.update := load_of_persisted good.persisted
    have sound : StepSound text digest m .reboot := by
      refine sound_of_same good ?_ ?_ ?_ <;> simp only [Machine.info, info]
    refine ⟨iff_of_true sound trivial, fun _ => ⟨?_, sound.active, ?_⟩⟩
    · rw [info]
      exact good.persisted
    · simp only [Machine.info, info]
      exact good.passed

private theorem good_start : Good (after text digest []) := by
  refine ⟨rfl, ⟨rfl, rfl, rfl⟩, fun s passed => ?_⟩
  cases s with
  | a => exact ⟨rfl, rfl⟩
  | b => cases passed

/-- Over every run the active slot stays sound and only checked slots become active
exactly when every health report and every rollback finds what it must. -/
theorem slots_sound_iff (text : PyText) (digest : PyVal → String) (events : List Event) :
    SlotsSound text digest events ↔
      Throughout (fun past e => Expected (after text digest past) e) events := by
  have agree : Throughout (fun past e => StepSound text digest (after text digest past) e) events ↔
      Throughout (fun past e => Expected (after text digest past) e) events := by
    refine throughout_iff (I := fun past => Good (after text digest past)) good_start ?_ ?_ events
    · intro past e good expected
      rw [after_snoc]
      exact (good_step good e).2 expected
    · exact fun past e good => (good_step good e).1
  rw [← agree]
  exact ⟨SlotsSound.steps, fun steps => ⟨good_start.active, steps⟩⟩

/-- A failed boot is reported while no update is pending, and the empty slot becomes active. -/
theorem empty_slot_activated : ¬ SlotsSound .ascii (fun _ => "") [.confirmBootHealth false] := by
  intro sound
  have versioned := (sound.steps [] (.confirmBootHealth false) [] rfl).active.versioned
  cases versioned

/-! A failed update. -/

/-- The record after a failed update, beside the record before it. -/
structure Restored (before after : UpdateInfo) : Prop where
  activeSlot : after.activeSlot = before.activeSlot
  runningVersion : after.runningVersion = before.runningVersion
  entry : after.slots before.activeSlot = before.slots before.activeSlot
  nextBoot : after.nextBoot = after.activeSlot
  failed : (after.slots before.inactive).healthy = false

/-- The two slots are each other's other slot, so leaving the booted one finds the slot
that was active, whatever was next to boot before the installation. -/
private theorem restored_revertBoot (text : PyText) (version : PyVal) (i : UpdateInfo) :
    Restored i (revertBoot (placeBundle text version i)) := by
  have back : i.inactive.other = i.activeSlot := Slot.other_other i.activeSlot
  constructor
  · exact back
  · rfl
  · exact Function.update_of_ne (Slot.ne_other i.activeSlot) _ _
  · rfl
  · exact congrArg SlotEntry.healthy (Function.update_self i.inactive _ i.slots)

/-- After any run, installing a bundle that verifies and then reporting a failed boot
gives the record from before the installation, apart from the failed slot. -/
theorem failed_update_restored (text : PyText) (digest : PyVal → String) (events : List Event)
    (file : BundleFile) (doc : PyVal) (reason : String)
    (verified : verifyBundle digest file = .ok (true, doc, reason)) :
    ∃ version after', (Update.install text digest file >>= fun installed => do
        return (installed, ← Update.confirmBootHealth false)) (after text digest events).update =
      (.ok (installedResult (after text digest events).info.inactive version,
        [(.str "ok", .bool false),
          (.str "rolled_back_to", .str (after text digest events).info.activeSlot.name)]), after') ∧
      Restored (after text digest events).info after'.uinfo := by
  obtain ⟨version, carried⟩ := bundleVersion_of_verified verified
  have run := @install_spec text digest file (after text digest events).update
  rw [carried] at run
  have back : (after text digest events).info.inactive.other =
      (after text digest events).info.activeSlot := Slot.other_other _
  let restored := revertBoot (placeBundle text version (after text digest events).info)
  refine ⟨version, { uinfo := restored, file := some restored }, ?_, restored_revertBoot text version _⟩
  rw [← back]
  simp only [bind_run, run]
  rfl

/-- A signed bundle is installed right after a health report, and its boot fails. -/
theorem failed_update_restored_signed :
    ∃ version after', (Update.install .ascii (fun _ => "") (signedBundle (.str "1.1.0")) >>=
        fun installed => do return (installed, ← Update.confirmBootHealth false))
        (after .ascii (fun _ => "") [.confirmBootHealth true]).update =
      (.ok (installedResult .b version,
        [(.str "ok", .bool false), (.str "rolled_back_to", .str "A")]), after') ∧
      Restored (after .ascii (fun _ => "") [.confirmBootHealth true]).info after'.uinfo :=
  failed_update_restored .ascii (fun _ => "") [.confirmBootHealth true] (signedBundle (.str "1.1.0"))
    _ "verified" rfl

end DroidOs.Services.UpdateSlots
