/- GID: DroidOs/Services/HookLaw
   generality: G
   digest: What every hook of the services keeps, their lifecycle transitions keep. -/

import DroidOs.Services.Lifecycle

set_option autoImplicit false
set_option relaxedAutoImplicit false

namespace DroidOs.Services.HookLaw

open DroidOs.Lib.Procedure
open DroidOs.Core.Values
open Lifecycle

variable {ρ : Type} {I : ρ → Prop} {s : ManagedService ρ} {m : Managed ρ}

/-- Every hook of a service keeps the invariant of the shared context. -/
def KeepsHooks (I : ρ → Prop) (s : ManagedService ρ) : Prop := ∀ h, Keeps I (s.hook h)

private theorem guardHook_holds {h : Hook} (keeps : Keeps I (s.hook h)) (holds : I m.rt) :
    I (guardHook s h m).2.rt := by
  obtain ⟨ok, error, run⟩ := guardHook_eq s h m
  rw [run]
  exact Keeps.after keeps holds

private theorem guardTo_holds {h : Hook} (keeps : Keeps I (s.hook h)) (st : LifecycleState)
    (holds : I m.rt) : I (guardTo s h st m).2.rt := by
  have ended := guardHook_holds keeps holds
  unfold guardTo
  rcases run : guardHook s h m with ⟨_ | _, m'⟩ <;> rw [run] at ended <;> exact ended

private theorem configure_holds (hooks : KeepsHooks I s) (holds : I m.rt) :
    I (configure s m).2.rt := by
  unfold configure
  split
  · exact guardTo_holds (hooks _) _ holds
  · exact holds

theorem activate_holds (hooks : KeepsHooks I s) (holds : I m.rt) : I (activate s m).2.rt := by
  unfold activate
  split
  · exact holds
  split
  · exact guardTo_holds (hooks _) _ holds
  have configured := configure_holds hooks holds
  rcases run : configure s m with ⟨_ | _, m'⟩ <;> rw [run] at configured
  · exact configured
  · exact guardTo_holds (hooks _) _ configured

theorem deactivate_holds (keeps : Keeps I (s.hook .onDeactivate)) (holds : I m.rt) :
    I (deactivate s m).2.rt := by
  unfold deactivate
  split
  · exact guardTo_holds keeps _ holds
  · exact holds

/-- A service that was never configured: what its first hook ends in, the second has to keep. -/
theorem activate_fresh_holds (fresh : m.state s.name = .unconfigured) {rt : ρ}
    (configured : s.hook .onConfigure m.rt = (.ok true, rt)) (holds : I rt)
    (keeps : Keeps I (s.hook .onActivate)) : I (activate s m).2.rt := by
  have first : (configure s m).1 = true ∧ (configure s m).2.rt = rt := by
    simp [configure, fresh, guardTo, guardHook, runHook, configured]
  have activated (m' : Managed ρ) (holds : I m'.rt) : I (guardTo s .onActivate .active m').2.rt := by
    have ended := Keeps.after keeps holds
    obtain ⟨ok, error, run⟩ := guardHook_eq s .onActivate m'
    unfold guardTo
    rw [run]
    cases ok <;> exact ended
  unfold activate
  rw [if_neg (by simp [fresh]), if_neg (by simp [fresh])]
  rcases run : configure s m with ⟨_ | _, m'⟩ <;> rw [run] at first
  · exact absurd first.1 (by simp)
  · exact activated m' (first.2 ▸ holds)

/-- What is in between may be less, if the second hook makes up for it. -/
theorem activate_ends {J : ρ → Prop} (less : ∀ rt, I rt → J rt)
    (configures : Triple I (s.hook .onConfigure) (fun ok rt => J rt ∧ (ok = false → I rt)) fun _ => I)
    (activates : ∀ rt, J rt → I (s.hook .onActivate rt).2) (holds : I m.rt) :
    I (activate s m).2.rt := by
  have activated (m' : Managed ρ) (between : J m'.rt) : I (guardTo s .onActivate .active m').2.rt := by
    obtain ⟨ok, error, run⟩ := guardHook_eq s .onActivate m'
    unfold guardTo
    rw [run]
    cases ok <;> exact activates m'.rt between
  have configured : J (configure s m).2.rt ∧ ((configure s m).1 = false → I (configure s m).2.rt) := by
    unfold configure
    split
    · have ends := configures m.rt holds
      unfold guardTo guardHook runHook
      rcases run : s.hook .onConfigure m.rt with ⟨e | ok, rt⟩ <;> rw [run] at ends
      · exact ⟨less rt ends, fun _ => ends⟩
      · cases ok
        · exact ⟨ends.1, fun _ => ends.2 rfl⟩
        · exact ⟨ends.1, fun failed => by cases failed⟩
    · exact ⟨less m.rt holds, fun _ => holds⟩
  unfold activate
  split
  · exact holds
  split
  · exact activated m (less m.rt holds)
  rcases run : configure s m with ⟨_ | _, m'⟩ <;> rw [run] at configured
  · exact configured.2 rfl
  · exact activated m' configured.1

private theorem guardTo_other (s : ManagedService ρ) (h : Hook) (st : LifecycleState) (m : Managed ρ) {name : String}
    (other : name ≠ s.name) : (guardTo s h st m).2.state name = m.state name := by
  obtain ⟨ok, error, run⟩ := guardHook_eq s h m
  unfold guardTo
  rw [run]
  cases ok with
  | false => simp [Managed.state, Managed.setRecord, Function.update_of_ne other]
  | true =>
    rw [Managed.setState_state, if_neg other]
    simp [Managed.state, Managed.setRecord, Function.update_of_ne other]

/-- An activation changes no other service's state. -/
theorem activate_other (s : ManagedService ρ) (m : Managed ρ) {name : String} (other : name ≠ s.name) :
    (activate s m).2.state name = m.state name := by
  have configured : (configure s m).2.state name = m.state name := by
    unfold configure
    split
    · exact guardTo_other s _ _ m other
    · rfl
  unfold activate
  split
  · rfl
  split
  · exact guardTo_other s _ _ m other
  rcases run : configure s m with ⟨_ | _, m'⟩ <;> rw [run] at configured
  · exact configured
  · exact (guardTo_other s _ _ m' other).trans configured

/-- Nor does a deactivation. -/
theorem deactivate_other (s : ManagedService ρ) (m : Managed ρ) {name : String} (other : name ≠ s.name) :
    (deactivate s m).2.state name = m.state name := by
  unfold deactivate
  split
  · exact guardTo_other s _ _ m other
  · rfl

/-- Nor does a restart. -/
theorem restart_other (s : ManagedService ρ) (m : Managed ρ) {name : String} (other : name ≠ s.name) :
    (restart s m).2.state name = m.state name := by
  have counted : (m.setRecord s.name fun r => { r with restartCount := r.restartCount + 1 }).state name =
      m.state name := by
    simp [Managed.state, Managed.setRecord, Function.update_of_ne other]
  have cleaned (m : Managed ρ) : (cleanup s m).2.state name = m.state name := by
    obtain ⟨ok, error, run⟩ := guardHook_eq s .onCleanup m
    rw [cleanup, Managed.setState_state, if_neg other, run]
    simp [Managed.state, Managed.setRecord, Function.update_of_ne other]
  rw [restart, activate_other s _ other, cleaned, counted]

theorem restart_holds (hooks : KeepsHooks I s) (holds : I m.rt) : I (restart s m).2.rt :=
  activate_holds hooks (guardHook_holds (m := m.setRecord s.name _) (hooks .onCleanup) holds)

/-- A shutdown runs two hooks only. -/
theorem keeps_shutdown (deactivates : Keeps I (s.hook .onDeactivate))
    (cleans : Keeps I (s.hook .onCleanup)) : Keeps (fun m : Managed ρ => I m.rt) (shutdown s) := by
  rw [keeps_iff]
  exact fun m holds => Keeps.after cleans (deactivate_holds deactivates holds)

/-- A service with the default cleanup hook shuts down without raising. -/
theorem shutdown_returns (plain : s.hook .onCleanup = pure true) (m : Managed ρ) :
    (shutdown s m).1 = .ok () := by
  simp [shutdown, runHook, plain, Except.map]

/-- A shutdown ends the service and changes no other one's state, however it ends. -/
theorem shutdown_state (s : ManagedService ρ) (m : Managed ρ) (name : String) :
    (shutdown s m).2.state name = if name = s.name then .finalized else m.state name := by
  rw [shutdown, Managed.setState_state]
  split
  · rfl
  · next other => exact deactivate_other s m other

/-- Services with the default cleanup hook are all shut down. -/
theorem shutdown_each {services : List (ManagedService ρ)}
    (plain : ∀ s ∈ services, s.hook .onCleanup = pure true) (m : Managed ρ) {name : String}
    (listed : m.state name = .finalized ∨ ∃ s ∈ services, s.name = name) :
    (forEach services shutdown m).2.state name = .finalized := by
  induction services generalizing m with
  | nil =>
    rcases listed with ended | ⟨s, member, _⟩
    · exact ended
    · cases member
  | cons s services ih =>
    have returns := shutdown_returns (plain s List.mem_cons_self) m
    have state := shutdown_state s m name
    rcases run : shutdown s m with ⟨e | _, m'⟩ <;> rw [run] at returns state
    · cases returns
    rw [forEach, bind_ok run]
    refine ih (fun s' member => plain s' (List.mem_cons_of_mem s member)) m' ?_
    change m'.state name = _ at state
    rw [state]
    rcases listed with ended | ⟨s', member, named⟩
    · left
      rw [ended]
      split <;> rfl
    · rcases List.mem_cons.mp member with rfl | later
      · exact .inl (if_pos named.symm)
      · exact .inr ⟨s', later, named⟩

variable {reg : Registry ρ}

private theorem activateDepth_keeps {J : Managed ρ → Prop}
    (each : ∀ s ∈ reg.services, ∀ m, J m → J (activate s m).2) (depth : Nat) :
    ∀ s ∈ reg.services, ∀ m : Managed ρ, J m → J (activateDepth reg depth s m).2 := by
  induction depth with
  | zero => exact each
  | succ depth ih =>
    intro s member m holds
    refine each s member _ ?_
    have deps (names : List String) (m : Managed ρ) (holds : J m) :
        J (names.foldl (ifRegistered reg fun d m => (activateDepth reg depth d m).2) m) := by
      induction names generalizing m with
      | nil => exact holds
      | cons name names rest =>
        refine rest _ ?_
        unfold ifRegistered
        split
        · next d found => exact ih d (Registry.find_some found).1 m holds
        · exact holds
    exact deps s.requires m holds

/-- What every activation keeps, the activation of a service with its dependencies keeps. -/
theorem activateWithDeps_keeps {J : Managed ρ → Prop}
    (each : ∀ s ∈ reg.services, ∀ m, J m → J (activate s m).2) (member : s ∈ reg.services) (holds : J m) :
    J (activateWithDeps reg s m).2 :=
  activateDepth_keeps each _ s member m holds

theorem activateWithDeps_holds (all : ∀ s ∈ reg.services, KeepsHooks I s) (member : s ∈ reg.services)
    (holds : I m.rt) : I (activateWithDeps reg s m).2.rt :=
  activateWithDeps_keeps (J := fun m => I m.rt) (fun s member _ holds => activate_holds (all s member) holds)
    member holds

end DroidOs.Services.HookLaw
