/- GID: DroidOs/Services/Attempts
   generality: G
   digest: How far a service gets when it is activated again and again, as a dependency of others. -/

import DroidOs.Services.HookLaw

set_option autoImplicit false
set_option relaxedAutoImplicit false

namespace DroidOs.Services.Attempts

open DroidOs.Lib.Procedure
open DroidOs.Core.Values
open Lifecycle

/-! One service. -/

/-- How far a service has got, and how often its two starting hooks have been called. -/
structure Progress where
  state : LifecycleState := .unconfigured
  configures : Nat := 0
  activates : Nat := 0

section

/- Which calls of its hooks succeed. -/
variable (works : Hook → Nat → Bool)

/-- The activating hook has been called. -/
def Progress.enter (p : Progress) : Progress :=
  { p with
    state := if works .onActivate p.activates then .active else p.state
    activates := p.activates + 1 }

/-- One attempt to activate the service. -/
def Progress.attempt (p : Progress) : Progress :=
  match p.state with
  | .active | .finalized => p
  | .inactive => p.enter works
  | .unconfigured =>
    if works .onConfigure p.configures then
      Progress.enter works { p with state := .inactive, configures := p.configures + 1 }
    else { p with configures := p.configures + 1 }

/-- How far the service is after so many attempts. -/
def progress (n : Nat) : Progress := (Progress.attempt works)^[n] {}

/-- The service is active after so many attempts. -/
def ComesUp (n : Nat) : Prop := (progress works n).state = .active

instance (n : Nat) : Decidable (ComesUp works n) := inferInstanceAs (Decidable (_ = _))

theorem progress_succ (n : Nat) : progress works (n + 1) = (progress works n).attempt works :=
  Function.iterate_succ_apply' (Progress.attempt works) n {}

variable {works}

/-- What a service that is configured once has behind it: a configuration that succeeded. -/
theorem progress_configured (n : Nat) (configured : (progress works n).state ≠ .unconfigured) :
    ∃ k < (progress works n).configures, works .onConfigure k = true := by
  induction n with
  | zero => exact absurd rfl configured
  | succ n ih =>
    rw [progress_succ] at configured ⊢
    generalize progress works n = p at ih configured ⊢
    obtain ⟨state, configures, activates⟩ := p
    cases state with
    | unconfigured =>
      cases succeeds : works .onConfigure configures with
      | false =>
        refine absurd ?_ configured
        simp [Progress.attempt, succeeds]
      | true =>
        refine ⟨configures, ?_, succeeds⟩
        simp [Progress.attempt, Progress.enter, succeeds]
    | inactive => exact ih (by simp)
    | active => exact ih (by simp)
    | finalized => exact ih (by simp)

end

/-! The services of a registry. -/

variable {ρ : Type} (tries : ρ → String → Hook → Nat) (works : String → Hook → Nat → Bool)
  (names : List String) (I : ρ → Prop)

/-- Whether a hook succeeded. -/
def succeeded : Except Exn Bool → Bool
  | .ok b => b
  | .error _ => false

/-- The count with one more call. -/
def counted (count : String → Hook → Nat) (name : String) (h : Hook) : String → Hook → Nat :=
  Function.update count name (Function.update (count name) h (count name h + 1))

/-- Each hook of the service keeps the invariant, is counted and, if the service is one of those
named, succeeds as foreseen. -/
def Counts (s : ManagedService ρ) : Prop := ∀ h rt, I rt →
  I (s.hook h rt).2 ∧ tries (s.hook h rt).2 = counted (tries rt) s.name h ∧
    (s.name ∈ names → succeeded (s.hook h rt).1 = works s.name h (tries rt s.name h))

/-- How far a service has got in a run. -/
def tally (m : Managed ρ) (name : String) : Progress :=
  ⟨m.state name, tries m.rt name .onConfigure, tries m.rt name .onActivate⟩

/-- Those named are where so many attempts bring them. -/
structure Tallied (attempts : List String) (m : Managed ρ) : Prop where
  holds : I m.rt
  tally : ∀ name ∈ names, tally tries m name = progress (works name) (attempts.count name)

variable {tries works names I} {s : ManagedService ρ} {m : Managed ρ}

/-- What a guarded hook leaves. -/
private theorem guardTo_tally (counts : Counts tries works names I s) (h : Hook) (st : LifecycleState)
    (holds : I m.rt) :
    I (guardTo s h st m).2.rt ∧ tries (guardTo s h st m).2.rt = counted (tries m.rt) s.name h ∧
      (∀ name, (guardTo s h st m).2.state name =
        if name = s.name ∧ (guardTo s h st m).1 = true then st else m.state name) ∧
      (s.name ∈ names → (guardTo s h st m).1 = works s.name h (tries m.rt s.name h)) := by
  obtain ⟨kept, counted, foreseen⟩ := counts h m.rt holds
  have same (name : String) (m' : Managed ρ) (error : String) :
      (m'.setRecord s.name fun r => { r with lastError := error }).state name = m'.state name := by
    by_cases own : name = s.name
    · rw [own]
      simp [Managed.state, Managed.setRecord]
    · simp [Managed.state, Managed.setRecord, Function.update_of_ne own]
  unfold guardTo guardHook runHook
  rcases run : s.hook h m.rt with ⟨e | ok, rt⟩ <;> rw [run] at kept counted foreseen
  · refine ⟨kept, counted, fun name => ?_, foreseen⟩
    rw [if_neg (by simp)]
    exact same name _ _
  · cases ok with
    | false =>
      refine ⟨kept, counted, fun name => ?_, foreseen⟩
      rw [if_neg (by simp)]
      exact same name _ _
    | true =>
      refine ⟨kept, counted, fun name => ?_, foreseen⟩
      dsimp only
      rw [Managed.setState_state]
      by_cases own : name = s.name
      · simp [own]
      · rw [if_neg own, if_neg fun both => own both.1]
        exact same name _ _

/-- The tally of a service that a guarded hook was not called for. -/
private theorem guardTo_others (counts : Counts tries works names I s) (h : Hook) (st : LifecycleState)
    (holds : I m.rt) {name : String} (other : name ≠ s.name) :
    tally tries (guardTo s h st m).2 name = tally tries m name := by
  obtain ⟨-, noted, states, -⟩ := guardTo_tally counts h st holds
  rw [tally, tally, noted, states, if_neg fun both => other both.1, counted, Function.update_of_ne other]

/-- Calling the activating hook. -/
private theorem guardTo_enter (counts : Counts tries works names I s) (holds : I m.rt) (listed : s.name ∈ names) :
    tally tries (guardTo s .onActivate .active m).2 s.name = (tally tries m s.name).enter (works s.name) ∧
      (guardTo s .onActivate .active m).1 = works s.name .onActivate (tries m.rt s.name .onActivate) := by
  obtain ⟨-, noted, states, foreseen⟩ := guardTo_tally counts .onActivate .active holds
  refine ⟨?_, foreseen listed⟩
  rw [tally, noted, states, foreseen listed]
  cases succeeds : works s.name .onActivate (tries m.rt s.name .onActivate) <;>
    simp [counted, Progress.enter, tally, succeeds]

/-- An activation is one attempt of the service and none of the others. -/
private theorem activate_step (counts : Counts tries works names I s) (holds : I m.rt) :
    I (activate s m).2.rt ∧
      (∀ name ≠ s.name, tally tries (activate s m).2 name = tally tries m name) ∧
      (s.name ∈ names → tally tries (activate s m).2 s.name = (tally tries m s.name).attempt (works s.name) ∧
        (activate s m).1 = decide (((tally tries m s.name).attempt (works s.name)).state = .active)) := by
  -- Calling the activating hook in a state that is not active.
  have entered (m : Managed ρ) (holds : I m.rt) (down : m.state s.name ≠ .active) :
      I (guardTo s .onActivate .active m).2.rt ∧
      (∀ name ≠ s.name, tally tries (guardTo s .onActivate .active m).2 name = tally tries m name) ∧
      (s.name ∈ names → tally tries (guardTo s .onActivate .active m).2 s.name =
          (tally tries m s.name).enter (works s.name) ∧
        (guardTo s .onActivate .active m).1 =
          decide (((tally tries m s.name).enter (works s.name)).state = .active)) := by
    refine ⟨(guardTo_tally counts _ _ holds).1, fun name other => guardTo_others counts _ _ holds other, ?_⟩
    intro listed
    obtain ⟨reached, answer⟩ := guardTo_enter counts holds listed
    refine ⟨reached, ?_⟩
    rw [answer]
    cases succeeds : works s.name .onActivate (tries m.rt s.name .onActivate) <;>
      simp [Progress.enter, tally, succeeds, down]
  cases state : m.state s.name with
  | active =>
    have ran : activate s m = (true, m) := by rw [activate, if_pos state]
    rw [ran]
    refine ⟨holds, fun _ _ => rfl, fun _ => ?_⟩
    simp [Progress.attempt, tally, state]
  | inactive =>
    have ran : activate s m = guardTo s .onActivate .active m := by
      rw [activate, if_neg (by simp [state]), if_pos state]
    rw [ran]
    obtain ⟨kept, others, own⟩ := entered m holds (by simp [state])
    refine ⟨kept, others, fun listed => ?_⟩
    have next : (tally tries m s.name).attempt (works s.name) = (tally tries m s.name).enter (works s.name) := by
      simp [Progress.attempt, tally, state]
    rw [next]
    exact own listed
  | finalized =>
    have ran : activate s m = (false, m) := by simp [activate, configure, state]
    rw [ran]
    refine ⟨holds, fun _ _ => rfl, fun _ => ?_⟩
    simp [Progress.attempt, tally, state]
  | unconfigured =>
    obtain ⟨kept, noted, states, foreseen⟩ := guardTo_tally counts .onConfigure .inactive holds
    have others (name : String) (other : name ≠ s.name) :
        tally tries (guardTo s .onConfigure .inactive m).2 name = tally tries m name :=
      guardTo_others counts _ _ holds other
    unfold activate
    rw [if_neg (by simp [state]), if_neg (by simp [state]), configure, if_pos (.inl state)]
    rcases configured : guardTo s .onConfigure .inactive m with ⟨_ | _, m'⟩ <;>
      rw [configured] at kept noted states foreseen others
    · refine ⟨kept, others, fun listed => ?_⟩
      have fails : works s.name .onConfigure (tries m.rt s.name .onConfigure) = false := (foreseen listed).symm
      have stays : m'.state s.name = .unconfigured := by simpa [state] using states s.name
      have calls : tries m'.rt = counted (tries m.rt) s.name .onConfigure := noted
      simp [Progress.attempt, tally, state, fails, stays, calls, counted]
    · have succeeds (listed : s.name ∈ names) :
          works s.name .onConfigure (tries m.rt s.name .onConfigure) = true := (foreseen listed).symm
      have moves : m'.state s.name = .inactive := by simpa using states s.name
      have calls : tries m'.rt = counted (tries m.rt) s.name .onConfigure := noted
      obtain ⟨kept', others', own⟩ := entered m' kept (by simp [moves])
      refine ⟨kept', fun name other => (others' name other).trans (others name other), fun listed => ?_⟩
      have between : tally tries m' s.name = { tally tries m s.name with
          state := .inactive, configures := (tally tries m s.name).configures + 1 } := by
        simp [tally, moves, calls, counted]
      have next : (tally tries m s.name).attempt (works s.name) =
          (tally tries m' s.name).enter (works s.name) := by
        rw [between]
        simp [Progress.attempt, tally, state, succeeds listed]
      rw [next]
      exact own listed

/-- The tallies after one more attempt. -/
theorem activate_tallied (counts : Counts tries works names I s) {attempts : List String}
    (tallied : Tallied tries works names I attempts m) :
    Tallied tries works names I (attempts ++ [s.name]) (activate s m).2 ∧
      (s.name ∈ names → (activate s m).1 =
        decide (ComesUp (works s.name) (attempts.count s.name + 1))) := by
  obtain ⟨kept, others, own⟩ := activate_step counts tallied.holds
  refine ⟨⟨kept, fun name listed => ?_⟩, fun listed => ?_⟩
  · by_cases same : name = s.name
    · rw [same] at listed ⊢
      rw [(own listed).1, tallied.tally s.name listed, ← progress_succ]
      simp
    · rw [others name same, tallied.tally name listed]
      simp [Ne.symm same]
  · rw [(own listed).2, tallied.tally s.name listed, ← progress_succ]
    rfl

/-! Activation with its dependencies. -/

variable (reg : Registry ρ)

/-- The services that an activation to a given depth attempts, in order. -/
def attemptsDepth : Nat → ManagedService ρ → List String
  | 0, s => [s.name]
  | depth + 1, s =>
    (s.requires.flatMap fun dep => ((reg.find dep).map (attemptsDepth depth)).getD []) ++ [s.name]

/-- The services that `_activate_with_deps` attempts, in order. -/
def attemptsFor (s : ManagedService ρ) : List String := attemptsDepth reg reg.services.length s

variable {reg}

private theorem activateDepth_tallied (all : ∀ s ∈ reg.services, Counts tries works names I s) (depth : Nat) :
    ∀ s ∈ reg.services, ∀ (attempts : List String) (m : Managed ρ), Tallied tries works names I attempts m →
      Tallied tries works names I (attempts ++ attemptsDepth reg depth s) (activateDepth reg depth s m).2 ∧
        (s.name ∈ names → (activateDepth reg depth s m).1 = decide (ComesUp (works s.name)
          ((attempts ++ attemptsDepth reg depth s).count s.name))) := by
  induction depth with
  | zero =>
    intro s member attempts m tallied
    obtain ⟨next, answer⟩ := activate_tallied (all s member) tallied
    refine ⟨next, fun listed => ?_⟩
    rw [attemptsDepth, List.count_append, List.count_singleton_self]
    exact answer listed
  | succ depth ih =>
    intro s member attempts m tallied
    have deps (required : List String) (attempts : List String) (m : Managed ρ)
        (tallied : Tallied tries works names I attempts m) :
        Tallied tries works names I
          (attempts ++ required.flatMap fun dep => ((reg.find dep).map (attemptsDepth reg depth)).getD [])
          (required.foldl (ifRegistered reg fun d m => (activateDepth reg depth d m).2) m) := by
      induction required generalizing attempts m with
      | nil =>
        rw [List.flatMap_nil, List.append_nil]
        exact tallied
      | cons dep required rest =>
        rw [List.flatMap_cons, ← List.append_assoc, List.foldl_cons]
        apply rest
        unfold ifRegistered
        cases found : reg.find dep with
        | none =>
          rw [Option.map_none, Option.getD_none, List.append_nil]
          exact tallied
        | some d => exact (ih d (Registry.find_some found).1 attempts m tallied).1
    obtain ⟨next, answer⟩ := activate_tallied (all s member) (deps s.requires attempts m tallied)
    rw [attemptsDepth, ← List.append_assoc]
    have last (done : List String) : (done ++ [s.name]).count s.name = done.count s.name + 1 := by simp
    refine ⟨next, fun listed => ?_⟩
    rw [last]
    exact answer listed

/-- The activation of a service with its dependencies makes the attempts listed, and answers
whether the service is up after them. -/
theorem activateWithDeps_tallied (all : ∀ s ∈ reg.services, Counts tries works names I s) (member : s ∈ reg.services)
    {attempts : List String} (tallied : Tallied tries works names I attempts m) :
    Tallied tries works names I (attempts ++ attemptsFor reg s) (activateWithDeps reg s m).2 ∧
      (s.name ∈ names → (activateWithDeps reg s m).1 = decide (ComesUp (works s.name)
        ((attempts ++ attemptsFor reg s).count s.name))) :=
  activateDepth_tallied all _ s member attempts m tallied

end DroidOs.Services.Attempts
