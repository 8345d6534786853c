/- GID: DroidOs/System/HookFailures
   generality: I
   source: src/droidos/system.py, src/droidos/services/lifecycle.py, src/droidos/backends/base.py
   digest: A droid about to boot over one of its backends, with service hooks that may fail. -/

import DroidOs.Services.Attempts
import DroidOs.Services.FaultSources
import DroidOs.Services.Inhibition
import DroidOs.System.Boot

set_option autoImplicit false
set_option relaxedAutoImplicit false

namespace DroidOs.System.HookFailures

open DroidOs.Lib.Procedure
open DroidOs.Core.Values DroidOs.Core.States DroidOs.Core.Context
open DroidOs.Body.Package DroidOs.Gait.Policy
open DroidOs.Backends.CanFd DroidOs.Backends.Simulation
open DroidOs.Backends.Unpowered DroidOs.Backends.Hardware DroidOs.Backends.SafetyController
open DroidOs.Services
open DroidOs.Services.Lifecycle DroidOs.Services.SafetyGateway DroidOs.Services.Supervisor
open DroidOs.Services.Readiness DroidOs.Services.Inhibition DroidOs.Services.FaultSources
open DroidOs.Services.Attempts
open Boot Registration

variable {δ : Type}

/-- How a hook fails: whether its work is done by then, and what it raises unless it returns False. -/
structure Failure where
  worked : Bool
  raised : Option Exn

/-- The other services' files, and how often each hook of each service has been called. -/
structure Tried (δ : Type) where
  files : δ
  tries : String → Hook → Nat := fun _ _ => 0

/-- The calls of the hooks so far. -/
def triesOf (rt : Runtime (Station (Tried δ))) : String → Hook → Nat := rt.env.store.tries

/-- One more call of a hook. -/
def callHook (name : String) (h : Hook) (rt : Runtime (Station (Tried δ))) : Runtime (Station (Tried δ)) :=
  { rt with env := { rt.env with store := { rt.env.store with
    tries := counted rt.env.store.tries name h } } }

/-- A hook that fails so. -/
def Failure.run {ρ : Type} (failure : Failure) (hook : Proc ρ Exn Bool) : Proc ρ Exn Bool := do
  if failure.worked then
    let _ ← attempt hook
  match failure.raised with
  | some e => raise e
  | none => pure false

/-- A service whose hooks fail at the calls listed, and do what they are written to do at the others. -/
def failing (failures : String → Hook → Nat → Option Failure)
    (s : ManagedService (Runtime (Station (Tried δ)))) : ManagedService (Runtime (Station (Tried δ))) :=
  { s with
    hook := fun h => do
      let call ← reads fun rt => triesOf rt s.name h
      modify (callHook s.name h)
      (failures s.name h call).elim (s.hook h) fun failure => failure.run (s.hook h) }

/-- What a boot depends on. -/
structure Launch (δ : Type) where
  world : Setting
  hardwareBackend : Option String
  latch : LatchFile
  gaitFiles : String → Option PolicyFile
  /-- The configuration of a service that keeps a file of its own. -/
  stores : String → Proc δ Exn Unit
  files : δ
  failures : String → Hook → Nat → Option Failure
  rest : Services (Station (Tried δ))

/-- Loading the latch file returns. -/
def latchLoads : LatchFile → Bool
  | .missing | .unreadable | .malformed => true
  | .undecodable => false
  | .document v => (v.get "estop_engaged" .none).toOption.isSome

/-- Loading it engages the e-stop. -/
def latchEngages : LatchFile → Bool
  | .document v => (v.get "estop_engaged" .none).toOption.any PyVal.truthy
  | _ => false

namespace Launch

variable (l : Launch δ)

/-- `Motion._on_configure`. -/
def configureMotion : Proc (Station (Tried δ)) Exn Unit :=
  if l.world.body.manifest.locomotionType = "biped" then do
    let (policy, issues) ← ofExcept (loadForBody l.world.text l.gaitFiles l.world.body)
    modify fun w => { w with gaitPolicy := policy, gaitIssues := issues }
  else pure ()

/-- A service works on its own file alone. -/
def configureFile (name : String) : Proc (Station (Tried δ)) Exn Unit :=
  zoom (fun w => w.store.files) (fun files w => { w with store := { w.store with files := files } })
    (l.stores name)

def svc : Services (Station (Tried δ)) :=
  equipped l.world { l.rest with
    configure := fun name => if name = "motion" then l.configureMotion else l.configureFile name }

/-- The services that the boot starts. -/
def registry : Registry (Runtime (Station (Tried δ))) where
  services := (droidServices l.svc).services.map (failing l.failures)
  nodup := by
    rw [List.map_map]
    exact (droidServices l.svc).nodup

/-- `make_backend`, for the body and the droid's configuration. -/
def backend : HardwareBackend := makeBackend l.world.body l.hardwareBackend

/-- The brain once its boot has ended. -/
def booted : Brain (Station (Tried δ)) :=
  (boot l.svc l.registry { rt := newRuntime l.world.now l.latch { backend := l.backend, store := ⟨l.files, fun _ _ => 0⟩ } }).2

/-- The station with a backend that has tried to connect. -/
def connected : Station (Tried δ) :=
  { backend := (connect l.world l.backend).2, store := ⟨l.files, fun _ _ => 0⟩ }

/-- The hook, as it is written, returns True. -/
def succeeds (name : String) (h : Hook) : Bool :=
  if name = "safety_gateway" ∧ h = .onConfigure then latchLoads l.latch
  else if name = "motion" ∧ h = .onConfigure then
    decide (l.world.body.manifest.locomotionType ≠ "biped") ||
      (loadForBody l.world.text l.gaitFiles l.world.body).toOption.isSome
  else true

/-- The call of the hook succeeds. -/
def works (name : String) (h : Hook) (call : Nat) : Bool :=
  (l.failures name h call).isNone && l.succeeds name h

end Launch

/-! What the hooks do. -/

/-- What a hook may leave of the context before it. -/
structure Gentle (rt rt' : Runtime (Station (Tried δ))) : Prop where
  latch : rt'.latch = rt.latch
  machine : rt'.machine = rt.machine
  report : rt'.bootReport = rt.bootReport
  tries : triesOf rt' = triesOf rt
  backend : rt'.env.backend = rt.env.backend ∨ rt'.env.backend = setPower false rt.env.backend
  stopped : rt.controller.estop = true → rt'.controller.estop = true
  granted : latchEngages rt.latch = false → grants rt = true → grants rt' = true

theorem Gentle.refl (rt : Runtime (Station (Tried δ))) : Gentle rt rt :=
  ⟨rfl, rfl, rfl, rfl, .inl rfl, id, fun _ granted => granted⟩

/-- Loading the latch engages the e-stop or leaves the controller as it is. -/
private theorem loadLatch_run {ε : Type} (svc : Services ε) (rt : Runtime ε) :
    (latchLoads rt.latch = false ∧ ∃ e, loadLatch svc rt = (.error e, rt)) ∨
      latchLoads rt.latch = true ∧ ∃ c, loadLatch svc rt = (.ok (), { rt with controller := c }) ∧
        (latchEngages rt.latch = true → c.estop = true) ∧ (latchEngages rt.latch = false → c = rt.controller) ∧
        (rt.controller.estop = true → c.estop = true) := by
  rcases loadLatch_cases svc rt with ⟨raises, undecodable | ⟨v, e, file, fails⟩⟩ |
    ⟨v, flag, reason, file, flagged, engages, loads⟩ | ⟨loads, decodes, free⟩
  · exact .inl ⟨by rw [undecodable, latchLoads], raises⟩
  · exact .inl ⟨by simp [file, latchLoads, fails, Except.toOption], raises⟩
  · have truth : latchEngages rt.latch = true := by
      simp [file, latchEngages, flagged, engages, Except.toOption]
    refine .inr ⟨?_, _, loads, by simp, by simp [truth], by simp⟩
    simp [file, latchLoads, flagged, Except.toOption]
  · have quiet : latchLoads rt.latch = true ∧ latchEngages rt.latch = false := by
      cases file : rt.latch with
      | undecodable => exact absurd file decodes
      | document v =>
        obtain ⟨flag, flagged, falsy⟩ := free v file
        simp [latchLoads, latchEngages, flagged, falsy, Except.toOption]
      | _ => exact ⟨rfl, rfl⟩
    exact .inr ⟨quiet.1, rt.controller, loads, by simp [quiet.2], fun _ => rfl, id⟩

/-- The gateway's configuration succeeds when the latch loads, and then engages what it tells of. -/
private theorem onConfigure_run (svc : Services (Station (Tried δ))) (rt : Runtime (Station (Tried δ))) :
    Gentle rt (onConfigure svc rt).2 ∧ succeeded (onConfigure svc rt).1 = latchLoads rt.latch ∧
      (latchLoads rt.latch = true → latchEngages rt.latch = true → (onConfigure svc rt).2.controller.estop = true) := by
  rcases loadLatch_run svc rt with ⟨fails, e, raised⟩ | ⟨loads, c, loaded, engages, free, stopped⟩
  · have ran : onConfigure svc rt = (.error e, rt) := bind_error raised
    rw [ran, fails]
    exact ⟨Gentle.refl rt, rfl, fun loads => by cases loads⟩
  · have ran : onConfigure svc rt = (.ok true, { rt with controller := c.heartbeat rt.now }) := bind_ok loaded
    rw [ran, loads]
    refine ⟨⟨rfl, rfl, rfl, rfl, .inl rfl, stopped, fun none granted => ?_⟩, rfl, fun _ => engages⟩
    rw [free none]
    rw [grants_iff] at granted ⊢
    simpa [SimulatedSafetyController.mayEnable] using granted

private theorem gentle_onActivate (l : Launch δ) (rt : Runtime (Station (Tried δ))) :
    Gentle rt (onActivate l.svc rt).2 := by
  refine ⟨rfl, rfl, rfl, rfl, .inr rfl, id, fun _ granted => ?_⟩
  rw [grants_iff] at granted ⊢
  exact granted

/-- The other configurations leave the backend and the counts alone. -/
private theorem configured_run {p : Proc (Station (Tried δ)) Exn Unit} {rt : Runtime (Station (Tried δ))}
    (apart : (p rt.env).2.backend = rt.env.backend ∧ (p rt.env).2.store.tries = rt.env.store.tries) :
    Gentle rt ((do outside p; pure true : Proc (Runtime (Station (Tried δ))) Exn Bool) rt).2 ∧
      succeeded ((do outside p; pure true : Proc (Runtime (Station (Tried δ))) Exn Bool) rt).1 =
        (p rt.env).1.toOption.isSome := by
  have gentle : Gentle rt (outside p rt).2 := ⟨rfl, rfl, rfl, apart.2, .inl apart.1, id, fun _ granted => granted⟩
  rcases run : p rt.env with ⟨e | _, w⟩ <;> rw [outside_run, run] at gentle
  · have ran : outside p rt = (.error e, { rt with env := w }) := by rw [outside_run, run]
    rw [bind_error ran]
    exact ⟨gentle, rfl⟩
  · have ran : outside p rt = (.ok (), { rt with env := w }) := by rw [outside_run, run]
    rw [bind_ok ran]
    exact ⟨gentle, rfl⟩

private theorem configureMotion_run (l : Launch δ) (w : Station (Tried δ)) :
    (l.configureMotion w).2.backend = w.backend ∧ (l.configureMotion w).2.store.tries = w.store.tries ∧
      ((l.configureMotion w).1.toOption.isSome = l.succeeds "motion" .onConfigure) := by
  unfold Launch.configureMotion Launch.succeeds
  by_cases biped : l.world.body.manifest.locomotionType = "biped"
  · rw [if_pos biped]
    rcases loaded : loadForBody l.world.text l.gaitFiles l.world.body with e | ⟨policy, issues⟩
    · simp [bind_run, biped, Except.toOption]
    · simp [bind_run, biped, Except.toOption]
  · rw [if_neg biped]
    simp [biped, Except.toOption]

/-- Every hook, as it is written, leaves what the assessment of a boot depends on as it was or
switches motor power off; a critical service's hook succeeds as foreseen. -/
private theorem hook_run (l : Launch δ) {s : ManagedService (Runtime (Station (Tried δ)))}
    (member : s ∈ (droidServices l.svc).services) (h : Hook) (rt : Runtime (Station (Tried δ)))
    (file : rt.latch = l.latch) : Gentle rt (s.hook h rt).2 ∧
      (s.name ∈ motionCritical → succeeded (s.hook h rt).1 = l.succeeds s.name h) := by
  have plain (name : String) (requires : List String) (other : name ≠ "safety_gateway") (still : name ≠ "motion") :
      Gentle rt ((plainService name requires).hook h rt).2 ∧ (name ∈ motionCritical →
        succeeded ((plainService name requires).hook h rt).1 = l.succeeds name h) := by
    refine ⟨Gentle.refl rt, fun _ => ?_⟩
    simp [Launch.succeeds, other, still, plainService, succeeded]
  have quiet (name : String) (requires : List String) (still : name ≠ "motion") (idle : name ∉ motionCritical) :
      Gentle rt ((configuredService l.svc name requires).hook h rt).2 ∧ (name ∈ motionCritical →
        succeeded ((configuredService l.svc name requires).hook h rt).1 = l.succeeds name h) := by
    refine ⟨?_, fun critical => absurd critical idle⟩
    have apart : (l.svc.configure name rt.env).2.backend = rt.env.backend ∧
        (l.svc.configure name rt.env).2.store.tries = rt.env.store.tries := by
      have file : l.svc.configure name = l.configureFile name := if_neg still
      rw [file]
      exact ⟨rfl, rfl⟩
    cases h with
    | onConfigure => exact (configured_run apart).1
    | onActivate => exact Gentle.refl rt
    | onDeactivate => exact Gentle.refl rt
    | onCleanup => exact Gentle.refl rt
  have gateway : Gentle rt ((safetyGateway l.svc).hook h rt).2 ∧ ("safety_gateway" ∈ motionCritical →
      succeeded ((safetyGateway l.svc).hook h rt).1 = l.succeeds "safety_gateway" h) := by
    cases h with
    | onConfigure =>
      obtain ⟨gentle, answer, -⟩ := onConfigure_run l.svc rt
      refine ⟨gentle, fun _ => answer.trans ?_⟩
      rw [file]
      rfl
    | onActivate => exact ⟨gentle_onActivate l rt, fun _ => rfl⟩
    | onDeactivate => exact ⟨Gentle.refl rt, fun _ => rfl⟩
    | onCleanup => exact ⟨Gentle.refl rt, fun _ => rfl⟩
  have moving : Gentle rt ((configuredService l.svc "motion" ["safety_gateway"]).hook h rt).2 ∧
      ("motion" ∈ motionCritical →
        succeeded ((configuredService l.svc "motion" ["safety_gateway"]).hook h rt).1 = l.succeeds "motion" h) := by
    cases h with
    | onConfigure =>
      obtain ⟨backend, tries, answer⟩ := configureMotion_run l rt.env
      obtain ⟨gentle, succeeds⟩ := configured_run (p := l.configureMotion) ⟨backend, tries⟩
      exact ⟨gentle, fun _ => succeeds.trans answer⟩
    | onActivate => exact ⟨Gentle.refl rt, fun _ => rfl⟩
    | onDeactivate => exact ⟨Gentle.refl rt, fun _ => rfl⟩
    | onCleanup => exact ⟨Gentle.refl rt, fun _ => rfl⟩
  simp only [droidServices, List.mem_cons, List.not_mem_nil, or_false] at member
  rcases member with rfl | rfl | rfl | rfl | rfl | rfl | rfl | rfl | rfl | rfl | rfl | rfl
  · exact gateway
  · exact plain _ _ (by decide) (by decide)
  · exact plain _ _ (by decide) (by decide)
  · exact plain _ _ (by decide) (by decide)
  · exact quiet _ _ (by decide) (by decide)
  · exact quiet _ _ (by decide) (by decide)
  · exact plain _ _ (by decide) (by decide)
  · exact plain _ _ (by decide) (by decide)
  · exact moving
  · exact quiet _ _ (by decide) (by decide)
  · exact plain _ _ (by decide) (by decide)
  · exact plain _ _ (by decide) (by decide)

/-! What the failing hooks keep. -/

/-- On its way a boot keeps the latch it found and, motor power apart, the backend; the controller
is free, or stopped by the latch once that has been loaded. -/
structure Kept (l : Launch δ) (b : HardwareBackend) (rt : Runtime (Station (Tried δ))) : Prop where
  latch : rt.latch = l.latch
  free : latchEngages l.latch = false → grants rt = true
  engaged : latchEngages l.latch = true → (∃ call < triesOf rt "safety_gateway" .onConfigure,
    l.works "safety_gateway" .onConfigure call = true) → rt.controller.estop = true
  backend : rt.env.backend = b ∨ rt.env.backend = setPower false b

theorem setPower_setPower (b : HardwareBackend) : setPower false (setPower false b) = setPower false b := by
  cases b <;> rfl

/-- A failing hook does what it is written to do, or nothing, and fails unless it is foreseen to work. -/
private theorem failing_cases (failures : String → Hook → Nat → Option Failure)
    (s : ManagedService (Runtime (Station (Tried δ)))) (h : Hook) (rt : Runtime (Station (Tried δ))) :
    let called := callHook s.name h rt
    (failures s.name h (triesOf rt s.name h) = none ∧ (failing failures s).hook h rt = s.hook h called) ∨
      failures s.name h (triesOf rt s.name h) ≠ none ∧ succeeded ((failing failures s).hook h rt).1 = false ∧
        (((failing failures s).hook h rt).2 = (s.hook h called).2 ∨ ((failing failures s).hook h rt).2 = called) := by
  intro called
  have start : (failing failures s).hook h rt = (failures s.name h (triesOf rt s.name h)).elim (s.hook h)
      (fun failure => failure.run (s.hook h)) called := rfl
  rw [start]
  cases failures s.name h (triesOf rt s.name h) with
  | none => exact .inl ⟨rfl, rfl⟩
  | some failure =>
    obtain ⟨worked, raised⟩ := failure
    refine .inr ⟨by simp, ?_⟩
    cases worked with
    | true => cases raised <;> exact ⟨rfl, .inl rfl⟩
    | false => cases raised <;> exact ⟨rfl, .inr rfl⟩

/-- A hook of the registry keeps all that, the state machine and the report, and is counted; that of
a critical service succeeds as foreseen. -/
theorem failing_run (l : Launch δ) {b : HardwareBackend} {s : ManagedService (Runtime (Station (Tried δ)))}
    (member : s ∈ (droidServices l.svc).services) (h : Hook) {rt : Runtime (Station (Tried δ))} (kept : Kept l b rt) :
    let after := (failing l.failures s).hook h rt
    Kept l b after.2 ∧ after.2.machine = rt.machine ∧ after.2.bootReport = rt.bootReport ∧
      triesOf after.2 = counted (triesOf rt) s.name h ∧
      (s.name ∈ motionCritical → succeeded after.1 = l.works s.name h (triesOf rt s.name h)) := by
  intro after
  let called := callHook s.name h rt
  have file : called.latch = l.latch := kept.latch
  obtain ⟨gentle, foreseen⟩ := hook_run l member h called file
  -- What both a hook that works and one that does not may leave.
  have keeps {rt' : Runtime (Station (Tried δ))} (gentle : Gentle called rt')
      (loads : latchEngages l.latch = true → s.name = "safety_gateway" → h = .onConfigure →
        l.works "safety_gateway" .onConfigure (triesOf rt "safety_gateway" .onConfigure) = true →
        rt'.controller.estop = true) :
      Kept l b rt' ∧ rt'.machine = rt.machine ∧ rt'.bootReport = rt.bootReport ∧
        triesOf rt' = counted (triesOf rt) s.name h := by
    refine ⟨⟨gentle.latch.trans kept.latch, fun none => ?_, fun engages works => ?_, ?_⟩,
      gentle.machine, gentle.report, gentle.tries⟩
    · exact gentle.granted (by rw [file]; exact none) (kept.free none)
    · obtain ⟨call, before, works⟩ := works
      have calls : triesOf rt' = counted (triesOf rt) s.name h := gentle.tries
      by_cases earlier : call < triesOf rt "safety_gateway" .onConfigure
      · exact gentle.stopped (kept.engaged engages ⟨call, earlier, works⟩)
      · rw [calls, counted] at before
        by_cases own : "safety_gateway" = s.name
        · rw [← own, Function.update_self] at before
          by_cases configuring : Hook.onConfigure = h
          · rw [← configuring, Function.update_self] at before
            have last : call = triesOf rt "safety_gateway" .onConfigure := by omega
            exact loads engages own.symm configuring.symm (last ▸ works)
          · rw [Function.update_of_ne configuring] at before
            exact absurd before earlier
        · rw [Function.update_of_ne own] at before
          exact absurd before earlier
    · have power : rt'.env.backend = rt.env.backend ∨ rt'.env.backend = setPower false rt.env.backend := gentle.backend
      rcases power with same | off
      · rw [same]
        exact kept.backend
      · right
        rw [off]
        rcases kept.backend with same | off
        · rw [same]
        · rw [off, setPower_setPower]
  rcases failing_cases l.failures s h rt with ⟨none, ran⟩ | ⟨some, fails, left_⟩
  · have ran : after = s.hook h called := ran
    rw [ran]
    have works : succeeded (s.hook h called).1 = l.succeeds s.name h →
        succeeded (s.hook h called).1 = l.works s.name h (triesOf rt s.name h) := by
      intro answer
      rw [answer, Launch.works, none]
      rfl
    have stops : latchEngages l.latch = true → s.name = "safety_gateway" → h = .onConfigure →
        l.works "safety_gateway" .onConfigure (triesOf rt "safety_gateway" .onConfigure) = true →
        (s.hook h called).2.controller.estop = true := by
      intro engages own configuring worked
      subst configuring
      have gateway : s = safetyGateway l.svc := by
        have found := Registry.find_of_mem member
        rw [own, find_safetyGateway] at found
        exact (Option.some.inj found).symm
      have loads : latchLoads l.latch = true := by
        simpa [Launch.works, Launch.succeeds] using (Bool.and_eq_true _ _ ▸ worked).2
      rw [gateway]
      exact (onConfigure_run l.svc called).2.2 (by rw [file]; exact loads) (by rw [file]; exact engages)
    obtain ⟨kept', machine, report, tries⟩ := keeps gentle stops
    exact ⟨kept', machine, report, tries, fun critical => works (foreseen critical)⟩
  · have fails : succeeded after.1 = false := fails
    have foreseen : l.works s.name h (triesOf rt s.name h) = false := by
      rw [Launch.works]
      cases failed : l.failures s.name h (triesOf rt s.name h) with
      | none => exact absurd failed some
      | some failure => rfl
    have never : latchEngages l.latch = true → s.name = "safety_gateway" → h = .onConfigure →
        l.works "safety_gateway" .onConfigure (triesOf rt "safety_gateway" .onConfigure) = true →
        after.2.controller.estop = true := by
      intro _ own configuring worked
      rw [own, configuring, worked] at foreseen
      cases foreseen
    have gentle : Gentle called after.2 := by
      rcases left_ with worked | idle
      · have same : after.2 = (s.hook h called).2 := worked
        rw [same]
        exact gentle
      · have same : after.2 = called := idle
        rw [same]
        exact Gentle.refl called
    obtain ⟨kept', machine, report, tries⟩ := keeps gentle never
    exact ⟨kept', machine, report, tries, fun _ => fails.trans foreseen.symm⟩

end DroidOs.System.HookFailures
