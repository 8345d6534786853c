/- GID: DroidOs/Services/ActivationOrder
   generality: I
   digest: When a service's activate hook finds its dependencies active, over boot and restarts. -/

import DroidOs.Lib.Acyclic
import DroidOs.Services.Supervisor

set_option autoImplicit false
set_option relaxedAutoImplicit false

namespace DroidOs.Services.ActivationOrder

open DroidOs.Lib.Procedure DroidOs.Lib.Acyclic
open DroidOs.Core.Values DroidOs.Core.Context
open Lifecycle Supervisor

variable {ρ : Type}

/-- `d` is a registered service that the registered service `s` requires. -/
def Requires (reg : Registry ρ) (d s : String) : Prop :=
  reg.has d = true ∧ ∃ spec, reg.find s = some spec ∧ d ∈ spec.requires

def isStartOf (name : String) (c : HookCall) : Bool :=
  c.service = name && (c.hook = .onConfigure || c.hook = .onActivate)

/-- How the last configure or activate hook of a service went, if one has run. -/
def lastStart (calls : List HookCall) (name : String) : Option Bool :=
  ((calls.filter (isStartOf name)).getLast?).map HookCall.ok

/-- The law of one hook call: an activate hook finds every registered dependency active. -/
def FindsDepsActive (reg : Registry ρ) (c : HookCall) : Prop :=
  c.hook = .onActivate → ∀ d, Requires reg d c.service → c.found d = .active

/-- Boot's own first contact with the gateway, before any other service has a hook run. -/
def FirstContact (past : List HookCall) (c : HookCall) : Prop :=
  c.service = "safety_gateway" ∧ ∀ e ∈ past, e.service = c.service

/-- A dependency of this activation failed when it was last started, or was
never started because boot contacts the gateway before everything else. -/
def DependencyFailed (reg : Registry ρ) (past : List HookCall) (c : HookCall) : Prop :=
  ∃ d, Requires reg d c.service ∧ (lastStart past d = some false ∨ FirstContact past c)

/-! The state table and the log, which is all that the law reads. -/

structure View where
  state : String → LifecycleState
  calls : List HookCall

def view (m : Managed ρ) : View := ⟨m.state, m.calls⟩

def View.ran (v : View) (name : String) (h : Hook) (ok : Bool) : View :=
  { v with calls := v.calls ++ [⟨name, h, v.state, ok⟩] }

def View.enter (v : View) (name : String) (st : LifecycleState) : View :=
  { v with state := Function.update v.state name st }

private theorem view_setState (m : Managed ρ) (name : String) (st : LifecycleState) :
    view (m.setState name st) = (view m).enter name st := by
  unfold view View.enter
  congr 1
  funext other
  simp [Managed.setState_state, Function.update_apply]

private theorem view_setRecord (m : Managed ρ) (name : String) (f : ServiceRecord → ServiceRecord)
    (same : ∀ r, (f r).state = r.state) : view (m.setRecord name f) = view m := by
  unfold view
  congr 1
  funext other
  simp only [Managed.state, Managed.setRecord, Function.update_apply]
  split
  · simp_all
  · rfl

/-- A guarded hook leaves one log entry, and its answer is that entry's outcome. -/
private theorem guardHook_view (s : ManagedService ρ) (h : Hook) (m : Managed ρ) :
    view (guardHook s h m).2 = (view m).ran s.name h (guardHook s h m).1 := by
  obtain ⟨ok, error, run⟩ := guardHook_eq s h m
  rw [run]
  change view (Managed.setRecord _ s.name fun r => { r with lastError := error }) = _
  refine (view_setRecord _ _ _ ?_).trans rfl
  intro r
  rfl

private theorem guardTo_view (s : ManagedService ρ) (h : Hook) (st : LifecycleState)
    (m : Managed ρ) :
    view (guardTo s h st m).2 =
      if (guardTo s h st m).1 then ((view m).ran s.name h true).enter s.name st
      else (view m).ran s.name h false := by
  have logged := guardHook_view s h m
  unfold guardTo
  rcases answer : guardHook s h m with ⟨_ | _, m'⟩ <;> rw [answer] at logged
  · simpa using logged
  · simp only [if_true, view_setState, ← logged]

/-! Reading the log. -/

private theorem lastStart_snoc (calls : List HookCall) (c : HookCall) (name : String) :
    lastStart (calls ++ [c]) name =
      if isStartOf name c then some c.ok else lastStart calls name := by
  unfold lastStart
  rw [List.filter_append]
  by_cases start : isStartOf name c = true
  · rw [List.filter_cons_of_pos start, if_pos start]
    simp
  · rw [List.filter_cons_of_neg start, if_neg start]
    simp

private theorem lastStart_ran (v : View) (name other : String) (h : Hook) (ok : Bool) :
    lastStart (v.ran other h ok).calls name =
      if other = name ∧ (h = .onConfigure ∨ h = .onActivate) then some ok
      else lastStart v.calls name := by
  simp [View.ran, lastStart_snoc, isStartOf]

/-- The last start of a service decides whether it is active. -/
structure Settled (v : View) (name : String) : Prop where
  live : v.state name ≠ .finalized
  active : v.state name = .active ↔ lastStart v.calls name = some true

/-- What the log says of each activation in it: whether a dependency was active
is told by its last start, and it had been started unless this is the first contact. -/
def Logged (reg : Registry ρ) (calls : List HookCall) : Prop :=
  ∀ past c rest, calls = past ++ c :: rest → c.hook = .onActivate →
    ∀ d, Requires reg d c.service →
      (c.found d = .active ↔ lastStart past d = some true) ∧
      (lastStart past d ≠ none ∨ FirstContact past c)

private theorem logged_snoc {reg : Registry ρ} {calls : List HookCall} {c : HookCall}
    (before : Logged reg calls)
    (last : c.hook = .onActivate → ∀ d, Requires reg d c.service →
      (c.found d = .active ↔ lastStart calls d = some true) ∧
      (lastStart calls d ≠ none ∨ FirstContact calls c)) : Logged reg (calls ++ [c]) := by
  intro past e rest split activates d requires
  rcases List.eq_nil_or_concat rest with rfl | ⟨front, final, rfl⟩
  · obtain ⟨rfl, tail⟩ := List.append_inj' split rfl
    obtain rfl := List.singleton_inj.mp tail
    exact last activates d requires
  · have shape : calls ++ [c] = (past ++ e :: front) ++ [final] := by
      simpa using split
    obtain ⟨rfl, tail⟩ := List.append_inj' shape rfl
    exact before past e front rfl activates d requires

/-- Later in the same run: the log has grown and no active service was lost. -/
structure Later (v w : View) : Prop where
  grown : ∃ more, w.calls = v.calls ++ more
  active : ∀ d, v.state d = .active → w.state d = .active

private theorem later_refl (v : View) : Later v v := ⟨⟨[], by simp⟩, fun _ held => held⟩

private theorem later_trans {u v w : View} (first : Later u v) (second : Later v w) :
    Later u w := by
  obtain ⟨a, grownA⟩ := first.grown
  obtain ⟨b, grownB⟩ := second.grown
  exact ⟨⟨a ++ b, by rw [grownB, grownA, List.append_assoc]⟩,
    fun d held => second.active d (first.active d held)⟩

/-- A service that has been started stays started. -/
theorem started_of_grown {calls : List HookCall} {name : String} (more : List HookCall)
    (started : lastStart calls name ≠ none) : lastStart (calls ++ more) name ≠ none := by
  simp only [lastStart, ne_eq, Option.map_eq_none_iff, List.getLast?_eq_none_iff,
    List.filter_append, List.append_eq_nil_iff] at started ⊢
  exact fun both => started both.1

theorem Later.started {v w : View} (later : Later v w) {name : String}
    (started : lastStart v.calls name ≠ none) : lastStart w.calls name ≠ none := by
  obtain ⟨more, grown⟩ := later.grown
  rw [grown]
  exact started_of_grown more started

/-! One activation. -/

/-- Between activations every service is settled and the log is explained. -/
structure Rest (reg : Registry ρ) (v : View) : Prop where
  settled : ∀ name, Settled v name
  logged : Logged reg v.calls

/-- What holds when a service is about to be activated. Its own state may be
behind the log, as after the cleanup of a restart. -/
structure Ready (reg : Registry ρ) (s : String) (v : View) : Prop where
  others : ∀ name, name ≠ s → Settled v name
  live : v.state s ≠ .finalized
  active : v.state s = .active → lastStart v.calls s = some true
  logged : Logged reg v.calls
  deps : ∀ d, Requires reg d s → lastStart v.calls d ≠ none ∨
    (s = "safety_gateway" ∧ ∀ e ∈ v.calls, e.service = s)

private theorem settled_ran_other {v : View} {name other : String} (settled : Settled v name)
    (differ : name ≠ other) (h : Hook) (ok : Bool) : Settled (v.ran other h ok) name := by
  have same : lastStart (v.ran other h ok).calls name = lastStart v.calls name := by
    rw [lastStart_ran, if_neg fun both => differ both.1.symm]
  exact ⟨settled.live, by rw [same]; exact settled.active⟩

private theorem settled_enter_other {v : View} {name other : String} (settled : Settled v name)
    (differ : name ≠ other) (st : LifecycleState) : Settled (v.enter other st) name := by
  have same : (v.enter other st).state name = v.state name := by
    simp [View.enter, differ]
  exact ⟨by rw [same]; exact settled.live, by rw [same]; exact settled.active⟩

private theorem later_ran (v : View) (name : String) (h : Hook) (ok : Bool) :
    Later v (v.ran name h ok) :=
  ⟨⟨_, rfl⟩, fun _ held => held⟩

private theorem later_enter {v : View} {name : String} (idle : v.state name ≠ .active)
    (st : LifecycleState) : Later v (v.enter name st) := by
  refine ⟨⟨[], by simp [View.enter]⟩, fun d held => ?_⟩
  have differ : d ≠ name := by
    rintro rfl
    exact idle held
  simpa [View.enter, differ] using held

variable {reg : Registry ρ} {s : String} {v : View}

/-- A configure hook is no activation, so the log stays explained. -/
private theorem logged_configure (logged : Logged reg v.calls) (ok : Bool) :
    Logged reg (v.ran s .onConfigure ok).calls :=
  logged_snoc logged fun activates => absurd activates (by simp)

/-- The activate hook of a service that is ready to be activated. -/
private theorem logged_activate (ready : Ready reg s v) (acyclic : NoCycle (Requires reg))
    (ok : Bool) : Logged reg (v.ran s .onActivate ok).calls := by
  refine logged_snoc ready.logged fun _ d requires => ?_
  have differ : d ≠ s := acyclic.irrefl requires
  exact ⟨(ready.others d differ).active, ready.deps d requires⟩

private theorem rest_configure_failed (ready : Ready reg s v) (idle : v.state s = .unconfigured) :
    Rest reg (v.ran s .onConfigure false) := by
  refine ⟨fun name => ?_, logged_configure ready.logged false⟩
  by_cases same : name = s
  · subst same
    refine ⟨ready.live, ?_⟩
    rw [lastStart_ran, if_pos ⟨rfl, Or.inl rfl⟩]
    simp [View.ran, idle]
  · exact settled_ran_other (ready.others name same) same _ _

private theorem ready_configured (ready : Ready reg s v) (acyclic : NoCycle (Requires reg)) :
    Ready reg s ((v.ran s .onConfigure true).enter s .inactive) where
  others name differ :=
    settled_enter_other (settled_ran_other (ready.others name differ) differ _ _) differ _
  live := by simp [View.enter]
  active := by simp [View.enter]
  logged := logged_configure ready.logged true
  deps d requires := by
    have differ : s ≠ d := (acyclic.irrefl requires).symm
    refine (ready.deps d requires).imp (fun started => ?_) fun ⟨gateway, alone⟩ => ⟨gateway, ?_⟩
    · change lastStart (v.ran s .onConfigure true).calls d ≠ none
      rw [lastStart_ran, if_neg fun both => differ both.1]
      exact started
    · intro e member
      rcases List.mem_append.mp member with old | new
      · exact alone e old
      · rw [List.mem_singleton.mp new]

/-- Whatever the activate hook answers, the service is settled again. -/
private theorem rest_activated (ready : Ready reg s v) (acyclic : NoCycle (Requires reg))
    (idle : v.state s = .inactive) (ok : Bool) :
    Rest reg (if ok then (v.ran s .onActivate true).enter s .active
      else v.ran s .onActivate false) := by
  cases ok with
  | false =>
    refine ⟨fun name => ?_, logged_activate ready acyclic false⟩
    by_cases same : name = s
    · subst same
      refine ⟨ready.live, ?_⟩
      simp only [Bool.false_eq_true, if_false]
      rw [lastStart_ran, if_pos ⟨rfl, Or.inr rfl⟩]
      simp [View.ran, idle]
    · exact settled_ran_other (ready.others name same) same _ _
  | true =>
    refine ⟨fun name => ?_, logged_activate ready acyclic true⟩
    by_cases same : name = s
    · subst same
      refine ⟨by simp [View.enter], ?_⟩
      have started : lastStart (v.ran name .onActivate true).calls name = some true := by
        rw [lastStart_ran, if_pos ⟨rfl, Or.inr rfl⟩]
      simpa [View.enter] using started
    · exact settled_enter_other (settled_ran_other (ready.others name same) same _ _) same _

/-- An active service has its dependencies active, unless the log shows an
activation that did not find them so. -/
def Backed (reg : Registry ρ) (v : View) : Prop :=
  ∀ name, v.state name = .active → ∀ d, Requires reg d name →
    v.state d = .active ∨ ∃ c ∈ v.calls, ¬ FindsDepsActive reg c

/-- Backing survives as long as no service but `s` becomes active and `s` itself is backed. -/
private theorem backed_later {w : View} (backed : Backed reg v) (later : Later v w)
    (others : ∀ name, name ≠ s → w.state name = v.state name)
    (own : w.state s = .active → v.state s = .active ∨ ∀ d, Requires reg d s →
      w.state d = .active ∨ ∃ c ∈ w.calls, ¬ FindsDepsActive reg c) : Backed reg w := by
  have old (name : String) (held : v.state name = .active) (d : String)
      (requires : Requires reg d name) :
      w.state d = .active ∨ ∃ c ∈ w.calls, ¬ FindsDepsActive reg c := by
    obtain ⟨more, grown⟩ := later.grown
    refine (backed name held d requires).imp (later.active d) fun ⟨c, member, broken⟩ => ?_
    exact ⟨c, by rw [grown]; exact List.mem_append_left _ member, broken⟩
  intro name held
  by_cases same : name = s
  · subst same
    rcases own held with was | backing
    · exact old name was
    · exact backing
  · exact old name (by rw [← others name same]; exact held)

/-- The outcome of starting one service: rest, no service lost, this one started. -/
structure Started (reg : Registry ρ) (s : String) (v w : View) : Prop where
  rest : Rest reg w
  later : Later v w
  started : lastStart w.calls s ≠ none
  backed : Backed reg v → Backed reg w

private theorem started_activateHook (ready : Ready reg s v) (acyclic : NoCycle (Requires reg))
    (idle : v.state s = .inactive) (ok : Bool) :
    Started reg s v (if ok then (v.ran s .onActivate true).enter s .active
      else v.ran s .onActivate false) := by
  have notActive : v.state s ≠ .active := by simp [idle]
  have entered : Later (v.ran s .onActivate true) ((v.ran s .onActivate true).enter s .active) :=
    later_enter (v := v.ran s .onActivate true) notActive .active
  refine ⟨rest_activated ready acyclic idle ok, ?_, ?_, fun backed => ?_⟩
  · cases ok with
    | false => exact later_ran v s _ _
    | true => exact later_trans (later_ran v s .onActivate true) entered
  · have logged (b : Bool) : lastStart (v.ran s .onActivate b).calls s ≠ none := by
      rw [lastStart_ran, if_pos ⟨rfl, Or.inr rfl⟩]
      simp
    cases ok with
    | false => exact logged false
    | true => exact logged true
  · cases ok with
    | false =>
      exact backed_later (s := s) backed (later_ran v s _ _) (fun _ _ => rfl) fun held => Or.inl held
    | true =>
      have last : (⟨s, .onActivate, v.state, true⟩ : HookCall) ∈
          ((v.ran s .onActivate true).enter s .active).calls := by
        simp [View.ran, View.enter]
      refine backed_later (s := s) backed (later_trans (later_ran v s _ _) entered)
        (fun name differ => by simp [View.enter, View.ran, differ]) fun _ => Or.inr ?_
      intro d requires
      by_cases found : FindsDepsActive reg ⟨s, .onActivate, v.state, true⟩
      · left
        have differ : d ≠ s := acyclic.irrefl requires
        simpa [View.enter, View.ran, differ] using found rfl d requires
      · exact Or.inr ⟨_, last, found⟩

theorem started_activate (spec : ManagedService ρ) (m : Managed ρ)
    (ready : Ready reg spec.name (view m)) (acyclic : NoCycle (Requires reg)) :
    Started reg spec.name (view m) (view (activate spec m).2) := by
  unfold activate
  split
  · next held =>
    have last := ready.active held
    refine ⟨⟨fun name => ?_, ready.logged⟩, later_refl _, by rw [last]; simp, id⟩
    by_cases same : name = spec.name
    · subst same
      exact ⟨ready.live, iff_of_true held last⟩
    · exact ready.others name same
  next notActive =>
  split
  · next idle =>
    rw [guardTo_view]
    exact started_activateHook ready acyclic idle _
  next notInactive =>
  have idle : (view m).state spec.name = .unconfigured := by
    have live := ready.live
    change m.state spec.name ≠ .finalized at live
    change m.state spec.name = .unconfigured
    cases st : m.state spec.name <;> simp_all
  have configured : (configure spec m) = guardTo spec .onConfigure .inactive m :=
    if_pos (Or.inl idle)
  have seen := guardTo_view spec .onConfigure .inactive m
  rw [configured]
  rcases answer : guardTo spec .onConfigure .inactive m with ⟨_ | _, m'⟩ <;>
    rw [answer] at seen
  · simp only [Bool.false_eq_true, if_false] at seen
    simp only [seen]
    refine ⟨rest_configure_failed ready idle, later_ran _ _ _ _, ?_, fun backed => ?_⟩
    · rw [lastStart_ran, if_pos ⟨rfl, Or.inl rfl⟩]
      simp
    · exact backed_later (s := spec.name) backed (later_ran _ _ _ _) (fun _ _ => rfl) Or.inl
  · simp only [if_true] at seen
    have next := ready_configured ready acyclic
    rw [← seen] at next
    have inactive : (view m').state spec.name = .inactive := by
      rw [seen]
      simp [View.enter]
    have rest := started_activateHook next acyclic inactive (guardTo spec .onActivate .active m').1
    rw [← guardTo_view] at rest
    have before : Later (view m) (view m') := by
      rw [seen]
      exact later_trans (later_ran _ _ _ _) (later_enter notActive _)
    refine ⟨rest.rest, later_trans before rest.later, rest.started, fun backed => rest.backed ?_⟩
    refine backed_later (s := spec.name) backed before (fun name differ => ?_) fun held => ?_
    · rw [seen]
      simp [View.enter, View.ran, differ]
    · rw [inactive] at held
      cases held

/-! Activation with dependencies. -/

/-- The names of the registered services. -/
def names (reg : Registry ρ) : Finset String :=
  (reg.services.map ManagedService.name).toFinset

private theorem mem_names {d : String} (registered : reg.has d = true) : d ∈ names reg := by
  obtain ⟨spec, found⟩ := Option.isSome_iff_exists.mp registered
  obtain ⟨member, rfl⟩ := Registry.find_some found
  exact List.mem_toFinset.mpr (List.mem_map_of_mem member)

private theorem rank_le_length (s : String) :
    rank (Requires reg) (names reg) s ≤ reg.services.length := by
  refine (rank_le _ _ _).trans ((List.toFinset_card_le _).trans ?_)
  simp

private theorem ready_of_rest (rest : Rest reg v)
    (deps : ∀ d, Requires reg d s → lastStart v.calls d ≠ none) : Ready reg s v where
  others name _ := rest.settled name
  live := (rest.settled s).live
  active := (rest.settled s).active.mp
  logged := rest.logged
  deps d requires := Or.inl (deps d requires)

/-- The recursion over the dependencies, given what one recursive call does. -/
private theorem started_deps (f : ManagedService ρ → Managed ρ → Managed ρ) (deps : List String)
    (call : ∀ dep ∈ deps, ∀ d m, reg.find dep = some d → Rest reg (view m) →
      Started reg dep (view m) (view (f d m))) (m : Managed ρ) (rest : Rest reg (view m)) :
    let m' := deps.foldl (ifRegistered reg f) m
    Rest reg (view m') ∧ Later (view m) (view m') ∧
      (∀ dep ∈ deps, reg.has dep = true → lastStart m'.calls dep ≠ none) ∧
      (Backed reg (view m) → Backed reg (view m')) := by
  induction deps generalizing m with
  | nil => exact ⟨rest, later_refl _, by simp, id⟩
  | cons dep deps ih =>
    have tail := fun dep' (inside : dep' ∈ deps) => call dep' (List.mem_cons_of_mem dep inside)
    rw [List.foldl_cons]
    rcases found : reg.find dep with _ | d
    · have skipped : ifRegistered reg f m dep = m := by simp [ifRegistered, found]
      rw [skipped]
      obtain ⟨restful, later, started, backed⟩ := ih tail m rest
      refine ⟨restful, later, fun dep' member registered => ?_, backed⟩
      rcases List.mem_cons.mp member with rfl | inside
      · simp [Registry.has, found] at registered
      · exact started dep' inside registered
    · have taken : ifRegistered reg f m dep = f d m := by simp [ifRegistered, found]
      rw [taken]
      have first := call dep (by simp) d m found rest
      obtain ⟨restful, later, started, backed⟩ := ih tail (f d m) first.rest
      refine ⟨restful, later_trans first.later later, fun dep' member registered => ?_,
        fun held => backed (first.backed held)⟩
      rcases List.mem_cons.mp member with rfl | inside
      · exact later.started first.started
      · exact started dep' inside registered

/-- Activating with dependencies, to a depth that the rank of the service does
not exceed: it and all its registered dependencies have been started. -/
private theorem started_activateDepth (acyclic : NoCycle (Requires reg)) (depth : Nat) :
    ∀ (spec : ManagedService ρ) (m : Managed ρ), reg.find spec.name = some spec →
      rank (Requires reg) (names reg) spec.name ≤ depth → Rest reg (view m) →
      Started reg spec.name (view m) (view (activateDepth reg depth spec m).2) ∧
        ∀ d, Requires reg d spec.name → lastStart (activateDepth reg depth spec m).2.calls d ≠ none := by
  have step {d s : String} (requires : Requires reg d s) :=
    rank_lt acyclic (mem_names requires.1) requires
  induction depth with
  | zero =>
    intro spec m found low rest
    have alone (d : String) : ¬ Requires reg d spec.name := fun requires => by
      have := step requires
      omega
    have ready := ready_of_rest rest fun d requires => absurd requires (alone d)
    exact ⟨started_activate spec m ready acyclic, fun d requires => absurd requires (alone d)⟩
  | succ depth ih =>
    intro spec m found low rest
    rw [activateDepth]
    obtain ⟨restful, later, started, backed⟩ := started_deps
      (fun d m => (activateDepth reg depth d m).2) spec.requires
      (fun dep member d m' is restful => by
        obtain ⟨_, rfl⟩ := Registry.find_some is
        have requires : Requires reg d.name spec.name :=
          ⟨by simp [Registry.has, is], spec, found, member⟩
        have := step requires
        exact (ih d m' is (by omega) restful).1) m rest
    have deps : ∀ d, Requires reg d spec.name →
        lastStart (view (spec.requires.foldl
          (ifRegistered reg fun d m => (activateDepth reg depth d m).2) m)).calls d ≠ none := by
      rintro d ⟨registered, spec', found', member⟩
      obtain rfl : spec' = spec := Option.some.inj (found'.symm.trans found)
      exact started d member registered
    have last := started_activate spec _ (ready_of_rest restful deps) acyclic
    refine ⟨⟨last.rest, later_trans later last.later, last.started,
      fun held => last.backed (backed held)⟩, fun d requires => ?_⟩
    exact last.later.started (deps d requires)

theorem started_activateWithDeps (acyclic : NoCycle (Requires reg)) {spec : ManagedService ρ}
    {m : Managed ρ} (found : reg.find spec.name = some spec) (rest : Rest reg (view m)) :
    Started reg spec.name (view m) (view (activateWithDeps reg spec m).2) ∧
      ∀ d, Requires reg d spec.name →
        lastStart (activateWithDeps reg spec m).2.calls d ≠ none :=
  started_activateDepth acyclic _ spec m found (rank_le_length _) rest

/-! Restarting one service. -/

private theorem lastStart_cleanup (v : View) (name other : String) (ok : Bool) :
    lastStart (v.ran other .onCleanup ok).calls name = lastStart v.calls name := by
  rw [lastStart_ran, if_neg]
  simp

private theorem ready_cleaned (rest : Rest reg v)
    (deps : ∀ d, Requires reg d s → lastStart v.calls d ≠ none) (ok : Bool) :
    Ready reg s ((v.ran s .onCleanup ok).enter s .unconfigured) where
  others name differ :=
    settled_enter_other (settled_ran_other (rest.settled name) differ _ _) differ _
  live := by simp [View.enter]
  active := by simp [View.enter]
  logged := logged_snoc rest.logged fun activates => absurd activates (by simp)
  deps d requires := by
    left
    change lastStart (v.ran s .onCleanup ok).calls d ≠ none
    rw [lastStart_cleanup]
    exact deps d requires

/-- A restart gives up the service's own activity and nothing else: at rest
again, and with a longer log. -/
theorem rest_restart {spec : ManagedService ρ} {m : Managed ρ} (rest : Rest reg (view m))
    (deps : ∀ d, Requires reg d spec.name → lastStart m.calls d ≠ none)
    (acyclic : NoCycle (Requires reg)) :
    Rest reg (view (restart spec m).2) ∧
      ∃ more, (restart spec m).2.calls = m.calls ++ more := by
  let counted := m.setRecord spec.name fun r => { r with restartCount := r.restartCount + 1 }
  have same : view counted = view m := view_setRecord _ _ _ fun r => by rfl
  have cleaned : view (cleanup spec counted).2 =
      ((view m).ran spec.name .onCleanup (guardHook spec .onCleanup counted).1).enter
        spec.name .unconfigured := by
    unfold cleanup
    rw [view_setState, guardHook_view, same]
  have ready := ready_cleaned rest deps (guardHook spec .onCleanup counted).1
  rw [← cleaned] at ready
  have last := started_activate spec (cleanup spec counted).2 ready acyclic
  obtain ⟨more, grown⟩ := last.later.grown
  rw [cleaned] at grown
  exact ⟨last.rest, _, by rw [← List.append_assoc]; exact grown⟩

end DroidOs.Services.ActivationOrder
