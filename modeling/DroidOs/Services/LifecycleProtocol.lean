/- GID: DroidOs/Services/LifecycleProtocol
   generality: G
   source: src/droidos/services/lifecycle.py
   digest: The order in which one service's hooks run, over any sequence of lifecycle calls. -/

import DroidOs.Lib.History
import DroidOs.Services.Lifecycle

set_option autoImplicit false
set_option relaxedAutoImplicit false

namespace DroidOs.Services.LifecycleProtocol

open DroidOs.Lib.History
open DroidOs.Lib.Procedure
open DroidOs.Core.Values
open Lifecycle

/-- The public lifecycle methods. -/
inductive Call
  | configure | activate | deactivate | cleanup | restart | shutdown
  deriving DecidableEq

/-- What an observer sees of one service: its hooks, and the end of a shutdown. -/
inductive Event
  | hook (h : Hook) (ok : Bool)
  | shut
  deriving DecidableEq

variable {ρ : Type} (s : ManagedService ρ)

def perform : Call → Managed ρ → Managed ρ
  | .configure, m => (configure s m).2
  | .activate, m => (activate s m).2
  | .deactivate, m => (deactivate s m).2
  | .cleanup, m => (cleanup s m).2
  | .restart, m => (restart s m).2
  | .shutdown, m => (shutdown s m).2

/-- The events of a call: the hooks that it noted, and the mark of a shutdown. -/
def eventsOf (call : Call) (m m' : Managed ρ) : List Event :=
  ((m'.calls.drop m.calls.length).map fun c => .hook c.hook c.ok) ++
    if call = .shutdown then [.shut] else []

/-- A service on its own, with everything that was seen of it. -/
def step (x : Managed ρ × List Event) (call : Call) : Managed ρ × List Event :=
  (perform s call x.1, x.2 ++ eventsOf call x.1 (perform s call x.1))

def history (rt : ρ) (calls : List Call) : Managed ρ × List Event :=
  calls.foldl (step s) ({ rt := rt }, [])

/-! The protocol. -/

/-- A configure hook succeeded, and no cleanup hook has run since. -/
def Configured : List Event → Prop :=
  Since (fun _ e => e = .hook .onConfigure true) fun e => ∃ ok, e = .hook .onCleanup ok

/-- An activate hook succeeded, and no deactivate hook has been called since. -/
def Running : List Event → Prop :=
  Since (fun _ e => e = .hook .onActivate true) fun e => ∃ ok, e = .hook .onDeactivate ok

def Shut : List Event → Prop := Once fun e => e = .shut

/-- May this be seen next? -/
def Allowed (past : List Event) : Event → Prop
  | .hook .onConfigure _ => ¬ Shut past
  | .hook .onActivate _ => Configured past ∧ ¬ Shut past
  | .hook .onCleanup _ => ¬ Running past
  | .hook .onDeactivate _ => True
  | .shut => True

/-- The calls that keep the protocol, by the state that they find. -/
def Sound (st : LifecycleState) (seen : List Event) : Call → Prop
  | .configure | .activate => Shut seen → st = .active ∨ st = .finalized
  | .cleanup => st = .active → ¬ Running seen
  | .restart => ¬ Shut seen ∧ (st = .active → ¬ Running seen)
  | .deactivate | .shutdown => True

/-! What a call does to the state and what is seen of it. -/

inductive Moves : Call → LifecycleState → List Event → LifecycleState → Prop
  | configure {st : LifecycleState} (opened : st = .unconfigured ∨ st = .inactive) (ok : Bool) :
    Moves .configure st [.hook .onConfigure ok] (if ok then .inactive else st)
  | configureRefused {st : LifecycleState} (closed : st = .active ∨ st = .finalized) : Moves .configure st [] st
  | activate (ok : Bool) : Moves .activate .inactive [.hook .onActivate ok] (if ok then .active else .inactive)
  | activateRefused {st : LifecycleState} (closed : st = .active ∨ st = .finalized) : Moves .activate st [] st
  | activateUnready : Moves .activate .unconfigured [.hook .onConfigure false] .unconfigured
  | activateFresh (ok : Bool) :
    Moves .activate .unconfigured [.hook .onConfigure true, .hook .onActivate ok]
      (if ok then .active else .inactive)
  | deactivate (ok : Bool) : Moves .deactivate .active [.hook .onDeactivate ok] (if ok then .inactive else .active)
  | deactivateIdle {st : LifecycleState} (idle : st ≠ .active) : Moves .deactivate st [] st
  | cleanup (st : LifecycleState) (ok : Bool) : Moves .cleanup st [.hook .onCleanup ok] .unconfigured
  | restart (st : LifecycleState) (ok : Bool) {new : List Event} {st' : LifecycleState}
      (again : Moves .activate .unconfigured new st') : Moves .restart st (.hook .onCleanup ok :: new) st'
  | shutdown {st : LifecycleState} {new : List Event} {st' : LifecycleState} (first : Moves .deactivate st new st')
      (ok : Bool) : Moves .shutdown st (new ++ [.hook .onCleanup ok, .shut]) .finalized

/-- The hooks that a call noted, as events. -/
def Noted (m m' : Managed ρ) (new : List Event) : Prop :=
  ∃ noted : List HookCall, m'.calls = m.calls ++ noted ∧ (noted.map fun c => Event.hook c.hook c.ok) = new

variable {s} {m m' m'' : Managed ρ}

private theorem Noted.refl (m : Managed ρ) : Noted m m [] := ⟨[], by simp, rfl⟩

private theorem Noted.trans {one two : List Event} (first : Noted m m' one) (second : Noted m' m'' two) :
    Noted m m'' (one ++ two) := by
  obtain ⟨a, ha, rfl⟩ := first
  obtain ⟨b, hb, rfl⟩ := second
  exact ⟨a ++ b, by rw [hb, ha, List.append_assoc], List.map_append⟩

private theorem Noted.events {new : List Event} (noted : Noted m m' new) (call : Call) :
    eventsOf call m m' = new ++ if call = .shutdown then [.shut] else [] := by
  obtain ⟨calls, same, rfl⟩ := noted
  rw [eventsOf, same, List.drop_left]

/-- A guarded hook is one event, and moves the service if it succeeds. -/
private theorem guardTo_noted (h : Hook) (st : LifecycleState) (m : Managed ρ) :
    ∃ ok, Noted m (guardTo s h st m).2 [.hook h ok] ∧ (guardTo s h st m).1 = ok ∧
      (guardTo s h st m).2.state s.name = if ok then st else m.state s.name := by
  obtain ⟨ok, error, run⟩ := guardHook_eq s h m
  refine ⟨ok, ?_⟩
  unfold guardTo
  rw [run]
  cases ok with
  | true => exact ⟨⟨[_], rfl, rfl⟩, rfl, by simp [Managed.setState_state]⟩
  | false => exact ⟨⟨[_], rfl, rfl⟩, rfl, by simp [Managed.state, Managed.setRecord]⟩

private theorem configure_moves (m : Managed ρ) : ∃ new, Noted m (configure s m).2 new ∧
    Moves .configure (m.state s.name) new ((configure s m).2.state s.name) := by
  unfold configure
  split
  · rename_i opened
    obtain ⟨ok, noted, -, ended⟩ := guardTo_noted (s := s) .onConfigure .inactive m
    exact ⟨_, noted, ended ▸ .configure opened ok⟩
  · rename_i closed
    refine ⟨[], .refl m, .configureRefused ?_⟩
    cases at_ : m.state s.name <;> simp_all

private theorem activate_moves (m : Managed ρ) : ∃ new, Noted m (activate s m).2 new ∧
    Moves .activate (m.state s.name) new ((activate s m).2.state s.name) := by
  cases at_ : m.state s.name with
  | active =>
    rw [activate, if_pos at_]
    exact ⟨[], .refl m, at_ ▸ .activateRefused (.inl at_)⟩
  | inactive =>
    rw [activate, if_neg (by simp [at_]), if_pos at_]
    obtain ⟨ok, noted, -, ended⟩ := guardTo_noted (s := s) .onActivate .active m
    rw [at_] at ended
    exact ⟨_, noted, ended ▸ .activate ok⟩
  | finalized =>
    have refused : configure s m = (false, m) := by simp [configure, at_]
    rw [activate, if_neg (by simp [at_]), if_neg (by simp [at_]), refused]
    exact ⟨[], .refl m, at_ ▸ .activateRefused (.inr at_)⟩
  | unconfigured =>
    have first : configure s m = guardTo s .onConfigure .inactive m := by simp [configure, at_]
    obtain ⟨ok, noted, answer, ended⟩ := guardTo_noted (s := s) .onConfigure .inactive m
    rw [activate, if_neg (by simp [at_]), if_neg (by simp [at_]), first]
    rcases run : guardTo s .onConfigure .inactive m with ⟨b, m'⟩
    rw [run] at noted answer ended
    obtain rfl : b = ok := answer
    cases b with
    | false => exact ⟨_, noted, by rw [ended, at_]; exact .activateUnready⟩
    | true =>
      obtain ⟨ok', noted', -, ended'⟩ := guardTo_noted (s := s) .onActivate .active m'
      refine ⟨_, noted.trans noted', ?_⟩
      rw [show m'.state s.name = .inactive from ended] at ended'
      exact ended' ▸ .activateFresh ok'

private theorem deactivate_moves (m : Managed ρ) : ∃ new, Noted m (deactivate s m).2 new ∧
    Moves .deactivate (m.state s.name) new ((deactivate s m).2.state s.name) := by
  unfold deactivate
  split
  · rename_i running
    obtain ⟨ok, noted, -, ended⟩ := guardTo_noted (s := s) .onDeactivate .inactive m
    rw [running] at ended ⊢
    exact ⟨_, noted, ended ▸ .deactivate ok⟩
  · rename_i idle
    exact ⟨[], .refl m, .deactivateIdle idle⟩

private theorem cleanup_moves (m : Managed ρ) : ∃ ok, Noted m (cleanup s m).2 [.hook .onCleanup ok] ∧
    (cleanup s m).2.state s.name = .unconfigured := by
  obtain ⟨ok, error, run⟩ := guardHook_eq s .onCleanup m
  refine ⟨ok, ?_⟩
  rw [cleanup, run]
  exact ⟨⟨[_], rfl, rfl⟩, by simp [Managed.setState_state]⟩

theorem perform_moves (call : Call) (m : Managed ρ) :
    Moves call (m.state s.name) (eventsOf call m (perform s call m)) ((perform s call m).state s.name) := by
  cases call with
  | configure =>
    obtain ⟨new, noted, moves⟩ := configure_moves (s := s) m
    rw [perform, noted.events, if_neg (by decide), List.append_nil]
    exact moves
  | activate =>
    obtain ⟨new, noted, moves⟩ := activate_moves (s := s) m
    rw [perform, noted.events, if_neg (by decide), List.append_nil]
    exact moves
  | deactivate =>
    obtain ⟨new, noted, moves⟩ := deactivate_moves (s := s) m
    rw [perform, noted.events, if_neg (by decide), List.append_nil]
    exact moves
  | cleanup =>
    obtain ⟨ok, noted, ended⟩ := cleanup_moves (s := s) m
    rw [perform, noted.events, if_neg (by decide), List.append_nil, ended]
    exact .cleanup _ ok
  | restart =>
    have counted : Noted m (m.setRecord s.name fun r => { r with restartCount := r.restartCount + 1 }) [] :=
      ⟨[], by simp [Managed.setRecord], rfl⟩
    obtain ⟨ok, noted, ended⟩ := cleanup_moves (s := s)
      (m.setRecord s.name fun r => { r with restartCount := r.restartCount + 1 })
    obtain ⟨new, noted', moves⟩ := activate_moves (s := s)
      (cleanup s (m.setRecord s.name fun r => { r with restartCount := r.restartCount + 1 })).2
    have all := counted.trans (noted.trans noted')
    rw [ended] at moves
    rw [perform, restart, all.events, if_neg (by decide), List.append_nil]
    exact .restart _ ok moves
  | shutdown =>
    obtain ⟨new, noted, moves⟩ := deactivate_moves (s := s) m
    obtain ⟨ok, noted'⟩ : ∃ ok, Noted (deactivate s m).2 (shutdown s m).2 [.hook .onCleanup ok] := by
      exact ⟨_, [_], rfl, rfl⟩
    have ended : (shutdown s m).2.state s.name = .finalized := by
      simp [shutdown, runHook, Managed.setState_state]
    rw [perform, (noted.trans noted').events, if_pos rfl, ended, List.append_assoc]
    exact .shutdown moves ok

/-! One call keeps the protocol exactly when it is sound. -/

/-- What the state tells of the events behind it. -/
structure Tracked (st : LifecycleState) (seen : List Event) : Prop where
  configured : st = .inactive ∨ st = .active → Configured seen
  running : Running seen → st = .active

private theorem tracked_start : Tracked .unconfigured [] := by
  constructor
  · rintro (early | early)
    · cases early
    · cases early
  · intro running
    exact absurd running (since_nil _ _)

variable {st st' : LifecycleState} {seen new : List Event}

@[simp] private theorem configured_snoc (e : Event) : Configured (seen ++ [e]) ↔
    e = .hook .onConfigure true ∨ Configured seen ∧ ¬ ∃ ok, e = .hook .onCleanup ok := since_snoc _ _ _ _

@[simp] private theorem running_snoc (e : Event) : Running (seen ++ [e]) ↔
    e = .hook .onActivate true ∨ Running seen ∧ ¬ ∃ ok, e = .hook .onDeactivate ok := since_snoc _ _ _ _

@[simp] private theorem shut_snoc (e : Event) : Shut (seen ++ [e]) ↔ Shut seen ∨ e = .shut := once_snoc _ _ _

/-- The activation half of a call needs no more than that an inactive service was configured. -/
private theorem activate_allowed_iff (seen : List Event) (moves : Moves .activate st new st')
    (configured : st = .inactive → Configured seen) :
    Throughout Allowed (seen ++ new) ↔ Throughout Allowed seen ∧ Sound st seen .activate := by
  cases moves with
  | activate ok =>
    rw [throughout_snoc]
    simp [Allowed, Sound, configured rfl]
  | activateRefused closed =>
    rw [List.append_nil]
    exact (and_iff_left fun _ => closed).symm
  | activateUnready =>
    rw [throughout_snoc]
    simp [Allowed, Sound]
  | activateFresh ok =>
    rw [show seen ++ [Event.hook .onConfigure true, .hook .onActivate ok]
      = seen ++ [.hook .onConfigure true] ++ [.hook .onActivate ok] by simp, throughout_snoc, throughout_snoc]
    simp [Allowed, Sound]

theorem allowed_iff_sound {call : Call} (moves : Moves call st new st') (tracked : Tracked st seen) :
    Throughout Allowed (seen ++ new) ↔ Throughout Allowed seen ∧ Sound st seen call := by
  have cleanup_iff : ¬ Running seen ↔ (st = .active → ¬ Running seen) :=
    ⟨fun quiet _ => quiet, fun quiet running => quiet (tracked.running running) running⟩
  cases moves with
  | configure opened ok =>
    rw [throughout_snoc]
    refine and_congr_right fun _ => ⟨fun unshut shut => absurd shut unshut, fun sound shut => ?_⟩
    rcases sound shut with active | finalized
    · rcases opened with rfl | rfl <;> cases active
    · rcases opened with rfl | rfl <;> cases finalized
  | configureRefused closed =>
    rw [List.append_nil]
    exact (and_iff_left fun _ => closed).symm
  | deactivate ok =>
    rw [throughout_snoc]
    exact Iff.rfl
  | deactivateIdle idle =>
    rw [List.append_nil]
    exact (and_iff_left trivial).symm
  | cleanup _ ok =>
    rw [throughout_snoc]
    exact and_congr_right fun _ => cleanup_iff
  | restart _ ok again =>
    rename_i rest
    rw [show seen ++ Event.hook .onCleanup ok :: rest = seen ++ [.hook .onCleanup ok] ++ rest by simp]
    have second := activate_allowed_iff (seen ++ [.hook .onCleanup ok]) again
      (fun early => by cases early)
    have fresh : Sound .unconfigured (seen ++ [.hook .onCleanup ok]) .activate ↔ ¬ Shut seen := by
      simp [Sound]
    rw [second, throughout_snoc, fresh, and_assoc]
    refine and_congr_right fun _ => ?_
    rw [and_comm]
    exact and_congr_right fun _ => cleanup_iff
  | shutdown first ok =>
    cases first with
    | deactivate ok' =>
      rw [show seen ++ ([Event.hook .onDeactivate ok'] ++ [.hook .onCleanup ok, .shut])
        = seen ++ [.hook .onDeactivate ok'] ++ [.hook .onCleanup ok] ++ [.shut] by simp,
        throughout_snoc, throughout_snoc, throughout_snoc]
      simp [Allowed, Sound]
    | deactivateIdle idle =>
      rw [show seen ++ ([] ++ [Event.hook .onCleanup ok, .shut])
        = seen ++ [.hook .onCleanup ok] ++ [.shut] by simp, throughout_snoc, throughout_snoc]
      have quiet : ¬ Running seen := fun running => idle (tracked.running running)
      simp [Allowed, Sound, quiet]
  | activate ok => exact activate_allowed_iff seen (.activate ok) fun early => tracked.configured (.inl early)
  | activateRefused closed =>
    exact activate_allowed_iff seen (.activateRefused closed) fun early => tracked.configured (.inl early)
  | activateUnready => exact activate_allowed_iff seen .activateUnready fun early => by cases early
  | activateFresh ok => exact activate_allowed_iff seen (.activateFresh ok) fun early => by cases early

/-- Activation carries the tracking along whatever it finds. -/
private theorem tracked_activate (moves : Moves .activate st new st') (tracked : Tracked st seen) :
    Tracked st' (seen ++ new) := by
  obtain ⟨configured, running⟩ := tracked
  cases moves with
  | activate ok => cases ok <;> constructor <;> simp_all
  | activateRefused closed => simpa using (⟨configured, running⟩ : Tracked st seen)
  | activateUnready => constructor <;> simp_all
  | activateFresh ok =>
    rw [show seen ++ [Event.hook .onConfigure true, .hook .onActivate ok]
      = seen ++ [.hook .onConfigure true] ++ [.hook .onActivate ok] by simp]
    cases ok <;> constructor <;> simp_all [-List.append_assoc]

private theorem tracked_cleanup (quiet : ¬ Running seen) (ok : Bool) :
    Tracked .unconfigured (seen ++ [.hook .onCleanup ok]) := by
  constructor <;> simp_all

theorem tracked_step {call : Call} (moves : Moves call st new st') (tracked : Tracked st seen)
    (sound : Sound st seen call) : Tracked st' (seen ++ new) := by
  have quiet (idle : st = .active → ¬ Running seen) : ¬ Running seen := fun running =>
    idle (tracked.running running) running
  have given := tracked
  obtain ⟨configured, running⟩ := tracked
  cases moves with
  | configure opened ok =>
    rcases opened with rfl | rfl
    · cases ok <;> constructor <;> simp_all
    · cases ok <;> constructor <;> simp_all
  | configureRefused closed => simpa using given
  | activate ok => exact tracked_activate (.activate ok) given
  | activateRefused closed => exact tracked_activate (.activateRefused closed) given
  | activateUnready => exact tracked_activate .activateUnready given
  | activateFresh ok => exact tracked_activate (.activateFresh ok) given
  | deactivate ok => cases ok <;> constructor <;> simp_all
  | deactivateIdle idle => simpa using given
  | cleanup _ ok => exact tracked_cleanup (quiet sound) ok
  | restart _ ok again =>
    rename_i rest
    rw [show seen ++ Event.hook .onCleanup ok :: rest = seen ++ [.hook .onCleanup ok] ++ rest by simp]
    exact tracked_activate again (tracked_cleanup (quiet sound.2) ok)
  | shutdown first ok =>
    cases first with
    | deactivate ok' =>
      rw [show seen ++ ([Event.hook .onDeactivate ok'] ++ [.hook .onCleanup ok, .shut])
        = seen ++ [.hook .onDeactivate ok'] ++ [.hook .onCleanup ok] ++ [.shut] by simp]
      constructor <;> simp_all [-List.append_assoc]
    | deactivateIdle idle =>
      rw [show seen ++ ([] ++ [Event.hook .onCleanup ok, .shut])
        = seen ++ [.hook .onCleanup ok] ++ [.shut] by simp]
      have silent : ¬ Running seen := fun is => idle (running is)
      constructor <;> simp_all [-List.append_assoc]

/-! Runs of calls. -/

variable (s)

private theorem history_snoc (rt : ρ) (calls : List Call) (call : Call) :
    history s rt (calls ++ [call]) = step s (history s rt calls) call := List.foldl_concat _ _ _ _

/-- The sound calls of a run, each by the state and the events that it finds. -/
def SoundCall (rt : ρ) (before : List Call) (call : Call) : Prop :=
  Sound ((history s rt before).1.state s.name) (history s rt before).2 call

private theorem tracked_run (rt : ρ) {calls : List Call} (sound : Throughout (SoundCall s rt) calls) :
    Tracked ((history s rt calls).1.state s.name) (history s rt calls).2 := by
  refine throughout_of_invariant
    (I := fun calls => Tracked ((history s rt calls).1.state s.name) (history s rt calls).2) ?_ ?_ sound
  · exact tracked_start
  · intro before call tracked sound
    rw [history_snoc]
    exact tracked_step (perform_moves call _) tracked sound

/-- A run of calls shows the protocol exactly when each of its calls is sound where it is made. -/
theorem protocol_iff (rt : ρ) (calls : List Call) :
    Throughout Allowed (history s rt calls).2 ↔ Throughout (SoundCall s rt) calls := by
  induction calls using List.reverseRecOn with
  | nil => exact iff_of_true (throughout_nil _) (throughout_nil _)
  | append_singleton before call ih =>
    rw [history_snoc, throughout_snoc, ← ih]
    by_cases kept : Throughout Allowed (history s rt before).2
    · have tracked := tracked_run s rt (ih.mp kept)
      exact allowed_iff_sound (perform_moves call _) tracked
    · refine iff_of_false (fun all => kept ?_) fun both => kept both.1
      exact throughout_initial all

/-- A service whose hooks all succeed. -/
def obedient : ManagedService Unit := { name := "obedient" }

/-- A restart cleans up what is still active, and starts again what was shut down. -/
theorem restart_breaks_protocol :
    (history obedient () [.activate, .restart]).2 =
      [.hook .onConfigure true, .hook .onActivate true, .hook .onCleanup true, .hook .onConfigure true,
        .hook .onActivate true] ∧
    ¬ Throughout Allowed (history obedient () [.activate, .restart]).2 ∧
    (history obedient () [.shutdown, .restart]).2 =
      [.hook .onCleanup true, .shut, .hook .onCleanup true, .hook .onConfigure true, .hook .onActivate true] ∧
    ¬ Throughout Allowed (history obedient () [.shutdown, .restart]).2 := by
  have first : (history obedient () [.activate, .restart]).2 =
      [.hook .onConfigure true, .hook .onActivate true, .hook .onCleanup true, .hook .onConfigure true,
        .hook .onActivate true] := by decide +kernel
  have second : (history obedient () [.shutdown, .restart]).2 =
      [.hook .onCleanup true, .shut, .hook .onCleanup true, .hook .onConfigure true, .hook .onActivate true] := by
    decide +kernel
  refine ⟨first, fun kept => ?_, second, fun kept => ?_⟩
  · rw [first] at kept
    refine kept [_, _] _ [_, _] rfl ?_
    exact ⟨[_], _, [], rfl, rfl, by simp⟩
  · rw [second] at kept
    refine kept [_, _, _] _ [_] rfl ?_
    exact ⟨.shut, by simp, rfl⟩

end DroidOs.Services.LifecycleProtocol
