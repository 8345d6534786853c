/- GID: DroidOs/Firmware/ContactorLaw
   generality: I
   digest: When the contactor is closed at the end of an iteration, over every run from reset. -/

import DroidOs.Firmware.InputHistory

set_option autoImplicit false
set_option relaxedAutoImplicit false

namespace DroidOs.Firmware.ContactorLaw

open Protocol Controller InputHistory
open DroidOs.Lib.History

private theorem updateContactor_contactor (ms : BitVec 32) (s : Safety) :
    (updateContactor ms s).contactor = (s.powerRequested && mayEnablePower ms s) := by
  unfold updateContactor
  split <;> simp_all

private theorem faults_zero_iff {resetMs : BitVec 32} {h : List Input} {s : Safety}
    (agree : Reflects resetMs h s) : s.faults = 0#8 ↔ ∀ n, ¬ Stands resetMs n h := by
  constructor
  · intro zero n stands
    have bit := (agree.faults n).mpr stands
    simp [zero] at bit
  · intro none
    refine BitVec.eq_of_getLsbD_eq fun n _ => ?_
    have clear : ¬ s.faults.getLsbD n = true := fun bit => none n ((agree.faults n).mp bit)
    simpa using clear

/-- At the end of an iteration the contactor is closed exactly when the request
stands, the e-stop was never seen, no fault bit stands and the host is fresh. -/
theorem contactor_closed_iff (resetMs : BitVec 32) (its : List Iteration) (i : Iteration) :
    (run resetMs (its ++ [i])).safety.contactor = true ↔
      Requested (inputs (its ++ [i])) ∧ ¬ EstopSeen (inputs (its ++ [i])) ∧
      (∀ n, ¬ Stands resetMs n (inputs (its ++ [i]))) ∧
      ¬ silentAt resetMs (inputs (its ++ [i])) i.updateMs := by
  have agree := reflects_decision resetMs its i
  rw [run_snoc, iterate_safety, updateContactor_contactor]
  have fresh (a b : BitVec 32) : a.ult b = true ↔ ¬ b.ule a = true := by
    simp [BitVec.ult, BitVec.ule]
  simp only [mayEnablePower, Bool.and_eq_true, Bool.not_eq_true', beq_iff_eq, fresh,
    agree.lastHost, faults_zero_iff agree, agree.requested, silentAt, and_assoc]
  rw [← Bool.not_eq_true, agree.latched]

/-- The law of the safe state over a run: at the end of every iteration, an
entry into the safe state that no ENABLE_POWER has followed finds the contactor open. -/
def SafeStateHolds (resetMs : BitVec 32) (its : List Iteration) : Prop :=
  ∀ before i after, its = before ++ i :: after →
    (run resetMs (before ++ [i])).safety.safePending = true →
      (run resetMs (before ++ [i])).safety.contactor = false

/-- Something other than the safe-state entry itself keeps the contactor open:
the request was withdrawn, the e-stop latch, an uncleared fault bit or silence. -/
def HeldOpen (resetMs : BitVec 32) (h : List Input) (ms : BitVec 32) : Prop :=
  ¬ Requested h ∨ EstopSeen h ∨ (∃ n, Stands resetMs n h) ∨ silentAt resetMs h ms

private theorem contactor_open_iff (resetMs : BitVec 32) (its : List Iteration) (i : Iteration) :
    (run resetMs (its ++ [i])).safety.contactor = false ↔
      HeldOpen resetMs (inputs (its ++ [i])) i.updateMs := by
  rw [← Bool.not_eq_true, contactor_closed_iff, HeldOpen]
  simp only [not_and_or, not_not, not_forall]

/-- The safe state holds over a run exactly when, at the end of each iteration
that a safe-state entry binds, the inputs so far hold the contactor open. -/
theorem safe_state_holds_iff (resetMs : BitVec 32) (its : List Iteration) :
    SafeStateHolds resetMs its ↔
      ∀ before i after, its = before ++ i :: after →
        SafePending resetMs (inputs (before ++ [i])) →
          HeldOpen resetMs (inputs (before ++ [i])) i.updateMs := by
  unfold SafeStateHolds
  refine forall_congr' fun before => forall_congr' fun i => forall_congr' fun after =>
    forall_congr' fun _ => ?_
  rw [(reflects_run resetMs (before ++ [i])).pending, contactor_open_iff]

/-- Quiet inputs: e-stop released, motors cool, no limit switch. -/
def quiet : Hardware := ⟨false, 25, false⟩

/-- A frame without payload. -/
def bare (t : BitVec 8) : Frame := ⟨t, fun _ => 0#8, 0#8⟩

/-- An unknown command after ENABLE_POWER, and a CLEAR_FAULT after an
over-temperature: both runs end with the contactor closed again. -/
theorem safe_state_reenergised :
    (¬ SafeStateHolds 0#32
      [⟨[(bare msgEnablePower, 1#32), (bare 0x7F#8, 2#32)], quiet, 3#32, 4#32, 5#32, 6#32⟩]) ∧
    ¬ SafeStateHolds 0#32
      [⟨[(bare msgEnablePower, 1#32)], ⟨false, 90, false⟩, 2#32, 3#32, 4#32, 5#32⟩,
       ⟨[(bare msgClearFault, 6#32)], quiet, 7#32, 8#32, 9#32, 10#32⟩] := by
  constructor
  · intro law
    exact absurd (law [] _ [] rfl (by decide)) (by decide)
  · intro law
    exact absurd (law [_] _ [] rfl (by decide)) (by decide)

/-- Every reading of `hal_millis` in one iteration, in the order of the calls. -/
def readings (i : Iteration) : List (BitVec 32) :=
  i.frames.map Prod.snd ++ [i.pollMs, i.updateMs, i.nowMs, i.sendMs]

/-- The clock never goes back between two calls of `hal_millis`. -/
def MonotoneClock (resetMs : BitVec 32) (its : List Iteration) : Prop :=
  (resetMs :: its.flatMap readings).Pairwise (· ≤ ·)

private theorem lastHost_source (resetMs : BitVec 32) (h : List Input) :
    lastHost resetMs h = resetMs ∨ ∃ f, Input.frame f (lastHost resetMs h) ∈ h := by
  induction h using List.reverseRecOn with
  | nil => exact Or.inl rfl
  | append_singleton h x ih =>
    cases x with
    | frame f ms => exact Or.inr ⟨f, by simp [lastHost_snoc]⟩
    | poll hw ms =>
      rw [lastHost_snoc]
      rcases ih with start | ⟨f, member⟩
      · exact Or.inl start
      · exact Or.inr ⟨f, by simp [member]⟩

private theorem frame_reading {its : List Iteration} {f : Frame} {ms : BitVec 32}
    (member : Input.frame f ms ∈ inputs its) : ∃ i ∈ its, ms ∈ i.frames.map Prod.snd := by
  obtain ⟨i, inside, found⟩ := List.mem_flatMap.mp member
  refine ⟨i, inside, ?_⟩
  simp only [iterationInputs, List.mem_append, List.mem_map, List.mem_singleton, reduceCtorEq,
    or_false] at found
  obtain ⟨fm, here, equal⟩ := found
  obtain ⟨rfl, rfl⟩ := Input.frame.inj equal
  exact List.mem_map_of_mem here

private theorem lastHost_le_update {resetMs : BitVec 32} {its : List Iteration} {i : Iteration}
    (clock : MonotoneClock resetMs (its ++ [i])) :
    lastHost resetMs (inputs (its ++ [i])) ≤ i.updateMs := by
  have split : resetMs :: (its ++ [i]).flatMap readings =
      ((resetMs :: its.flatMap readings) ++ i.frames.map Prod.snd ++ [i.pollMs]) ++
        [i.updateMs, i.nowMs, i.sendMs] := by
    simp [readings]
  rw [MonotoneClock, split] at clock
  have earlier := (List.pairwise_append.mp clock).2.2
  refine earlier _ ?_ _ (by simp)
  rcases lastHost_source resetMs (inputs (its ++ [i])) with start | ⟨f, member⟩
  · rw [start]
    simp
  · obtain ⟨j, inside, reading⟩ := frame_reading member
    rcases List.mem_append.mp inside with before | now
    · have old : lastHost resetMs (inputs (its ++ [i])) ∈ its.flatMap readings :=
        List.mem_flatMap.mpr ⟨j, before, List.mem_append_left _ reading⟩
      simp only [List.mem_append, List.mem_cons]
      exact Or.inl (Or.inl (Or.inr old))
    · obtain rfl := List.mem_singleton.mp now
      simp only [List.mem_append]
      exact Or.inl (Or.inr reading)

/-- With a monotone clock, a contactor closed at the end of an iteration has a
standing request, no fault, no latch and a fresh host behind it; and an e-stop
once seen keeps it open at the end of every iteration, whatever frames arrive. -/
theorem contactor_closed_sound (resetMs : BitVec 32) (its : List Iteration) (i : Iteration)
    (clock : MonotoneClock resetMs (its ++ [i])) :
    let s := (run resetMs (its ++ [i])).safety
    let last := lastHost resetMs (inputs (its ++ [i]))
    (s.contactor = true →
      s.powerRequested = true ∧ Requested (inputs (its ++ [i])) ∧ s.faults = 0#8 ∧
      s.estopLatched = false ∧ ¬ EstopSeen (inputs (its ++ [i])) ∧
      last ≤ i.updateMs ∧ i.updateMs.toNat - last.toNat < hostTimeoutMs.toNat) ∧
    (EstopSeen (inputs (its ++ [i])) → s.contactor = false) := by
  intro s last
  have agree := reflects_run resetMs (its ++ [i])
  have ordered := lastHost_le_update clock
  constructor
  · intro closed
    obtain ⟨requested, unseen, clear, fresh⟩ := (contactor_closed_iff resetMs its i).mp closed
    have unlatched : ¬ s.estopLatched = true := fun latched => unseen (agree.latched.mp latched)
    refine ⟨agree.requested.mpr requested, requested, (faults_zero_iff agree).mpr clear,
      by simpa using unlatched, unseen, ordered, ?_⟩
    have small : (i.updateMs - last).toNat < hostTimeoutMs.toNat := by
      change ¬ hostTimeoutMs.ule (i.updateMs - last) = true at fresh
      simpa only [BitVec.ule, decide_eq_true_eq, not_le] using fresh
    rwa [BitVec.toNat_sub_of_le ordered] at small
  · intro seen
    rw [← Bool.not_eq_true]
    intro closed
    exact ((contactor_closed_iff resetMs its i).mp closed).2.1 seen

/-- A first iteration that asks for power and gets it. -/
theorem contactor_closed_sound_first :
    (run 0#32 [⟨[(bare msgEnablePower, 1#32)], quiet, 2#32, 3#32, 4#32, 5#32⟩]).safety.contactor
      = true ∧
    (3#32 : BitVec 32).toNat - (lastHost 0#32 (inputs
      [⟨[(bare msgEnablePower, 1#32)], quiet, 2#32, 3#32, 4#32, 5#32⟩])).toNat < 100 := by
  have closed : (run 0#32
      [⟨[(bare msgEnablePower, 1#32)], quiet, 2#32, 3#32, 4#32, 5#32⟩]).safety.contactor = true := by
    decide
  exact ⟨closed, ((contactor_closed_sound 0#32 []
    ⟨[(bare msgEnablePower, 1#32)], quiet, 2#32, 3#32, 4#32, 5#32⟩
    (by simp only [MonotoneClock]; decide)).1 closed).2.2.2.2.2.2⟩

end DroidOs.Firmware.ContactorLaw
