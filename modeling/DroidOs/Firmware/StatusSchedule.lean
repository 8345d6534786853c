/- GID: DroidOs/Firmware/StatusSchedule
   generality: I
   digest: When a due STATE frame is sent, with absolute 32-bit times compared across wraps. -/

import DroidOs.Firmware.RealTime

set_option autoImplicit false
set_option relaxedAutoImplicit false

namespace DroidOs.Firmware.StatusSchedule

open Protocol Controller RealTime

variable (start : ℕ) (ps : ℕ → Pass)

/-- Pass `n` sends a STATE frame. -/
def Sends (n : ℕ) : Prop :=
  ∃ payload, (after start ps (n + 1)).sent = (after start ps n).sent ++ [payload]

/-- The last pass before pass `n` that sent a STATE frame. -/
def lastSending : ℕ → Option Pass
  | 0 => none
  | n + 1 =>
    if (after start ps n).sent.length < (after start ps (n + 1)).sent.length then some (ps n)
    else lastSending n

/-- The schedule: a pass sends if state_period has passed since the last STATE frame. -/
def Prompt (n : ℕ) : Prop :=
  ∀ p, lastSending start ps n = some p → p.send + statePeriod.toNat ≤ (ps n).now → Sends start ps n

/-- The moment at which a pass that sent schedules the next frame. -/
def due (p : Pass) : ℕ := p.now + statePeriod.toNat

/-- When state_period has passed, the clock is still in the lap in which the
frame fell due, or has come round to that reading again. -/
def InLap (n : ℕ) : Prop :=
  ∀ p, lastSending start ps n = some p → p.send + statePeriod.toNat ≤ (ps n).now →
    (ps n).now / 2 ^ 32 = due p / 2 ^ 32 ∨ due p % 2 ^ 32 ≤ (ps n).now % 2 ^ 32

variable {start ps}

/-- What a pass does to the schedule. -/
private theorem pass_cases (n : ℕ) :
    ((after start ps n).nextStateTx.ule (halMillis (ps n).now) = true ∧
      (after start ps (n + 1)).nextStateTx = halMillis (due (ps n)) ∧
      ∃ payload, (after start ps (n + 1)).sent = (after start ps n).sent ++ [payload]) ∨
    (¬ (after start ps n).nextStateTx.ule (halMillis (ps n).now) = true ∧
      (after start ps (n + 1)).nextStateTx = (after start ps n).nextStateTx ∧
      (after start ps (n + 1)).sent = (after start ps n).sent) := by
  rw [after_succ, iterate]
  split
  case isTrue ready =>
    refine Or.inl ⟨ready, ?_, _, rfl⟩
    rw [due, halMillis, BitVec.ofNat_add]
    rfl
  case isFalse early => exact Or.inr ⟨early, rfl, rfl⟩

theorem sends_iff (n : ℕ) :
    Sends start ps n ↔ (after start ps n).nextStateTx.ule (halMillis (ps n).now) = true := by
  rcases @pass_cases start ps n with ⟨ready, _, sent⟩ | ⟨early, _, same⟩
  · exact iff_of_true sent ready
  · refine iff_of_false ?_ early
    rintro ⟨payload, grown⟩
    rw [same] at grown
    simpa using congrArg List.length grown

/-- The reading at which the next frame falls due, before pass `n`. -/
theorem next_due (n : ℕ) : (after start ps n).nextStateTx =
    ((lastSending start ps n).map fun p => halMillis (due p)).getD 0#32 := by
  induction n with
  | zero => rfl
  | succ n ih =>
    rw [lastSending]
    rcases @pass_cases start ps n with ⟨_, next, payload, sent⟩ | ⟨_, next, sent⟩
    · rw [next, if_pos (by simp [sent])]
      rfl
    · rw [next, if_neg (by simp [sent]), ih]

/-- The first pass always sends. -/
theorem first_sends : Sends start ps 0 := by
  rw [sends_iff]
  simp [after, reads, run, reset, BitVec.ule]

theorem lastSending_now_le (order : Ordered start ps) {n : ℕ} {p : Pass}
    (sent : lastSending start ps n = some p) : p.now ≤ p.send := by
  induction n with
  | zero => cases sent
  | succ n ih =>
    rw [lastSending] at sent
    split at sent
    · obtain rfl := Option.some.inj sent
      exact (order.calls n).2.2.1
    · exact ih sent

private theorem prompt_iff (order : Ordered start ps) (n : ℕ) :
    Prompt start ps n ↔ InLap start ps n := by
  refine forall_congr' fun p => forall_congr' fun sent => forall_congr' fun elapsed => ?_
  have reached : due p ≤ (ps n).now := by
    have := lastSending_now_le order sent
    simp only [due]
    omega
  rw [sends_iff, next_due, sent]
  simp only [Option.map_some, Option.getD_some, BitVec.ule, halMillis, BitVec.toNat_ofNat,
    decide_eq_true_eq]
  constructor
  · intro late
    exact Or.inr late
  · rintro (lap | late)
    · omega
    · exact late

/-- In a run STATE frames are sent on time throughout exactly when no due frame
is overtaken by a wrap of the clock before a pass has seen it due. -/
theorem prompt_throughout_iff (start : ℕ) (ps : ℕ → Pass) (order : Ordered start ps) :
    (∀ n, Prompt start ps n) ↔ ∀ n, InLap start ps n :=
  forall_congr' fun n => prompt_iff order n

/-- The last frame before the wrap falls due one millisecond before it, and the
next pass comes just after it. -/
def wrapping (n : ℕ) : ℕ := if n = 0 then 2 ^ 32 - 21 else 2 ^ 32 + n

/-- Twenty-two milliseconds after the last frame the pass after the wrap sends none. -/
theorem wrapped_frame_missed : ¬ ∀ n, Prompt (2 ^ 32 - 22) (idle wrapping) n := by
  intro prompt
  have sent : lastSending (2 ^ 32 - 22) (idle wrapping) 1 = some (idle wrapping 0) :=
    if_pos (by decide +kernel)
  have missed := prompt 1 _ sent (by decide)
  rw [sends_iff] at missed
  exact absurd missed (by decide +kernel)

/-- A pass every twenty milliseconds. -/
def steady (n : ℕ) : ℕ := 20 * n

private theorem steady_next (n : ℕ) :
    (after 0 (idle steady) n).nextStateTx = halMillis (steady n) := by
  induction n with
  | zero => rfl
  | succ n ih =>
    rcases @pass_cases 0 (idle steady) n with ⟨_, next, _⟩ | ⟨early, _⟩
    · exact next
    · rw [ih] at early
      exact absurd (by simp [BitVec.ule, idle]) early

/-- A steady loop is never late, also where the clock wraps. -/
theorem prompt_throughout_steady : Prompt 0 (idle steady) 214748365 := by
  have order : Ordered 0 (idle steady) :=
    idle_ordered (by decide) fun n => by simp only [steady]; omega
  refine (prompt_throughout_iff 0 (idle steady) order).mpr (fun n p sent _ => ?_) 214748365
  right
  have next := @next_due 0 (idle steady) n
  rw [steady_next, sent] at next
  have reading := congrArg BitVec.toNat next
  simp only [Option.map_some, Option.getD_some, halMillis, BitVec.toNat_ofNat] at reading
  exact reading.ge

end DroidOs.Firmware.StatusSchedule
