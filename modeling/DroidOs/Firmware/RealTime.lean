/- GID: DroidOs/Firmware/RealTime
   generality: I
   source: firmware/safety-controller/src/main.c, hal.h
   digest: Endless runs of the control loop against a real clock that `hal_millis` reads modulo 2^32. -/

import DroidOs.Firmware.ContactorLaw

set_option autoImplicit false
set_option relaxedAutoImplicit false

namespace DroidOs.Firmware.RealTime

open Protocol Controller ContactorLaw

/-- What `hal_millis` returns at a moment of real time. -/
def halMillis (t : ℕ) : BitVec 32 := BitVec.ofNat 32 t

/-- One pass through the loop, with the real time of every call of `hal_millis`. -/
structure Pass where
  frames : List (Frame × ℕ)
  hw : Hardware
  poll : ℕ
  update : ℕ
  now : ℕ
  send : ℕ

namespace Pass

/-- What the code sees of a pass. -/
def read (p : Pass) : Iteration where
  frames := p.frames.map fun f => (f.1, halMillis f.2)
  hw := p.hw
  pollMs := halMillis p.poll
  updateMs := halMillis p.update
  nowMs := halMillis p.now
  sendMs := halMillis p.send

/-- The moments of a pass, in the order of the calls. -/
def moments (p : Pass) : List ℕ := p.frames.map Prod.snd ++ [p.poll, p.update, p.now, p.send]

/-- The moment of the last frame received, the previous one if the pass has none. -/
def contact (p : Pass) (previous : ℕ) : ℕ := (p.frames.getLast?.map Prod.snd).getD previous

end Pass

variable (start : ℕ) (ps : ℕ → Pass)

/-- The passes before pass `n`, as the code sees them. -/
def reads (n : ℕ) : List Iteration := (List.range n).map fun k => (ps k).read

/-- The loop from reset, before pass `n`. -/
def after (n : ℕ) : Main := run (halMillis start) (reads ps n)

/-- Real time never goes back between two calls of `hal_millis`. -/
def Ordered : Prop :=
  ∀ n, (start :: (List.range n).flatMap fun k => (ps k).moments).Pairwise (· ≤ ·)

/-- The moment of the last frame received before pass `n`, or of the reset. -/
def lastContact : ℕ → ℕ
  | 0 => start
  | n + 1 => (ps n).contact (lastContact n)

/-- The moment of the poll before pass `n`, or of the reset. -/
def lastPoll : ℕ → ℕ
  | 0 => start
  | n + 1 => (ps n).poll

/-- `poll_hardware_faults` runs again within 2^31 ms. -/
def PolledOften : Prop := ∀ n, (ps n).poll ≤ lastPoll start ps n + 2 ^ 31

@[simp] theorem reads_succ (n : ℕ) : reads ps (n + 1) = reads ps n ++ [(ps n).read] := by
  simp [reads, List.range_succ]

theorem after_succ (n : ℕ) : after start ps (n + 1) = iterate (after start ps n) (ps n).read := by
  rw [after, reads_succ, run_snoc, ← after]

/-- A difference of two readings is the time between them up to whole laps. -/
theorem toNat_elapsed {earlier later : ℕ} (order : earlier ≤ later) :
    (halMillis later - halMillis earlier).toNat = (later - earlier) % 2 ^ 32 := by
  simp only [halMillis, BitVec.toNat_sub, BitVec.toNat_ofNat]
  omega

variable {start ps}

namespace Ordered

/-- Every earlier moment of the run comes before every moment of a pass. -/
theorem before_pass (order : Ordered start ps) {n t : ℕ}
    (earlier : t ∈ start :: (List.range n).flatMap fun k => (ps k).moments) :
    ∀ m ∈ (ps n).moments, t ≤ m := by
  have whole := order (n + 1)
  rw [List.range_succ, List.flatMap_append, List.flatMap_singleton, ← List.cons_append,
    List.pairwise_append] at whole
  exact whole.2.2 t earlier

theorem within (order : Ordered start ps) (n : ℕ) : (ps n).moments.Pairwise (· ≤ ·) := by
  have whole := order (n + 1)
  rw [List.range_succ, List.flatMap_append, List.flatMap_singleton, ← List.cons_append,
    List.pairwise_append] at whole
  exact whole.2.1

/-- Within a pass the calls follow one another. -/
theorem calls (order : Ordered start ps) (n : ℕ) :
    (ps n).poll ≤ (ps n).update ∧ (ps n).update ≤ (ps n).now ∧ (ps n).now ≤ (ps n).send ∧
      ∀ f ∈ (ps n).frames, f.2 ≤ (ps n).poll := by
  have sorted := order.within n
  rw [Pass.moments, List.pairwise_append] at sorted
  obtain ⟨_, calls, across⟩ := sorted
  simp only [List.pairwise_cons, List.mem_cons, List.not_mem_nil, or_false] at calls
  refine ⟨calls.1 _ (by simp), calls.2.1 _ (by simp), calls.2.2.1 _ rfl, ?_⟩
  intro f member
  exact across _ (List.mem_map_of_mem member) _ (by simp)

/-- The poll before a pass comes before all that happens in it. -/
theorem lastPoll_le (order : Ordered start ps) (n : ℕ) :
    ∀ m ∈ (ps n).moments, lastPoll start ps n ≤ m := by
  apply order.before_pass
  cases n with
  | zero => simp [lastPoll]
  | succ n =>
    apply List.mem_cons_of_mem
    exact List.mem_flatMap.mpr ⟨n, by simp, by simp [lastPoll, Pass.moments]⟩

end Ordered

/-- A run in which nothing happens, with the moments of its passes. -/
def idle (times : ℕ → ℕ) (n : ℕ) : Pass :=
  ⟨[], quiet, times n, times n, times n, times n⟩

theorem idle_ordered {start : ℕ} {times : ℕ → ℕ} (first : start ≤ times 0)
    (later : ∀ n, times n ≤ times (n + 1)) : Ordered start (idle times) := by
  have moments (n : ℕ) : (idle times n).moments = List.replicate 4 (times n) := rfl
  have rising : Monotone times := monotone_nat_of_le_succ later
  intro n
  induction n with
  | zero => simp
  | succ n ih =>
    rw [List.range_succ, List.flatMap_append, List.flatMap_singleton, ← List.cons_append,
      List.pairwise_append, moments]
    refine ⟨ih, List.pairwise_replicate.mpr (Or.inr le_rfl), ?_⟩
    intro earlier member last same
    obtain rfl := List.eq_of_mem_replicate same
    rcases List.mem_cons.mp member with rfl | member
    · exact first.trans (rising (Nat.zero_le n))
    · obtain ⟨k, before, inside⟩ := List.mem_flatMap.mp member
      rw [moments] at inside
      obtain rfl := List.eq_of_mem_replicate inside
      exact rising (List.mem_range.mp before).le

end DroidOs.Firmware.RealTime
