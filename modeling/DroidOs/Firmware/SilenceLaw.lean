/- GID: DroidOs/Firmware/SilenceLaw
   generality: I
   digest: A silent host finds the contactor open, also across wraps of the 32-bit clock. -/

import DroidOs.Firmware.RealTime

set_option autoImplicit false
set_option relaxedAutoImplicit false

namespace DroidOs.Firmware.SilenceLaw

open Protocol Controller InputHistory ContactorLaw RealTime
open DroidOs.Lib.History

variable {start : ℕ} {ps : ℕ → Pass}

/-- The bit of FAULT_HOST_SILENT. -/
private def silentBit : Nat := 4

/-- What the watchdog relies on before pass `n`: the code knows the last contact,
and either the silence is already a standing fault or the last poll found it short. -/
structure Watched (start : ℕ) (ps : ℕ → Pass) (n : ℕ) : Prop where
  known : lastHost (halMillis start) (inputs (reads ps n)) = halMillis (lastContact start ps n)
  settled : Stands (halMillis start) silentBit (inputs (reads ps n)) ∨
    lastPoll start ps n < lastContact start ps n + hostTimeoutMs.toNat

private theorem silentAt_iff {h : List Input} {last t : ℕ}
    (known : lastHost (halMillis start) h = halMillis last) (order : last ≤ t)
    (near : t < last + 2 ^ 32) :
    silentAt (halMillis start) h (halMillis t) ↔ last + hostTimeoutMs.toNat ≤ t := by
  rw [silentAt, known]
  simp only [BitVec.ule, decide_eq_true_eq, toNat_elapsed order, Nat.mod_eq_of_lt (by omega :
    t - last < 2 ^ 32)]
  omega

/-- The frames of a pass renew the contact, or there are none. -/
private theorem after_frames (order : Ordered start ps) {n : ℕ} (watched : Watched start ps n) :
    let heard := inputs (reads ps n) ++
      (ps n).read.frames.map fun f => Input.frame f.1 f.2
    lastHost (halMillis start) heard = halMillis (lastContact start ps (n + 1)) ∧
      (Stands (halMillis start) silentBit heard ∨
        lastPoll start ps n < lastContact start ps (n + 1) + hostTimeoutMs.toNat) := by
  intro heard
  rcases List.eq_nil_or_concat (ps n).frames with none | ⟨earlier, last, frames⟩
  · have same : heard = inputs (reads ps n) := by simp [heard, Pass.read, none]
    have contact : lastContact start ps (n + 1) = lastContact start ps n := by
      simp [lastContact, Pass.contact, none]
    rw [same, contact]
    exact ⟨watched.known, watched.settled⟩
  · rw [List.concat_eq_append] at frames
    have contact : lastContact start ps (n + 1) = last.2 := by
      simp [lastContact, Pass.contact, frames]
    have inside : last.2 ∈ (ps n).moments := by simp [Pass.moments, frames]
    have recent := order.lastPoll_le n last.2 inside
    have renewed : heard = (inputs (reads ps n) ++ earlier.map fun f =>
        Input.frame f.1 (halMillis f.2)) ++ [Input.frame last.1 (halMillis last.2)] := by
      simp [heard, Pass.read, frames]
    constructor
    · rw [renewed, lastHost_snoc, contact]
    · right
      rw [contact]
      have positive : 0 < hostTimeoutMs.toNat := by decide
      omega

/-- The frames of a pass hold its contact, if it has any. -/
private theorem contact_cases (p : Pass) (previous : ℕ) :
    p.contact previous = previous ∨ ∃ f ∈ p.frames, p.contact previous = f.2 := by
  rw [Pass.contact]
  cases found : p.frames.getLast? with
  | none => exact Or.inl rfl
  | some f => exact Or.inr ⟨f, List.mem_of_getLast? found, rfl⟩

private theorem contact_moment (start : ℕ) (ps : ℕ → Pass) (n : ℕ) :
    lastContact start ps n ∈ start :: (List.range n).flatMap fun k => (ps k).moments := by
  induction n with
  | zero => simp [lastContact]
  | succ n ih =>
    rw [List.range_succ, List.flatMap_append, List.flatMap_singleton, ← List.cons_append,
      List.mem_append, lastContact]
    rcases contact_cases (ps n) (lastContact start ps n) with same | ⟨f, member, equal⟩
    · rw [same]
      exact Or.inl ih
    · rw [equal]
      exact Or.inr (List.mem_append_left _ (List.mem_map_of_mem member))

private theorem contact_le_poll (order : Ordered start ps) (n : ℕ) :
    lastContact start ps (n + 1) ≤ (ps n).poll := by
  rw [lastContact]
  rcases contact_cases (ps n) (lastContact start ps n) with same | ⟨f, member, equal⟩
  · rw [same]
    exact order.before_pass (contact_moment start ps n) _ (by simp [Pass.moments])
  · rw [equal]
    exact (order.calls n).2.2.2 f member

private theorem update_le_poll (order : Ordered start ps) (n : ℕ) :
    (ps n).update ≤ (ps (n + 1)).poll := by
  have earlier : (ps n).update ∈
      start :: (List.range (n + 1)).flatMap fun k => (ps k).moments :=
    List.mem_cons_of_mem _ (List.mem_flatMap.mpr ⟨n, by simp, by simp [Pass.moments]⟩)
  exact order.before_pass earlier _ (by simp [Pass.moments])

theorem watched_step (order : Ordered start ps) (often : PolledOften start ps) {n : ℕ}
    (watched : Watched start ps n) : Watched start ps (n + 1) := by
  obtain ⟨known, settled⟩ := after_frames order watched
  have past := contact_le_poll order n
  have soon := often n
  have inputs_eq : inputs (reads ps (n + 1)) = (inputs (reads ps n) ++
      (ps n).read.frames.map fun f => Input.frame f.1 f.2) ++
      [Input.poll (ps n).read.hw (ps n).read.pollMs] := by
    simp [iterationInputs]
  constructor
  · rw [inputs_eq, lastHost_snoc]
    exact known
  · rw [inputs_eq, Stands, since_snoc, ← Stands]
    rcases settled with stands | short
    · left
      right
      exact ⟨stands, fun clears => clears.1⟩
    · have near : (ps n).poll < lastContact start ps (n + 1) + 2 ^ 32 := by
        have timeout : hostTimeoutMs.toNat = 100 := by decide
        omega
      by_cases silent : lastContact start ps (n + 1) + hostTimeoutMs.toNat ≤ (ps n).poll
      · left
        left
        right
        right
        right
        exact ⟨(silentAt_iff known past near).mpr silent, by decide⟩
      · right
        simp only [lastPoll]
        omega

theorem watched (order : Ordered start ps) (often : PolledOften start ps) (n : ℕ) :
    Watched start ps n := by
  induction n with
  | zero =>
    refine ⟨rfl, Or.inr ?_⟩
    have positive : 0 < hostTimeoutMs.toNat := by decide
    simp only [lastPoll, lastContact]
    omega
  | succ n ih => exact watched_step order often ih

/-- With a poll at least every 2^31 ms the contactor is open after every
`update_contactor` that reads the clock HOST_TIMEOUT_MS of real time or more
after the last frame, however often the clock has wrapped. -/
theorem silence_opens (start : ℕ) (ps : ℕ → Pass) (order : Ordered start ps)
    (often : PolledOften start ps) (n : ℕ)
    (silent : lastContact start ps (n + 1) + hostTimeoutMs.toNat ≤ (ps n).update) :
    (after start ps (n + 1)).safety.contactor = false := by
  have here := watched order often (n + 1)
  rw [← Bool.not_eq_true, after, reads_succ]
  intro closed
  obtain ⟨_, _, clear, fresh⟩ := (contactor_closed_iff _ _ _).mp closed
  rw [← reads_succ] at clear fresh
  rcases here.settled with stands | short
  · exact clear silentBit stands
  · have past := contact_le_poll order n
    have later := (order.calls n).1
    have near : (ps n).update < lastContact start ps (n + 1) + 2 ^ 32 := by
      have timeout : hostTimeoutMs.toNat = 100 := by decide
      have soon := often (n + 1)
      have next := update_le_poll order n
      simp only [lastPoll] at short soon
      omega
    exact fresh ((silentAt_iff here.known (past.trans later) near).mpr silent)

/-- No frame is ever received, and the loop wakes only every 2^31 ms. -/
def sleepy : ℕ → Pass := idle fun n => (n + 1) * 2 ^ 31

/-- The silence is still seen when the clock has wrapped. -/
theorem silence_opens_sleepy : (after 0 sleepy 4).safety.contactor = false := by
  have order : Ordered 0 sleepy := idle_ordered (Nat.zero_le _) fun n => by omega
  apply silence_opens 0 sleepy order _ 3
  · have never : lastContact 0 sleepy 4 = 0 := rfl
    have timeout : hostTimeoutMs.toNat = 100 := by decide
    rw [never, timeout]
    simp only [sleepy, idle]
    omega
  · intro n
    cases n <;> simp only [lastPoll, sleepy, idle] <;> omega

end DroidOs.Firmware.SilenceLaw
