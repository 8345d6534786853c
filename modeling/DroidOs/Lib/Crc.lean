/- GID: DroidOs/Lib/Crc
   generality: G
   digest: Cyclic redundancy registers of any width: linearity, and every short burst is detected. -/

import Mathlib.Data.BitVec
import Mathlib.Logic.Function.Iterate

set_option autoImplicit false
set_option relaxedAutoImplicit false

namespace DroidOs.Lib.Crc

variable {w : Nat} (g : BitVec w)

/-- One step of the division: the register moves up, and where a one falls out
the generator is subtracted. -/
def shift (c : BitVec w) : BitVec w := if c.msb then (c <<< 1) ^^^ g else c <<< 1

/-- A bit at the top of the register. -/
def top (b : Bool) : BitVec w := if b then BitVec.twoPow w (w - 1) else 0#w

/-- Feed a message into the register, its first bit first. -/
def feed (c : BitVec w) (bits : List Bool) : BitVec w :=
  bits.foldl (fun c b => shift g (c ^^^ top b)) c

/-- The bits as a register, the first one at the top. -/
def packed (w : Nat) : List Bool → BitVec w
  | [] => 0#w
  | b :: bits => top b ^^^ (packed w bits >>> 1)

/-- The two messages have one length and differ, and every difference lies in
one window of `n` consecutive bits. -/
def Burst (n : Nat) (sent received : List Bool) : Prop :=
  sent.length = received.length ∧ sent ≠ received ∧
    ∃ start, ∀ p, sent[p]? ≠ received[p]? → start ≤ p ∧ p < start + n

@[simp] theorem top_false : (top false : BitVec w) = 0#w := rfl

theorem getMsbD_shift (c : BitVec w) (i : Nat) :
    (shift g c).getMsbD i = (c.getMsbD (i + 1) ^^ (c.msb && g.getMsbD i)) := by
  have inside : c.getMsbD (i + 1) = true → i < w := fun bit =>
    Nat.lt_of_succ_lt (BitVec.lt_of_getMsbD bit)
  have moved : (c <<< 1).getMsbD i = c.getMsbD (i + 1) := by
    rw [BitVec.getMsbD_shiftLeft, Nat.add_comm]
  cases falls : c.msb <;> simp [shift, falls, moved]

theorem getMsbD_top (b : Bool) (i : Nat) :
    (top b : BitVec w).getMsbD i = (b && decide (i = 0) && decide (0 < w)) := by
  cases b with
  | false => simp
  | true =>
    simp only [top, if_true, BitVec.getMsbD_twoPow, Bool.true_and]
    by_cases positive : 0 < w
    · have split : (i < w ∧ w - 1 = w - 1 - i) ↔ i = 0 := by omega
      grind
    · grind

theorem shift_xor (a b : BitVec w) : shift g (a ^^^ b) = shift g a ^^^ shift g b := by
  apply BitVec.eq_of_getMsbD_eq
  intro i _
  simp only [getMsbD_shift, BitVec.getMsbD_xor, BitVec.msb_xor]
  grind

@[simp] theorem shift_zero : shift g 0#w = 0#w := by
  simp [shift]

/-- A register whose last bit is clear is one shift away from its lower half. -/
theorem shift_ushiftRight {c : BitVec w} (positive : 0 < w) (clear : c.getMsbD (w - 1) = false) :
    shift g (c >>> 1) = c := by
  apply BitVec.eq_of_getMsbD_eq
  intro i inside
  have falls : (c >>> 1).msb = false := by
    simp [BitVec.msb_ushiftRight]
  rw [getMsbD_shift, falls]
  rcases Nat.lt_or_ge (i + 1) w with next | last
  · simp [BitVec.getMsbD_ushiftRight, next]
  · obtain rfl : i = w - 1 := by omega
    have beyond : ¬ w - 1 + 1 < w := by omega
    simp [BitVec.getMsbD_ushiftRight, beyond, clear]

/-- With an odd generator a shift loses nothing. -/
theorem shift_eq_zero {c : BitVec w} (odd : g.getMsbD (w - 1) = true) (gone : shift g c = 0#w) :
    c = 0#w := by
  have bit (i : Nat) : (c.getMsbD (i + 1) ^^ (c.msb && g.getMsbD i)) = false := by
    rw [← getMsbD_shift, gone, BitVec.getMsbD_zero]
  have first : c.msb = false := by
    have last := bit (w - 1)
    have beyond : c.getMsbD (w - 1 + 1) = false := BitVec.getMsbD_of_ge c _ (by omega)
    simpa [beyond, odd] using last
  apply BitVec.eq_of_getMsbD_eq
  intro i inside
  rw [BitVec.getMsbD_zero]
  cases i with
  | zero => rw [← BitVec.msb_eq_getMsbD_zero, first]
  | succ i => simpa [first] using bit i

theorem shifts_zero (n : Nat) : (shift g)^[n] 0#w = 0#w := by
  induction n with
  | zero => rfl
  | succ n ih => rw [Function.iterate_succ_apply, shift_zero, ih]

theorem shifts_eq_zero {c : BitVec w} (odd : g.getMsbD (w - 1) = true) (n : Nat)
    (gone : (shift g)^[n] c = 0#w) : c = 0#w := by
  induction n with
  | zero => exact gone
  | succ n ih =>
    rw [Function.iterate_succ_apply'] at gone
    exact ih (shift_eq_zero g odd gone)

theorem getMsbD_packed {bits : List Bool} {i : Nat} (inside : i < w) :
    (packed w bits).getMsbD i = bits.getD i false := by
  induction bits generalizing i with
  | nil => simp [packed]
  | cons b bits ih =>
    rw [packed, BitVec.getMsbD_xor, getMsbD_top, BitVec.getMsbD_ushiftRight]
    cases i with
    | zero => simp [inside]
    | succ i =>
      have before : i < w := by omega
      simp [inside, ih before]

theorem feed_append (c : BitVec w) (first second : List Bool) :
    feed g c (first ++ second) = feed g (feed g c first) second := by
  simp [feed]

/-- Bits that fit the register could as well have been in it before the shifts. -/
theorem feed_packed {bits : List Bool} (short : bits.length ≤ w) (c : BitVec w) :
    feed g c bits = (shift g)^[bits.length] (c ^^^ packed w bits) := by
  induction bits generalizing c with
  | nil => simp [feed, packed]
  | cons b bits ih =>
    have shorter : bits.length + 1 ≤ w := by simpa using short
    have clear : (packed w bits).getMsbD (w - 1) = false := by
      rw [getMsbD_packed (by omega)]
      simp [List.getD_eq_getElem?_getD, show bits.length ≤ w - 1 by omega]
    have shifted : shift g (packed w bits >>> 1) = packed w bits :=
      shift_ushiftRight g (by omega) clear
    calc feed g c (b :: bits)
        = feed g (shift g (c ^^^ top b)) bits := rfl
      _ = (shift g)^[bits.length] (shift g (c ^^^ top b) ^^^ packed w bits) := ih (by omega) _
      _ = (shift g)^[bits.length] (shift g (c ^^^ top b ^^^ (packed w bits >>> 1))) := by
          rw [shift_xor g (c ^^^ top b), shifted]
      _ = (shift g)^[(b :: bits).length] (c ^^^ packed w (b :: bits)) := by
          rw [packed, BitVec.xor_assoc]
          rfl

/-- The register is linear: the difference of two messages runs on its own. -/
theorem feed_xor (a b : BitVec w) {sent received : List Bool}
    (long : sent.length = received.length) :
    feed g (a ^^^ b) (sent.zipWith xor received) = feed g a sent ^^^ feed g b received := by
  induction sent generalizing a b received with
  | nil =>
    obtain rfl : received = [] := List.length_eq_zero_iff.mp long.symm
    rfl
  | cons x sent ih =>
    cases received with
    | nil => simp at long
    | cons y received =>
      have bits : a ^^^ b ^^^ top (x ^^ y) = (a ^^^ top x) ^^^ (b ^^^ top y) := by
        apply BitVec.eq_of_getMsbD_eq
        intro i _
        simp only [BitVec.getMsbD_xor, getMsbD_top]
        grind
      calc feed g (a ^^^ b) ((x :: sent).zipWith xor (y :: received))
          = feed g (shift g (a ^^^ b ^^^ top (x ^^ y))) (sent.zipWith xor received) := rfl
        _ = feed g (shift g (a ^^^ top x) ^^^ shift g (b ^^^ top y))
              (sent.zipWith xor received) := by rw [bits, shift_xor]
        _ = feed g a (x :: sent) ^^^ feed g b (y :: received) := ih _ _ (by simpa using long)

theorem feed_zeros (c : BitVec w) (n : Nat) :
    feed g c (List.replicate n false) = (shift g)^[n] c := by
  induction n generalizing c with
  | zero => rfl
  | succ n ih =>
    rw [List.replicate_succ, Function.iterate_succ_apply, ← ih]
    simp [feed]

/-- A short pattern with a one in it leaves the clear register. -/
theorem feed_short_ne_zero (odd : g.getMsbD (w - 1) = true) {bits : List Bool}
    (short : bits.length ≤ w) (one : true ∈ bits) : feed g 0#w bits ≠ 0#w := by
  intro gone
  rw [feed_packed g short, BitVec.zero_xor] at gone
  have clear := shifts_eq_zero g odd _ gone
  obtain ⟨i, inside, bit⟩ := List.mem_iff_getElem.mp one
  have stands := @getMsbD_packed w bits i (by omega)
  simp [clear, List.getD_eq_getElem?_getD, inside, bit] at stands

private theorem xor_bit {sent received : List Bool} {p : Nat}
    (one : (sent.zipWith xor received)[p]? = some true) : sent[p]? ≠ received[p]? := by
  rw [List.getElem?_zipWith] at one
  intro same
  rw [same] at one
  cases bit : received[p]? with
  | none => simp [bit] at one
  | some b => simp [bit] at one

private theorem xor_one {sent received : List Bool} (long : sent.length = received.length)
    (differ : sent ≠ received) : ∃ p : Nat, (sent.zipWith xor received)[p]? = some true := by
  by_contra none
  apply differ
  apply List.ext_getElem long
  intro p left right
  have clear : ¬ (sent.zipWith xor received)[p]? = some true := not_exists.mp none p
  simpa [List.getElem?_zipWith, left, right] using clear

private theorem all_false {bits : List Bool} (clear : ∀ p : Nat, bits[p]? ≠ some true) :
    bits = List.replicate bits.length false := by
  rw [List.eq_replicate_iff]
  refine ⟨rfl, fun b member => ?_⟩
  obtain ⟨p, found⟩ := List.mem_iff_getElem?.mp member
  cases b with
  | false => rfl
  | true => exact absurd found (clear p)

/-- The differences of two messages of one length, as an error pattern. -/
private theorem pattern_split {n : Nat} {sent received : List Bool} (burst : Burst n sent received) :
    ∃ before middle after, sent.zipWith xor received =
      List.replicate before false ++ middle ++ List.replicate after false ∧
      middle.length ≤ n ∧ true ∈ middle := by
  obtain ⟨long, differ, start, window⟩ := burst
  generalize pattern : sent.zipWith xor received = z
  have inside (p : Nat) (one : z[p]? = some true) : start ≤ p ∧ p < start + n :=
    window p (xor_bit (pattern ▸ one))
  have head : z.take start = List.replicate (z.take start).length false := by
    apply all_false
    intro p one
    rw [List.getElem?_take] at one
    split at one
    · have := inside p one
      omega
    · cases one
  have tail : z.drop (start + n) = List.replicate (z.drop (start + n)).length false := by
    apply all_false
    intro p one
    rw [List.getElem?_drop] at one
    have := inside _ one
    omega
  refine ⟨(z.take start).length, (z.drop start).take n, (z.drop (start + n)).length, ?_,
    by simp, ?_⟩
  · rw [← head, ← tail, List.append_assoc, ← List.drop_drop, List.take_append_drop,
      List.take_append_drop]
  · obtain ⟨p, one⟩ := xor_one long differ
    rw [pattern] at one
    obtain ⟨after, before⟩ := inside p one
    apply List.mem_of_getElem? (i := p - start)
    rw [List.getElem?_take, if_pos (by omega), List.getElem?_drop,
      Nat.add_sub_cancel' after, one]

/-- Two messages that differ in a burst no longer than the register leave
different remainders, whatever the register started with. -/
theorem burst_detected (odd : g.getMsbD (w - 1) = true) (c : BitVec w) {sent received : List Bool}
    (burst : Burst w sent received) : feed g c sent ≠ feed g c received := by
  intro same
  obtain ⟨before, middle, after, pattern, short, one⟩ := pattern_split burst
  have difference : feed g 0#w (sent.zipWith xor received) = 0#w := by
    have linear := feed_xor g c c burst.1
    rwa [BitVec.xor_self, same, BitVec.xor_self] at linear
  rw [pattern, feed_append, feed_append, feed_zeros, feed_zeros, shifts_zero] at difference
  exact feed_short_ne_zero g odd short one (shifts_eq_zero g odd after difference)

end DroidOs.Lib.Crc
