/- GID: DroidOs/Firmware/FrameCheck
   generality: I
   source: firmware/safety-controller/src/main.c
   digest: The CRC-8 of the framing layer and the transmission errors it detects. -/

import DroidOs.Lib.Crc

set_option autoImplicit false
set_option relaxedAutoImplicit false

namespace DroidOs.Firmware.FrameCheck

open DroidOs.Lib.Crc

/-- The body of the inner loop of `crc8`. -/
def crcBit (crc : BitVec 8) : BitVec 8 :=
  if crc &&& 0x80#8 ≠ 0#8 then (crc <<< 1) ^^^ 0x07#8 else crc <<< 1

/-- The body of the outer loop. -/
def crcByte (crc byte : BitVec 8) : BitVec 8 :=
  (List.range 8).foldl (fun crc _ => crcBit crc) (crc ^^^ byte)

/-- `crc8(data, len)`. -/
def crc8 (data : List (BitVec 8)) (len : BitVec 16) : BitVec 8 :=
  (List.range len.toNat).foldl (fun crc i => crcByte crc (data.getD i 0#8)) 0#8

/-- The check value of a whole string of bytes. -/
def crcOf (data : List (BitVec 8)) : BitVec 8 := crc8 data (BitVec.ofNat 16 data.length)

/-- The outer loop over all of a string, however long. -/
def crcBytes (data : List (BitVec 8)) : BitVec 8 := data.foldl crcByte 0#8

/-- The string on the wire, its check value last. -/
def transmitted (d : List (BitVec 8)) : List (BitVec 8) := d ++ [crcOf d]

/-- The last byte of a received string is the check value of the others. -/
def passes (r : List (BitVec 8)) : Prop := r.getLast? = some (crcOf r.dropLast)

/-- The bits of a string of bytes, the most significant one of each byte first. -/
def bits (data : List (BitVec 8)) : List Bool :=
  data.flatMap fun byte => (List.range 8).map byte.getMsbD

/-- The generator x^8 + x^2 + x + 1 without its leading term. -/
def generator : BitVec 8 := 0x07#8

theorem crcBit_eq (crc : BitVec 8) : crcBit crc = shift generator crc := by
  have falls : crc &&& 0x80#8 ≠ 0#8 ↔ crc.msb = true := by
    revert crc
    decide
  simp only [crcBit, shift, generator, falls]

/-- Eight rounds take in the byte as if its bits came one by one. -/
theorem crcByte_eq (crc byte : BitVec 8) :
    crcByte crc byte = feed generator crc ((List.range 8).map byte.getMsbD) := by
  have whole : packed 8 ((List.range 8).map byte.getMsbD) = byte := by
    apply BitVec.eq_of_getMsbD_eq
    intro i inside
    simp [getMsbD_packed inside, List.getD_eq_getElem?_getD, inside]
  rw [feed_packed generator (by simp), whole]
  simp only [crcByte, crcBit_eq]
  rfl

private theorem indexed (data : List (BitVec 8)) :
    (List.range data.length).map (fun i => data.getD i 0#8) = data := by
  apply List.ext_getElem (by simp)
  intro i left right
  simp [List.getD_eq_getElem?_getD, right]

/-- A 16-bit length covers the whole of a string it can hold. -/
theorem crcOf_eq {data : List (BitVec 8)} (fits : data.length < 2 ^ 16) :
    crcOf data = crcBytes data := by
  have len : (BitVec.ofNat 16 data.length).toNat = data.length := by
    rw [BitVec.toNat_ofNat, Nat.mod_eq_of_lt fits]
  rw [crcOf, crc8, len, crcBytes]
  conv_rhs => rw [← indexed data, List.foldl_map]

theorem crcBytes_eq (data : List (BitVec 8)) :
    crcBytes data = feed generator 0#8 (bits data) := by
  rw [crcBytes, bits, feed, List.foldl_flatMap]
  congr 1
  funext crc byte
  exact crcByte_eq crc byte

theorem crcBytes_snoc (data : List (BitVec 8)) (byte : BitVec 8) :
    crcBytes (data ++ [byte]) = (shift generator)^[8] (crcBytes data ^^^ byte) := by
  rw [crcBytes, List.foldl_append, ← crcBytes]
  simp only [List.foldl_cons, List.foldl_nil, crcByte, crcBit_eq]
  rfl

/-- A string followed by its own check value leaves nothing. -/
theorem crcBytes_checked (d : List (BitVec 8)) : crcBytes (d ++ [crcBytes d]) = 0#8 := by
  rw [crcBytes_snoc, BitVec.xor_self, shifts_zero]

/-- A received string passes exactly when its own check value is zero. -/
theorem passes_iff {r : List (BitVec 8)} (fits : r.length < 2 ^ 16) (received : r ≠ []) :
    passes r ↔ crcBytes r = 0#8 := by
  rcases List.eq_nil_or_concat r with rfl | ⟨d, check, rfl⟩
  · exact absurd rfl received
  · rw [List.concat_eq_append] at fits ⊢
    have short : d.length < 2 ^ 16 := by
      rw [List.length_append] at fits
      omega
    rw [passes, List.dropLast_concat, List.getLast?_concat, crcOf_eq short, crcBytes_snoc,
      Option.some_inj]
    constructor
    · intro same
      rw [same, BitVec.xor_self, shifts_zero]
    · intro zero
      have equal := shifts_eq_zero generator (by decide) 8 zero
      exact (BitVec.xor_eq_zero_iff.mp equal).symm

theorem bits_length (data : List (BitVec 8)) : (bits data).length = 8 * data.length := by
  simp [bits, List.length_flatMap, Nat.mul_comm]

/-- Every burst of at most eight bits makes a transmitted string fail its
check, and a string followed by its check value has the check value zero. -/
theorem bursts_detected :
    (∀ d r : List (BitVec 8), d.length ≤ 65534 → Burst 8 (bits (transmitted d)) (bits r) →
      ¬ passes r) ∧
    (∀ d : List (BitVec 8), d.length ≤ 65534 → crcOf (transmitted d) = 0#8) ∧
    ∀ d : List (BitVec 8), crcBytes (d ++ [crcBytes d]) = 0#8 := by
  have sent (d : List (BitVec 8)) (fits : d.length ≤ 65534) : crcBytes (transmitted d) = 0#8 := by
    rw [transmitted, crcOf_eq (by omega), crcBytes_checked]
  refine ⟨fun d r fits burst passed => ?_, fun d fits => ?_, crcBytes_checked⟩
  · have length : r.length = d.length + 1 := by
      have same := burst.1
      simp only [bits_length, transmitted, List.length_append, List.length_singleton] at same
      omega
    have received : r ≠ [] := List.ne_nil_of_length_eq_add_one length
    have clear := (passes_iff (by omega) received).mp passed
    have equal := (sent d fits).trans clear.symm
    rw [crcBytes_eq, crcBytes_eq] at equal
    exact burst_detected generator (by decide) 0#8 burst equal
  · have length : (transmitted d).length < 2 ^ 16 := by
      rw [transmitted, List.length_append, List.length_singleton]
      omega
    rw [crcOf_eq length, sent d fits]

/-- Eight flipped bits across the boundary of the data and its check value. -/
theorem bursts_detected_boundary :
    transmitted [0xD1#8, 0x01#8] = [0xD1#8, 0x01#8, 0xA8#8] ∧
      ¬ passes [0xD1#8, 0x0E#8, 0x58#8] ∧ crcOf (transmitted [0xD1#8, 0x01#8]) = 0#8 := by
  have sent : transmitted [0xD1#8, 0x01#8] = [0xD1#8, 0x01#8, 0xA8#8] := by decide +kernel
  refine ⟨sent, bursts_detected.1 [0xD1#8, 0x01#8] _ (by decide) ?_,
    bursts_detected.2.1 [0xD1#8, 0x01#8] (by decide)⟩
  rw [sent]
  have same : ∀ p < 24, ¬ (12 ≤ p ∧ p < 20) →
      (bits [0xD1#8, 0x01#8, 0xA8#8])[p]? = (bits [0xD1#8, 0x0E#8, 0x58#8])[p]? := by
    decide +kernel
  refine ⟨by decide +kernel, by decide +kernel, 12, fun p differ => ?_⟩
  by_contra outside
  apply differ
  rcases Nat.lt_or_ge p 24 with inside | beyond
  · exact same p inside outside
  · rw [List.getElem?_eq_none (by simpa [bits_length] using beyond),
      List.getElem?_eq_none (by simpa [bits_length] using beyond)]

end DroidOs.Firmware.FrameCheck
