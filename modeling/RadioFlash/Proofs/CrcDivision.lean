import Mathlib
import RadioFlash.Checksum
/-!
# The CRC as division over GF(2)

Read the bits of a number as the coefficients of a polynomial over GF(2), bit `i` standing for
`x^i` (`bitPoly`), and a byte string as one long number whose first byte is the most significant
(`bytesPoly`). Exclusive or is then addition, a left shift multiplication by `x`, and the CRC-16
register is a remainder modulo x^16 + x^12 + x^5 + 1 (`crcDivisor`): one shift multiplies it by
`x` and subtracts the divisor exactly when a term of degree 16 falls out (`bitPoly_crcShift`),
and a byte adds its bits to the top of the register first. So the register, continued from `c`
over `d`, is the remainder of `c(x) x^(8|d|) + d(x) x^16` (`crc16Update_eq_mod`).

A receiver relies on what follows from this: a block followed by its CRC, high byte first,
leaves remainder zero (`crc16Update_trailer`). The byte sum is plain addition modulo 256.
-/

namespace RadioFlash

open Polynomial

noncomputable section

/-! ## Numbers as polynomials over GF(2) -/

/-- A bit as an element of GF(2). -/
def bitCoeff (b : Bool) : ZMod 2 := if b then 1 else 0

/-- A clear bit is zero. -/
@[simp] theorem bitCoeff_false : bitCoeff false = 0 := rfl

/-- A set bit is one. -/
@[simp] theorem bitCoeff_true : bitCoeff true = 1 := rfl

/-- Exclusive or of bits is addition in GF(2). -/
theorem bitCoeff_xor (a b : Bool) : bitCoeff (a ^^ b) = bitCoeff a + bitCoeff b := by
  cases a <;> cases b <;> decide

/-- The polynomial over GF(2) whose coefficient of `x^i` is bit `i` of `n`; bits from
`log2 n + 1` on are zero. -/
def bitPoly (n : ℕ) : (ZMod 2)[X] :=
  ∑ i ∈ Finset.range (n.log2 + 1), C (bitCoeff (n.testBit i)) * X ^ i

/-- The coefficient of `x^i` is bit `i`. -/
@[simp] theorem coeff_bitPoly (n i : ℕ) : (bitPoly n).coeff i = bitCoeff (n.testBit i) := by
  simp only [bitPoly, finsetSum_coeff, coeff_C_mul_X_pow, Finset.sum_ite_eq, Finset.mem_range]
  split
  · rfl
  · -- past the top bit the coefficient is zero
    have hn : n < 2 ^ i :=
      lt_of_lt_of_le Nat.lt_log2_self (Nat.pow_le_pow_right (by decide) (by omega))
    rw [Nat.testBit_lt_two_pow hn, bitCoeff_false]

/-- Exclusive or of numbers is addition of their polynomials. -/
theorem bitPoly_xor (a b : ℕ) : bitPoly (a ^^^ b) = bitPoly a + bitPoly b := by
  ext i
  simp only [coeff_bitPoly, coeff_add, Nat.testBit_xor, bitCoeff_xor]

/-- Shifting left by `k` bits multiplies by `x^k`. -/
theorem bitPoly_two_pow_mul (k n : ℕ) : bitPoly (2 ^ k * n) = bitPoly n * X ^ k := by
  ext i
  rw [coeff_bitPoly, coeff_mul_X_pow', Nat.testBit_two_pow_mul]
  split <;> simp [*]

/-- The number `2^k` is the monomial `x^k`. -/
theorem bitPoly_two_pow (k : ℕ) : bitPoly (2 ^ k) = X ^ k := by
  ext i
  rw [coeff_bitPoly, Nat.testBit_two_pow, coeff_X_pow]
  by_cases h : i = k
  · simp [h]
  · simp [h, Ne.symm h]

/-- Zero is the zero polynomial. -/
@[simp] theorem bitPoly_zero : bitPoly 0 = 0 := by
  ext i
  simp

/-- One is the constant polynomial one. -/
@[simp] theorem bitPoly_one : bitPoly 1 = 1 := by
  simpa using bitPoly_two_pow 0

/-- The low `w` bits and the rest: `n = (n mod 2^w) + 2^w (n >>> w)`, as polynomials. -/
theorem bitPoly_split (w n : ℕ) : bitPoly n = bitPoly (n % 2 ^ w) + bitPoly (n >>> w) * X ^ w := by
  ext i
  rw [coeff_add, coeff_mul_X_pow', coeff_bitPoly, coeff_bitPoly, coeff_bitPoly,
    Nat.testBit_mod_two_pow, Nat.testBit_shiftRight]
  by_cases h : i < w
  · simp [h, show ¬ w ≤ i by omega]
  · simp [h, show w ≤ i by omega, Nat.add_sub_cancel' (Nat.le_of_not_lt h)]

/-- A number of `w` bits has a polynomial of degree below `w`. -/
theorem bitPoly_degree_lt {n w : ℕ} (h : n < 2 ^ w) : (bitPoly n).degree < w := by
  rw [degree_lt_iff_coeff_zero]
  intro m hm
  rw [coeff_bitPoly, Nat.testBit_lt_two_pow (lt_of_lt_of_le h (Nat.pow_le_pow_right (by decide) hm)),
    bitCoeff_false]

/-- Only zero has the zero polynomial. -/
theorem eq_zero_of_bitPoly_eq_zero {n : ℕ} (h : bitPoly n = 0) : n = 0 := by
  apply Nat.eq_of_testBit_eq
  intro i
  have hi : bitCoeff (n.testBit i) = 0 := by rw [← coeff_bitPoly, h, coeff_zero]
  cases hb : n.testBit i
  · simp
  · rw [hb, bitCoeff_true] at hi
    exact absurd hi one_ne_zero

/-- A byte string as a polynomial, bits taken most significant first: each byte sits eight
places above the one after it. -/
def bytesPoly : List UInt8 → (ZMod 2)[X]
  | [] => 0
  | b :: d => bitPoly b.toNat * X ^ (8 * d.length) + bytesPoly d

/-- No bytes are the zero polynomial. -/
@[simp] theorem bytesPoly_nil : bytesPoly [] = 0 := rfl

/-- A byte sits eight places above each byte after it. -/
theorem bytesPoly_cons (b : UInt8) (d : List UInt8) :
    bytesPoly (b :: d) = bitPoly b.toNat * X ^ (8 * d.length) + bytesPoly d := rfl

/-- The CRC-16 divisor x^16 + x^12 + x^5 + 1. -/
def crcDivisor : (ZMod 2)[X] := X ^ 16 + X ^ 12 + X ^ 5 + 1

/-- The CRC-16 divisor is monic. -/
theorem crcDivisor_monic : crcDivisor.Monic := by
  unfold crcDivisor
  monicity!

/-- The CRC-16 divisor has degree 16. -/
theorem crcDivisor_degree : crcDivisor.degree = 16 := by
  unfold crcDivisor
  compute_degree!

/-- The word a shift combines the register with is the divisor without its leading term. -/
theorem bitPoly_crcLow : bitPoly 0x1021 + X ^ 16 = crcDivisor := by
  rw [show (0x1021 : ℕ) = 2 ^ 12 ^^^ 2 ^ 5 ^^^ 2 ^ 0 by decide, bitPoly_xor, bitPoly_xor,
    bitPoly_two_pow, bitPoly_two_pow, bitPoly_two_pow, crcDivisor]
  ring

/-! ## One step of the division -/

/-- The test of a shift reads bit 15 of the register. -/
theorem crcShift_test (c : UInt16) : (c &&& 0x8000 != 0) = c.toNat.testBit 15 := by
  have hand : (c &&& 0x8000).toNat = (c.toNat.testBit 15).toNat * 2 ^ 15 := by
    rw [UInt16.toNat_and, ← Nat.and_two_pow]
    rfl
  cases hb : c.toNat.testBit 15
  · have h : c &&& 0x8000 = 0 := UInt16.toNat_inj.mp (by simp [hand, hb])
    simp [h]
  · have h : c &&& 0x8000 ≠ 0 := fun h0 => by simp [h0, hb] at hand
    simp [h]

/-- Shifting the register left multiplies it by `x`, less the term of degree 16 that falls out. Bit
16 of `2c` is bit 15 of `c`. -/
theorem bitPoly_shiftLeft_one (c : UInt16) :
    bitPoly c.toNat * X = bitPoly (c <<< 1).toNat + bitPoly (c.toNat.testBit 15).toNat * X ^ 16 := by
  have hc := c.toNat_lt
  have hshift : (c <<< 1).toNat = 2 ^ 1 * c.toNat % 2 ^ 16 := by
    rw [UInt16.toNat_shiftLeft, Nat.shiftLeft_eq]
    simp [Nat.mul_comm]
  have htop : (2 ^ 1 * c.toNat) >>> 16 = (c.toNat.testBit 15).toNat := by
    rw [Nat.shiftRight_eq_div_pow, Nat.testBit_eq_decide_div_mod_eq,
      show 2 ^ 1 * c.toNat / 2 ^ 16 = c.toNat / 2 ^ 15 by omega]
    generalize hq : c.toNat / 2 ^ 15 = q
    rcases (show q = 0 ∨ q = 1 by omega) with rfl | rfl <;> rfl
  have h := bitPoly_split 16 (2 ^ 1 * c.toNat)
  rwa [bitPoly_two_pow_mul, pow_one, htop, ← hshift] at h

/-- A shift multiplies the register by `x`; when bit 15 falls out, the divisor is subtracted. -/
theorem bitPoly_crcShift (c : UInt16) :
    bitPoly (crcShift c).toNat =
      bitPoly c.toNat * X + if c.toNat.testBit 15 then crcDivisor else 0 := by
  have hsplit := bitPoly_shiftLeft_one c
  unfold crcShift
  rw [crcShift_test]
  cases hb : c.toNat.testBit 15
  · simp only [hb, Bool.toNat_false, bitPoly_zero, zero_mul, add_zero] at hsplit
    simp [hsplit]
  · simp only [hb, Bool.toNat_true, bitPoly_one, one_mul] at hsplit
    calc bitPoly ((c <<< 1) ^^^ 0x1021).toNat
        = bitPoly (c <<< 1).toNat + bitPoly 0x1021 := by
          rw [UInt16.toNat_xor, bitPoly_xor]
          rfl
      _ = (bitPoly (c <<< 1).toNat + X ^ 16) + (bitPoly 0x1021 + X ^ 16) := by
          rw [add_add_add_comm, CharTwo.add_self_eq_zero, add_zero]
      _ = bitPoly c.toNat * X + if true = true then crcDivisor else 0 := by
          rw [← hsplit, bitPoly_crcLow, if_pos rfl]

/-- Up to a multiple of the divisor, a shift multiplies the register by `x`. -/
theorem crcShift_dvd (c : UInt16) :
    crcDivisor ∣ bitPoly (crcShift c).toNat - bitPoly c.toNat * X := by
  rw [bitPoly_crcShift, add_sub_cancel_left]
  split
  · exact dvd_refl _
  · exact dvd_zero _

/-- Up to a multiple of the divisor, `k` shifts multiply the register by `x^k`. -/
theorem repeat_crcShift_dvd (k : ℕ) (c : UInt16) :
    crcDivisor ∣ bitPoly (Nat.repeat crcShift k c).toNat - bitPoly c.toNat * X ^ k := by
  induction k with
  | zero => simp [Nat.repeat]
  | succ k ih =>
    have hstep := crcShift_dvd (Nat.repeat crcShift k c)
    have heq : bitPoly (Nat.repeat crcShift (k + 1) c).toNat - bitPoly c.toNat * X ^ (k + 1) =
        (bitPoly (crcShift (Nat.repeat crcShift k c)).toNat -
            bitPoly (Nat.repeat crcShift k c).toNat * X) +
          (bitPoly (Nat.repeat crcShift k c).toNat - bitPoly c.toNat * X ^ k) * X := by
      simp only [Nat.repeat]
      ring
    rw [heq]
    exact dvd_add hstep (Dvd.dvd.mul_right ih X)

/-- A byte enters the register at its top: eight places above the register's own bits. -/
theorem bitPoly_crcByte_input (c : UInt16) (b : UInt8) :
    bitPoly (c ^^^ (b.toUInt16 <<< 8)).toNat = bitPoly c.toNat + bitPoly b.toNat * X ^ 8 := by
  have hb := b.toNat_lt
  have hin : (b.toUInt16 <<< 8).toNat = 2 ^ 8 * b.toNat := by
    rw [UInt16.toNat_shiftLeft, UInt8.toNat_toUInt16, Nat.shiftLeft_eq]
    simp only [show (8 : UInt16).toNat % 16 = 8 from rfl]
    omega
  rw [UInt16.toNat_xor, bitPoly_xor, hin, bitPoly_two_pow_mul]

/-- Up to a multiple of the divisor, a byte moves the register and the byte up by eight places. -/
theorem crcByte_dvd (c : UInt16) (b : UInt8) :
    crcDivisor ∣ bitPoly (crcByte c b).toNat - (bitPoly c.toNat + bitPoly b.toNat * X ^ 8) * X ^ 8 := by
  have h := repeat_crcShift_dvd 8 (c ^^^ (b.toUInt16 <<< 8))
  rwa [bitPoly_crcByte_input] at h

/-! ## The whole division -/

/-- Up to a multiple of the divisor, the register continued over `d` is `c(x) x^(8|d|) + d(x) x^16`. -/
theorem crc16Update_dvd (c : UInt16) (d : List UInt8) :
    crcDivisor ∣ bitPoly (crc16Update c d).toNat -
      (bitPoly c.toNat * X ^ (8 * d.length) + bytesPoly d * X ^ 16) := by
  induction d generalizing c with
  | nil => simp
  | cons b d ih =>
    have hrest := ih (crcByte c b)
    have heq : bitPoly (crc16Update c (b :: d)).toNat -
          (bitPoly c.toNat * X ^ (8 * (b :: d).length) + bytesPoly (b :: d) * X ^ 16) =
        (bitPoly (crc16Update (crcByte c b) d).toNat -
            (bitPoly (crcByte c b).toNat * X ^ (8 * d.length) + bytesPoly d * X ^ 16)) +
          (bitPoly (crcByte c b).toNat - (bitPoly c.toNat + bitPoly b.toNat * X ^ 8) * X ^ 8) *
            X ^ (8 * d.length) := by
      rw [List.length_cons, bytesPoly_cons]
      simp only [crc16Update, List.foldl_cons]
      ring
    rw [heq]
    exact dvd_add hrest (Dvd.dvd.mul_right (crcByte_dvd c b) _)

/-- The CRC register, continued from `c` over `d`, is the remainder of `c(x) x^(8|d|) + d(x) x^16`
modulo x^16 + x^12 + x^5 + 1. -/
theorem crc16Update_eq_mod (c : UInt16) (d : List UInt8) :
    bitPoly (crc16Update c d).toNat =
      (bitPoly c.toNat * X ^ (8 * d.length) + bytesPoly d * X ^ 16) %ₘ crcDivisor := by
  have hdeg : (bitPoly (crc16Update c d).toNat).degree < crcDivisor.degree := by
    rw [crcDivisor_degree]
    exact bitPoly_degree_lt (UInt16.toNat_lt _)
  rw [← modByMonic_eq_of_dvd_sub crcDivisor_monic (crc16Update_dvd c d),
    (modByMonic_eq_self_iff crcDivisor_monic).mpr hdeg]

/-- The register's own value, high byte first, is the polynomial of the register. -/
theorem bytesPoly_word (r : UInt16) :
    bytesPoly [(r >>> 8).toUInt8, r.toUInt8] = bitPoly r.toNat := by
  have hr := r.toNat_lt
  have hhi : (r >>> 8).toUInt8.toNat = r.toNat >>> 8 := by
    rw [UInt16.toNat_toUInt8, UInt16.toNat_shiftRight, Nat.shiftRight_eq_div_pow]
    simp only [show (8 : UInt16).toNat % 16 = 8 from rfl]
    omega
  rw [bytesPoly_cons, bytesPoly_cons, bytesPoly_nil, hhi, UInt16.toNat_toUInt8, bitPoly_split 8 r.toNat]
  simp only [List.length_cons, List.length_nil]
  ring

/-- A register continued over its own value, high byte first, comes to zero. -/
theorem crc16Update_trailer (r : UInt16) : crc16Update r [(r >>> 8).toUInt8, r.toUInt8] = 0 := by
  have h := crc16Update_eq_mod r [(r >>> 8).toUInt8, r.toUInt8]
  rw [bytesPoly_word, show 8 * [(r >>> 8).toUInt8, r.toUInt8].length = 16 from rfl,
    CharTwo.add_self_eq_zero, zero_modByMonic] at h
  exact UInt16.toNat_inj.mp (eq_zero_of_bitPoly_eq_zero h)

end

/-! ## The byte sum -/

/-- Summing from a start value adds the start to the checksum. -/
theorem checksum8_from (x : UInt8) (d : List UInt8) : d.foldl (· + ·) x = x + checksum8 d := by
  induction d generalizing x with
  | nil => simp [checksum8]
  | cons b d ih =>
    show d.foldl (· + ·) (x + b) = x + d.foldl (· + ·) (0 + b)
    rw [ih (x + b), ih (0 + b), UInt8.zero_add, UInt8.add_assoc]

/-- The checksum of two runs of bytes is the sum of theirs. -/
theorem checksum8_append (a b : List UInt8) : checksum8 (a ++ b) = checksum8 a + checksum8 b := by
  rw [checksum8, List.foldl_append, checksum8_from]
  rfl

/-- The checksum is the sum of the bytes modulo 256. -/
theorem checksum8_toNat (d : List UInt8) : (checksum8 d).toNat = (d.map UInt8.toNat).sum % 256 := by
  induction d with
  | nil => rfl
  | cons b d ih =>
    have hcons : checksum8 (b :: d) = b + checksum8 d := by
      rw [show b :: d = [b] ++ d from rfl, checksum8_append]
      simp [checksum8]
    rw [hcons, UInt8.toNat_add, ih, List.map_cons, List.sum_cons]
    omega

/-! ## The checks of an XMODEM block -/

/-- The CRC is long division by x^16 + x^12 + x^5 + 1 over GF(2), bits most significant first.
So it can be computed piecewise, and a block followed by its CRC, high byte first, checks to zero,
which is the test a receiver applies to a packet's data and trailer. The byte sum adds modulo
256. -/
theorem crc16_polynomial_division (c : UInt16) (d a b : List UInt8) :
    bitPoly (crc16Update c d).toNat =
        (bitPoly c.toNat * X ^ (8 * d.length) + bytesPoly d * X ^ 16) %ₘ crcDivisor ∧
      crc16Update (crc16Update c a) b = crc16Update c (a ++ b) ∧
      crc16 (d ++ [(crc16 d >>> 8).toUInt8, (crc16 d).toUInt8]) = 0 ∧
      checksum8 (a ++ b) = checksum8 a + checksum8 b ∧
      (checksum8 d).toNat = (d.map UInt8.toNat).sum % 256 := by
  refine ⟨crc16Update_eq_mod c d, (crc16Update_append c a b).symm, ?_, checksum8_append a b,
    checksum8_toNat d⟩
  rw [crc16, crc16Update_append]
  exact crc16Update_trailer _

end RadioFlash
