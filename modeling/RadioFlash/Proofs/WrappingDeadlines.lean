import RadioFlash.Clock
/-!
# Deadlines on the wrapping clock

`timeReached now t` reads the wrapped difference `now - t` as a signed 32-bit word and asks
whether it is not negative (`timeReached_iff_signed`), which is the difference modulo 2^32
lying below 2^31 (`timeReached_iff_mod`).

A deadline armed `d` ms ahead and read `k` ms after arming has elapsed exactly when `k ≥ d`,
for every `k < d + 2^31`, provided `d ≤ 2^31` (`Deadline.elapsed_add_iff`). The bound on `d` is
exact: a longer delay counts as elapsed at the moment it is armed (`Deadline.elapsed_at_arming_iff`),
so the law fails for every `d > 2^31` and for no smaller one (`Deadline.elapsed_law_iff`). The
time since arming is the wrapped difference whatever the delay.
-/

namespace RadioFlash

/-- Half the circle of the counter: 2^31 ms. -/
def halfCircle : Nat := 2147483648

/-- The test the engines run: the wrapped difference, read as a signed word, is not negative. -/
theorem timeReached_iff_signed (now t : Millis) :
    timeReached now t = true ↔ 0 ≤ (now - t).toInt32.toInt := by
  have h : (now - t).toInt32.toInt = (now - t).toBitVec.toInt := rfl
  have hlt := (now - t).toNat_lt
  rw [h, BitVec.toInt_eq_toNat_cond]
  simp only [timeReached, decide_eq_true_eq, UInt32.toNat_toBitVec]
  split <;> omega

/-- The wrapping test reads the difference of the two times modulo 2^32: reached exactly when it is
below half the circle. -/
theorem timeReached_iff_mod (a b : Millis) :
    timeReached a b = true ↔ ((a.toNat : Int) - b.toNat) % 4294967296 < halfCircle := by
  have ha := a.toNat_lt
  have hb := b.toNat_lt
  simp only [timeReached, decide_eq_true_eq, UInt32.toNat_sub, halfCircle]
  omega

namespace Deadline

/-- Reading the clock `k` ms after arming compares `k` with the delay, on the circle. -/
theorem elapsed_add (now d k : Millis) :
    (arm now d).elapsed (now + k) = decide ((k - d).toNat < halfCircle) := by
  have hk : now + k - (now + d) = k - d := by
    apply UInt32.toNat_inj.mp
    have := now.toNat_lt
    have := k.toNat_lt
    have := d.toNat_lt
    simp only [UInt32.toNat_sub, UInt32.toNat_add]
    omega
  rw [elapsed, arm_due, timeReached, hk]
  rfl

/-- Within `d + 2^31` ms of arming, a deadline at most half the circle ahead has elapsed exactly
once its delay has passed. -/
theorem elapsed_add_iff (now : Millis) {d k : Millis} (hd : d.toNat ≤ halfCircle)
    (hk : k.toNat < d.toNat + halfCircle) :
    (arm now d).elapsed (now + k) = true ↔ d ≤ k := by
  rw [elapsed_add, decide_eq_true_eq, UInt32.le_iff_toNat_le, UInt32.toNat_sub]
  simp only [halfCircle] at *
  omega

/-- At the moment it is armed a deadline has elapsed only with no delay, or with a delay past
half the circle. -/
theorem elapsed_at_arming_iff (now d : Millis) :
    (arm now d).elapsed now = true ↔ d = 0 ∨ halfCircle < d.toNat := by
  have h := elapsed_add now d 0
  rw [UInt32.add_zero] at h
  rw [h, decide_eq_true_eq, UInt32.toNat_sub, ← UInt32.toNat_inj]
  have := d.toNat_lt
  simp only [halfCircle, UInt32.toNat_zero]
  omega

/-- The time since arming is the wrapped difference, whatever the delay. -/
theorem sinceArmed_add (now d k : Millis) : (arm now d).sinceArmed (now + k) = k := by
  apply UInt32.toNat_inj.mp
  have := now.toNat_lt
  have := k.toNat_lt
  simp only [sinceArmed, arm_start, UInt32.toNat_sub, UInt32.toNat_add]
  omega

/-- Read less than `d + 2^31` ms after arming, a deadline at most half the circle ahead has elapsed
exactly when `d` ms have passed since it was armed. -/
theorem elapsed_iff_le_since {start d now : Millis} (hd : d.toNat ≤ halfCircle)
    (hk : (now - start).toNat < d.toNat + halfCircle) :
    (arm start d).elapsed now = true ↔ d ≤ now - start := by
  obtain ⟨k, rfl⟩ : ∃ k, now = start + k :=
    ⟨now - start, by rw [UInt32.add_comm, UInt32.sub_add_cancel]⟩
  have hsince : start + k - start = k := sinceArmed_add start d k
  rw [hsince] at hk ⊢
  exact elapsed_add_iff start hd hk

/-- The law "elapsed `k` ms after arming iff `k ≥ d`, for `k < d + 2^31`" holds for a delay
exactly when the delay is at most half the circle. Past half the circle the deadline has elapsed at
once, before its delay. -/
theorem elapsed_law_iff (d : Millis) :
    (∀ now k : Millis, k.toNat < d.toNat + halfCircle →
      ((arm now d).elapsed (now + k) = true ↔ d ≤ k)) ↔ d.toNat ≤ halfCircle := by
  constructor
  · intro hlaw
    refine Nat.le_of_not_lt fun hd => ?_
    have hnow := (elapsed_at_arming_iff 0 d).mpr (.inr hd)
    rw [← UInt32.add_zero 0] at hnow
    have hle := (hlaw 0 0 (by simp [halfCircle])).mp hnow
    rw [UInt32.le_iff_toNat_le, UInt32.toNat_zero] at hle
    simp only [halfCircle] at hd
    omega
  · intro hd now k hk
    exact elapsed_add_iff now hd hk

end Deadline

/-- The range of the wrapping deadline: "reached" is the wrapped difference lying below 2^31; the
time since arming is the wrapped difference; "elapsed `k` ms after arming iff `k ≥ d`, for every
`k < d + 2^31`" holds exactly for the delays up to 2^31 ms; and a deadline has elapsed at the
moment it is armed exactly when its delay is zero or longer than 2^31 ms. -/
theorem deadline_exact_range :
    (∀ a b : Millis,
      timeReached a b = true ↔ ((a.toNat : Int) - b.toNat) % 4294967296 < halfCircle) ∧
    (∀ now d k : Millis, (Deadline.arm now d).sinceArmed (now + k) = k) ∧
    (∀ d : Millis, (∀ now k : Millis, k.toNat < d.toNat + halfCircle →
        ((Deadline.arm now d).elapsed (now + k) = true ↔ d ≤ k)) ↔ d.toNat ≤ halfCircle) ∧
    (∀ now d : Millis, (Deadline.arm now d).elapsed now = true ↔ d = 0 ∨ halfCircle < d.toNat) :=
  ⟨timeReached_iff_mod, Deadline.sinceArmed_add, Deadline.elapsed_law_iff, Deadline.elapsed_at_arming_iff⟩

/-- A delay of exactly 2^31 ms has not elapsed when it is armed, and elapses exactly once it has
passed, at every reading of the clock. -/
theorem deadline_half_circle_keeps_law :
    (Deadline.arm 0 2147483648).elapsed 0 = false ∧
      ∀ now k : Millis, ((Deadline.arm now 2147483648).elapsed (now + k) = true ↔ 2147483648 ≤ k) := by
  refine ⟨by decide, fun now k => Deadline.elapsed_add_iff now (by decide) ?_⟩
  have := k.toNat_lt
  simp only [halfCircle, show (2147483648 : Millis).toNat = 2147483648 from rfl]
  omega

end RadioFlash
