/-!
# The wrapping millisecond clock

Every engine waits by arming a deadline against a free-running 32-bit millisecond counter and
comparing on each tick. The counter wraps about every 49.7 days, so "reached" looks at the sign of
the wrapped difference: `now` has reached `t` when `now - t`, read modulo 2^32, lies in the lower
half of the circle. Deadlines further than 2^31 ms away cannot be told from past ones.
-/

namespace RadioFlash

/-- A reading of the millisecond counter. -/
abbrev Millis := UInt32

/-- `now` is at or past `deadline`: their wrapped difference, read as a signed word, is not
negative. -/
def timeReached (now deadline : Millis) : Bool :=
  (now - deadline).toNat < 2147483648

/-- A deadline remembers when it was armed and the counter value at which it expires. -/
structure Deadline where
  start : Millis := 0
  due : Millis := 0
deriving DecidableEq, Inhabited, Repr

namespace Deadline

/-- Arm a deadline `delay` milliseconds after `now`. -/
def arm (now delay : Millis) : Deadline :=
  { start := now, due := now + delay }

/-- The deadline has passed at `now`. -/
def elapsed (d : Deadline) (now : Millis) : Bool :=
  timeReached now d.due

/-- Milliseconds since the deadline was armed, modulo 2^32. -/
def sinceArmed (d : Deadline) (now : Millis) : Millis :=
  now - d.start

/-- An armed deadline starts at the clock. -/
@[simp] theorem arm_start (now delay : Millis) : (arm now delay).start = now := rfl

/-- An armed deadline is due its delay after the clock, wrapping. -/
@[simp] theorem arm_due (now delay : Millis) : (arm now delay).due = now + delay := rfl

/-- The time since arming is the wrapping difference of the clocks. -/
theorem sinceArmed_arm (now delay t : Millis) : (arm now delay).sinceArmed t = t - now := rfl

end Deadline

end RadioFlash
