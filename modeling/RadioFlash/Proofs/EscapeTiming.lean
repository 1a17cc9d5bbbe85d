import RadioFlash.Proofs.ResponseLines
/-!
# When the escape sequence goes out

`enter` arms the mode timer at the clock `T` and waits in PreEscape. Each tick then compares the
clock with the guard window `W`, the guard time and 200 ms more, saturating at 2^32 - 1 ms
(`AtConfig.guardWindow_toNat`). The comparison is the wrapping deadline's: a tick at `now` is due
exactly when `(now - T) - W`, modulo 2^32, is below 2^31 (`Target.waited_iff_wrapped`). So for a
window of at most 2^31 ms a tick is due exactly when `W ≤ now - T < W + 2^31`, and a longer window
is due at once, at the very clock `enter` ran at.

Along any run of ticks, with the clock, the bytes received and the room in the transmitter
changed between them at will (`Target.drive`), nothing at all is written before the first due
tick (`Target.drive_before_due`), and that tick writes the three escape bytes: taken whole, it
moves to PostEscape and flushes what was received; taken in part, it fails and stays in PreEscape
(`Target.driveTick_first_due`). From PostEscape a tick with three bytes waiting reads them and
moves to command mode exactly when they are `OK\r`, and to idle otherwise; with fewer, it moves to
idle once the guard window has passed since the escape (`Target.tick_postEscape_mode`).
-/

namespace RadioFlash

namespace AtConfig

/-- The guard window is the guard time and 200 ms more, saturating at 2^32 - 1. -/
theorem guardWindow_toNat (c : AtConfig) :
    c.guardWindow.toNat = min (c.guardTimeMs.toNat + 200) 4294967295 := by
  have := c.guardTimeMs.toNat_lt
  unfold guardWindow
  split
  · rw [show (0xFFFFFFFF : UInt32).toNat = 4294967295 from rfl]
    omega
  · rw [UInt32.toNat_add]
    simp only [show (200 : UInt32).toNat = 200 from rfl]
    omega

end AtConfig

namespace Target

/-- A wait of `ms` has passed at `now` exactly when the time since the mode timer, less `ms`, is
below 2^31 on the wrapping clock. -/
theorem waited_iff_wrapped (t : Target LoggedPort) (now ms : Millis) :
    t.waited now ms = true ↔ ((now - t.modeTimer) - ms).toNat < halfCircle := by
  have hnow : now = t.modeTimer + (now - t.modeTimer) := by
    rw [UInt32.add_comm, UInt32.sub_add_cancel]
  rw [waited, hnow, Deadline.elapsed_add, ← hnow, decide_eq_true_eq]

/-! ## Ticks in PreEscape and PostEscape -/

section Ticks

variable {t : Target LoggedPort}

/-- From Unknown or Idle, `enter` writes nothing and arms PreEscape at the link's clock. -/
theorem enter_from_rest (hm : t.mode = .unknown ∨ t.mode = .idle) :
    enter.run t = (.ok (), { t with mode := .preEscape, modeTimer := t.port.now }) := by
  rw [enter_run, tick_run]
  rcases hm with hm | hm <;> simp [hm]

/-- Before the guard window has passed a tick in PreEscape does nothing. -/
theorem tick_preEscape_early (hm : t.mode = .preEscape)
    (hw : t.waited t.port.now t.config.guardWindow = false) : tick.run t = (.ok .preEscape, t) := by
  rw [tick_run]
  simp [hm, hw]

/-- Once the guard window has passed, a tick in PreEscape writes the escape; taken whole, it moves
to PostEscape, restarts the mode timer and drops what was received. -/
theorem tick_preEscape_sent (hm : t.mode = .preEscape)
    (hw : t.waited t.port.now t.config.guardWindow = true)
    (hk : 3 ≤ LoggedPort.taken t.port.writeChunk 3) :
    tick.run t =
      (.ok .postEscape, { t with
        port := { t.port with rx := {}, log := t.port.log ++
          [.write [t.config.escapeChar, t.config.escapeChar, t.config.escapeChar] 3, .flushRx] },
        mode := .postEscape, modeTimer := t.port.now }) := by
  have h3 : LoggedPort.taken t.port.writeChunk 3 = 3 :=
    Nat.le_antisymm (LoggedPort.taken_le _ _) hk
  rw [tick_run]
  simp [hm, hw, h3]

/-- Once the guard window has passed, a tick in PreEscape writes the escape; taken in part, it
fails and stays in PreEscape. -/
theorem tick_preEscape_short (hm : t.mode = .preEscape)
    (hw : t.waited t.port.now t.config.guardWindow = true)
    (hk : LoggedPort.taken t.port.writeChunk 3 < 3) :
    tick.run t =
      (.error (.resourceExhausted "escape sequence did not fit the transmit buffer"),
        { t with port := { t.port with log := t.port.log ++
          [.write [t.config.escapeChar, t.config.escapeChar, t.config.escapeChar]
            (LoggedPort.taken t.port.writeChunk 3)] } }) := by
  rw [tick_run]
  simp [hm, hw, hk]

/-- The first three bytes a tick in PostEscape reads, when three are waiting. -/
theorem rx_take_three (t : Target LoggedPort) : (t.port.rx.take 3).1 = t.port.rx.toList.take 3 :=
  ByteQueue.take_fst 3 t.port.rx

/-- A tick in PostEscape answers the mode it leaves: command mode exactly when three bytes wait
and they are `OK\r`; idle when three other bytes wait, or when fewer wait and the guard window
has passed since the escape; PostEscape otherwise. -/
theorem tick_postEscape_mode (hm : t.mode = .postEscape) :
    (tick.run t).1 = .ok (tick.run t).2.mode ∧
      ((tick.run t).2.mode = .command ↔
        3 ≤ t.port.rx.size ∧ t.port.rx.toList.take 3 = [79, 75, 13]) ∧
      ((tick.run t).2.mode = .idle ↔
        (3 ≤ t.port.rx.size ∧ t.port.rx.toList.take 3 ≠ [79, 75, 13]) ∨
          (t.port.rx.size < 3 ∧ t.waited t.port.now t.config.guardWindow = true)) ∧
      ((tick.run t).2.mode = .postEscape ↔
        t.port.rx.size < 3 ∧ t.waited t.port.now t.config.guardWindow = false) := by
  rw [tick_run, hm, ← rx_take_three]
  by_cases hn : 3 ≤ t.port.rx.size
  · have hlt : ¬ t.port.rx.size < 3 := by omega
    by_cases hr : (t.port.rx.take 3).1 = [79, 75, 13]
    · simp [hn, hr, hlt]
    · simp [hn, hr, hlt]
  · have hlt : t.port.rx.size < 3 := by omega
    cases hw : t.waited t.port.now t.config.guardWindow
    · simp [hn, hw, hlt]
    · simp [hn, hw, hlt]

end Ticks

/-! ## Runs of ticks -/

/-- The target after its surroundings changed. -/
def meetPort (w : Surroundings) (t : Target LoggedPort) : Target LoggedPort :=
  { t with port := t.port.meet w }

/-- The run of command mode from `t` under `w`: before tick `i` the surroundings become `w i`. -/
def drive (w : Nat → Surroundings) (t : Target LoggedPort) : Nat → Target LoggedPort
  | 0 => t
  | i + 1 => (tick.run (meetPort (w i) (drive w t i))).2

/-- Tick `i` of the run from `t` under `w`: what it answers and where it leaves the target. -/
def driveTick (w : Nat → Surroundings) (t : Target LoggedPort) (i : Nat) :
    Except Error Mode × Target LoggedPort :=
  tick.run (meetPort (w i) (drive w t i))

/-- Tick `i` of a run in PreEscape armed at `T` is due: the guard window has passed at its clock. -/
def EscapeDue (w : Nat → Surroundings) (s : Target LoggedPort) (i : Nat) : Prop :=
  (Deadline.arm s.modeTimer s.config.guardWindow).elapsed (w i).now = true

/-- Before the first due tick, a run from PreEscape stays in PreEscape with its mode timer, and
writes nothing at all. Tick `i` is not due, so it leaves the target as the surroundings left it. -/
theorem drive_before_due {w : Nat → Surroundings} {s : Target LoggedPort} (hm : s.mode = .preEscape) :
    ∀ i, (∀ j < i, ¬ EscapeDue w s j) →
      drive w s i = { s with port := (drive w s i).port } ∧ (drive w s i).port.log = s.port.log := by
  intro i
  induction i with
  | zero => exact fun _ => ⟨rfl, rfl⟩
  | succ i ih =>
    intro hquiet
    obtain ⟨hi, hlog⟩ := ih fun j hj => hquiet j (by omega)
    have hw : (meetPort (w i) (drive w s i)).waited (meetPort (w i) (drive w s i)).port.now
        (meetPort (w i) (drive w s i)).config.guardWindow = false := by
      rw [hi]
      exact Bool.eq_false_iff.mpr (hquiet i (by omega))
    have hmi : (meetPort (w i) (drive w s i)).mode = .preEscape := by rw [hi]; exact hm
    have hstep : drive w s (i + 1) = meetPort (w i) (drive w s i) := by
      rw [drive, tick_preEscape_early hmi hw]
    rw [hstep]
    refine ⟨?_, by simp [meetPort, hlog]⟩
    rw [hi]
    rfl

/-- The first due tick of a run from PreEscape writes the escape: taken whole, it moves to
PostEscape at that tick's clock and drops what was received; taken in part, the tick fails and the
target stays in PreEscape. A tick before it answers PreEscape and writes nothing. The tick sees the
run's own timer and window, on the surroundings' clock and write limit. -/
theorem driveTick_first_due {w : Nat → Surroundings} {s : Target LoggedPort}
    (hm : s.mode = .preEscape) (i : Nat) (hquiet : ∀ j < i, ¬ EscapeDue w s j) :
    let e := s.config.escapeChar
    let k := LoggedPort.taken (w i).writeChunk 3
    let log := s.port.log
    (¬ EscapeDue w s i → (driveTick w s i).1 = .ok .preEscape ∧ (driveTick w s i).2.port.log = log) ∧
    (EscapeDue w s i → 3 ≤ k →
      (driveTick w s i).1 = .ok .postEscape ∧ (driveTick w s i).2.mode = .postEscape ∧
        (driveTick w s i).2.modeTimer = (w i).now ∧ (driveTick w s i).2.port.rx.toList = [] ∧
        (driveTick w s i).2.port.log = log ++ [.write [e, e, e] 3, .flushRx]) ∧
    (EscapeDue w s i → k < 3 →
      (driveTick w s i).1 = .error (.resourceExhausted "escape sequence did not fit the transmit buffer") ∧
        (driveTick w s i).2.mode = .preEscape ∧ (driveTick w s i).2.port.log = log ++ [.write [e, e, e] k]) := by
  obtain ⟨hi, hlog⟩ := drive_before_due hm i hquiet
  have hmi : (meetPort (w i) (drive w s i)).mode = .preEscape := by rw [hi]; exact hm
  have hdue : (meetPort (w i) (drive w s i)).waited (meetPort (w i) (drive w s i)).port.now
      (meetPort (w i) (drive w s i)).config.guardWindow = true ↔ EscapeDue w s i := by
    rw [hi]
    rfl
  have hchunk : (meetPort (w i) (drive w s i)).port.writeChunk = (w i).writeChunk := rfl
  refine ⟨fun hn => ?_, fun hd hk => ?_, fun hd hk => ?_⟩
  · rw [driveTick, tick_preEscape_early hmi (Bool.eq_false_iff.mpr (mt hdue.mp hn))]
    exact ⟨rfl, by simp [meetPort, hlog]⟩
  · rw [driveTick, tick_preEscape_sent hmi (hdue.mpr hd) (by rw [hchunk]; exact hk)]
    refine ⟨rfl, rfl, rfl, rfl, ?_⟩
    simp only [meetPort, LoggedPort.meet_log, hlog]
    rw [hi]
  · rw [driveTick, tick_preEscape_short hmi (hdue.mpr hd) (by rw [hchunk]; exact hk)]
    refine ⟨rfl, hmi, ?_⟩
    simp only [meetPort, LoggedPort.meet_log, hlog]
    rw [hi]
    rfl

/-- Entering command mode, with any settings and from any clock reading `T`: `enter` from
Unknown or Idle arms PreEscape at `T`, writing nothing. The guard window `W` is the guard time and
200 ms, saturating at 2^32 - 1. A tick is due exactly when `(now - T) - W` lies below 2^31 on the
wrapping clock: for a window of at most 2^31 ms, exactly when `W ≤ now - T` (for
`now - T < W + 2^31`), and for a longer window already at `T` itself. Along any run, whatever the
surroundings do between ticks, nothing is written before the first due tick; that tick writes the
three escape bytes and, taken whole, moves to PostEscape at its clock and drops what was received,
or, taken in part, fails with the target still in PreEscape. A tick in PostEscape ends in command
mode exactly when the three bytes it reads are `OK\r`, in idle on any other three bytes or, with
fewer waiting, once the window has passed since the escape, on the same wrapping clock. -/
theorem escape_at_first_due_tick (t₀ : Target LoggedPort) (hm : t₀.mode = .unknown ∨ t₀.mode = .idle)
    (w : Nat → Surroundings) :
    let T := t₀.port.now
    let W := t₀.config.guardWindow
    let e := t₀.config.escapeChar
    let s : Target LoggedPort := { t₀ with mode := .preEscape, modeTimer := T }
    enter.run t₀ = (.ok (), s) ∧
    W.toNat = min (t₀.config.guardTimeMs.toNat + 200) 4294967295 ∧
    (∀ i, EscapeDue w s i ↔ (((w i).now - T) - W).toNat < halfCircle) ∧
    (W.toNat ≤ halfCircle → ∀ i, ((w i).now - T).toNat < W.toNat + halfCircle →
      (EscapeDue w s i ↔ W ≤ (w i).now - T)) ∧
    (halfCircle < W.toNat → ∀ i, (w i).now = T → EscapeDue w s i) ∧
    (∀ i, (∀ j < i, ¬ EscapeDue w s j) →
      (drive w s i).mode = .preEscape ∧ (drive w s i).port.log = t₀.port.log ∧
      (¬ EscapeDue w s i → (driveTick w s i).1 = .ok .preEscape ∧
        (driveTick w s i).2.port.log = t₀.port.log) ∧
      (EscapeDue w s i → 3 ≤ LoggedPort.taken (w i).writeChunk 3 →
        (driveTick w s i).1 = .ok .postEscape ∧ (driveTick w s i).2.mode = .postEscape ∧
          (driveTick w s i).2.modeTimer = (w i).now ∧ (driveTick w s i).2.port.rx.toList = [] ∧
          (driveTick w s i).2.port.log = t₀.port.log ++ [.write [e, e, e] 3, .flushRx]) ∧
      (EscapeDue w s i → LoggedPort.taken (w i).writeChunk 3 < 3 →
        (driveTick w s i).1 =
            .error (.resourceExhausted "escape sequence did not fit the transmit buffer") ∧
          (driveTick w s i).2.mode = .preEscape ∧
          (driveTick w s i).2.port.log =
            t₀.port.log ++ [.write [e, e, e] (LoggedPort.taken (w i).writeChunk 3)])) ∧
    (∀ u : Target LoggedPort, u.mode = .postEscape →
      (tick.run u).1 = .ok (tick.run u).2.mode ∧
      ((tick.run u).2.mode = .command ↔
        3 ≤ u.port.rx.size ∧ u.port.rx.toList.take 3 = [79, 75, 13]) ∧
      ((tick.run u).2.mode = .idle ↔
        (3 ≤ u.port.rx.size ∧ u.port.rx.toList.take 3 ≠ [79, 75, 13]) ∨
          (u.port.rx.size < 3 ∧
            ((u.port.now - u.modeTimer) - u.config.guardWindow).toNat < halfCircle))) := by
  intro T W e s
  have hs : s.mode = .preEscape := rfl
  refine ⟨enter_from_rest hm, AtConfig.guardWindow_toNat _, fun i => waited_iff_wrapped s _ _,
    fun hW i hk => Deadline.elapsed_iff_le_since hW hk, fun hW i hi => ?_, fun i hquiet => ?_,
    fun u hu => ?_⟩
  · -- a window past half the circle is due at the very clock it was armed at
    show (Deadline.arm T W).elapsed (w i).now = true
    rw [hi]
    exact (Deadline.elapsed_at_arming_iff T W).mpr (.inr hW)
  · obtain ⟨hi, hlog⟩ := drive_before_due hs i hquiet
    refine ⟨by rw [hi], hlog, (driveTick_first_due hs i hquiet).1, (driveTick_first_due hs i hquiet).2⟩
  · obtain ⟨hres, hcmd, hidle, -⟩ := tick_postEscape_mode hu
    exact ⟨hres, hcmd, by rw [hidle, waited_iff_wrapped]⟩

/-- A guard time of 2^31 ms leaves no guard silence at all: the first tick, at the very clock
`enter` ran at, writes the escape and moves to PostEscape. -/
theorem long_guard_escapes_at_once :
    (tick.run (enter.run ({ port := {}, config := { guardTimeMs := 2147483648 } } :
        Target LoggedPort)).2).2.port.log = [.write [43, 43, 43] 3, .flushRx] ∧
      (tick.run (enter.run ({ port := {}, config := { guardTimeMs := 2147483648 } } :
        Target LoggedPort)).2).2.mode = .postEscape := by
  rw [enter_from_rest (.inl rfl), tick_preEscape_sent rfl (by decide) (by decide)]
  exact ⟨rfl, rfl⟩

/-- Surroundings that hand over nothing, with the clock at `now` and room for any write. -/
def quietAt (now : Millis) : Surroundings :=
  { rx := default, now, txCapacity := 4096, writeChunk := none, failBauds := [] }

/-- With the default settings, a tick 1200 ms after `enter` at clock 0 is the first due one, and
it writes `+++` and flushes. -/
theorem defaultGuard_escapes_after_window :
    (driveTick (fun _ => quietAt 1200) { port := {}, mode := .preEscape } 0).1 = .ok .postEscape ∧
      (driveTick (fun _ => quietAt 1200) { port := {}, mode := .preEscape } 0).2.port.log =
        [.write [43, 43, 43] 3, .flushRx] := by
  have h := ((escape_at_first_due_tick ({ port := {} } : Target LoggedPort) (.inl rfl)
    (fun _ => quietAt 1200)).2.2.2.2.2.1 0 (fun j hj => absurd hj (Nat.not_lt_zero j))).2.2.2.1
    (by unfold EscapeDue; decide) (by decide)
  simp only [List.nil_append] at h
  exact ⟨h.1, h.2.2.2.2⟩

end Target

end RadioFlash
