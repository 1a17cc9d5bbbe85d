import RadioFlash.Proofs.EscapeTiming
/-!
# Requests on the wire, and entering command mode twice

A request asks the transmitter for room once, for `AT`, the command and the carriage return
together, and is refused with nothing written when there is too little. With room, it makes three
writes and goes on to wait for the response whatever they took: a link that takes at most `c`
bytes per write puts each part on the wire cut to `c` bytes, so the request reaches the module
whole exactly when no write limit is below two bytes or the command's length
(`Target.request_on_wire`).

`enter` runs one tick and starts the escape only from Unknown or Idle. With proper windows (the
idle window and the guard window longer than nothing and shorter than half the circle), a tick
leaves the target in a state where a tick at the same clock changes nothing a caller sees
(`Target.rests_after_tick`), with one exception: a request whose response window ran out reverts to
command mode without restarting the mode timer, and when the idle window, counted from the
request, has run out as well, that command mode is over at once (`Target.StaleCommand`). A tick
that fails leaves the escape to be written again. So `enter` twice at one clock leaves what `enter`
once leaves, except from a stale command, where the second call goes on to the escape, and where
the escape is due and the link takes part of it, where the second call writes that part again
(`Target.enter_twice`).
-/

namespace RadioFlash

namespace AtConfig

/-- The idle window is the command timeout times 100 ms, saturating at 2^32 - 1. -/
theorem idleWindow_toNat (c : AtConfig) :
    c.idleWindow.toNat = min (c.idleTimeout.toNat * 100) 4294967295 := by
  have := c.idleTimeout.toNat_lt
  unfold idleWindow
  split
  · rw [show (0xFFFFFFFF : UInt32).toNat = 4294967295 from rfl]
    omega
  · rw [UInt32.toNat_mul]
    simp only [show (100 : UInt32).toNat = 100 from rfl]
    omega

/-- Settings whose command timeout and guard time make waits that are neither empty nor longer
than half the circle. -/
structure Proper (c : AtConfig) : Prop where
  idle_pos : 0 < c.idleTimeout.toNat * 100
  idle_lt : c.idleTimeout.toNat * 100 < halfCircle
  guard_lt : c.guardTimeMs.toNat + 200 < halfCircle

/-- Proper settings make an idle window that is neither empty nor past half the circle. -/
theorem Proper.idleWindow {c : AtConfig} (hc : c.Proper) :
    0 < c.idleWindow.toNat ∧ c.idleWindow.toNat < halfCircle := by
  have := hc.idle_pos
  have := hc.idle_lt
  rw [idleWindow_toNat]
  simp only [halfCircle] at *
  omega

/-- Proper settings make a guard window that is neither empty nor past half the circle. -/
theorem Proper.guardWindow {c : AtConfig} (hc : c.Proper) :
    0 < c.guardWindow.toNat ∧ c.guardWindow.toNat < halfCircle := by
  have := hc.guard_lt
  rw [guardWindow_toNat]
  simp only [halfCircle] at *
  omega

end AtConfig

namespace Target

/-! ## Requests -/

/-- What a request with room puts on the wire: of `AT`, the command and the carriage return, as
much as each write takes. -/
theorem sentBytes_requestCalls (port : LoggedPort) (cmd : List UInt8) :
    sentBytes (requestCalls port cmd) =
      [65, 84].take (LoggedPort.taken port.writeChunk 2) ++
        cmd.take (LoggedPort.taken port.writeChunk cmd.length) ++
        [13].take (LoggedPort.taken port.writeChunk 1) := by
  simp [requestCalls, PortCall.sent]

/-- The three writes take the whole request exactly when the write limit, if there is one, is at
least two bytes and at least the command's length. -/
theorem request_whole_iff (chunk : Option Nat) (cmd : List UInt8) :
    [65, 84].take (LoggedPort.taken chunk 2) ++ cmd.take (LoggedPort.taken chunk cmd.length) ++
        [13].take (LoggedPort.taken chunk 1) = [65, 84] ++ cmd ++ [13] ↔
      ∀ c, chunk = some c → 2 ≤ c ∧ cmd.length ≤ c := by
  cases chunk with
  | none => simp [LoggedPort.taken]
  | some c =>
    simp only [LoggedPort.taken, Option.elim_some, Option.some.injEq, forall_eq']
    constructor
    · intro h
      have hlen := congrArg List.length h
      simp only [List.length_append, List.length_take, List.length_cons, List.length_nil] at hlen
      omega
    · rintro ⟨h2, hc⟩
      rw [List.take_of_length_le (by simp; omega), List.take_of_length_le (by omega),
        List.take_of_length_le (by simp; omega)]

/-- A request on a logged link, from any target: without room for `AT`, the command and the
carriage return it is refused, sends nothing and keeps the mode and its timer; with room it
succeeds, waits for the response from the link's clock, and sends of each of its three parts as
much as one write takes, which is the whole request exactly when the write limit, if any, is at
least two bytes and the command's length. -/
theorem request_on_wire (t : Target LoggedPort) (cmd : List UInt8) :
    (t.port.txCapacity < cmd.length + 3 →
      ((sendRequest cmd).run t).1 =
          .error (.resourceExhausted s!"no room for AT{Text.utf8Lossy cmd} ({cmd.length + 3} bytes)") ∧
        sentBytes ((sendRequest cmd).run t).2.port.log = sentBytes t.port.log ∧
        ((sendRequest cmd).run t).2.mode = t.mode ∧
        ((sendRequest cmd).run t).2.modeTimer = t.modeTimer) ∧
    (cmd.length + 3 ≤ t.port.txCapacity →
      ((sendRequest cmd).run t).1 = .ok () ∧
        ((sendRequest cmd).run t).2.mode = .waitResponse ∧
        ((sendRequest cmd).run t).2.modeTimer = t.port.now ∧
        sentBytes ((sendRequest cmd).run t).2.port.log = sentBytes t.port.log ++
          ([65, 84].take (LoggedPort.taken t.port.writeChunk 2) ++
            cmd.take (LoggedPort.taken t.port.writeChunk cmd.length) ++
            [13].take (LoggedPort.taken t.port.writeChunk 1)) ∧
        (sentBytes ((sendRequest cmd).run t).2.port.log = sentBytes t.port.log ++ ([65, 84] ++ cmd ++ [13]) ↔
          ∀ c, t.port.writeChunk = some c → 2 ≤ c ∧ cmd.length ≤ c)) := by
  refine ⟨fun hroom => ?_, fun hroom => ?_⟩
  · rw [sendRequest_run, if_pos hroom]
    simp [PortCall.sent]
  · rw [sendRequest_run, if_neg (by omega)]
    refine ⟨rfl, rfl, rfl, ?_, ?_⟩
    · simp only [sentBytes_append, sentBytes_requestCalls]
    · simp only [sentBytes_append, sentBytes_requestCalls, List.append_cancel_left_eq]
      exact request_whole_iff _ cmd

/-- With room for the request and no write limit, `VR` goes out whole. -/
theorem roomy_request_whole :
    (2 : Nat) + 3 ≤ ({ port := {} } : Target LoggedPort).port.txCapacity ∧
      sentBytes ((sendRequest [86, 82]).run ({ port := {} } : Target LoggedPort)).2.port.log =
        [65, 84, 86, 82, 13] :=
  ⟨by decide, by
    simpa [LoggedPort.taken] using
      ((request_on_wire ({ port := {} } : Target LoggedPort) [86, 82]).2 (by decide)).2.2.2.1⟩

/-- On a link that takes one byte per write, `VR` is accepted and waited for, but the wire gets
`A`, `V` and the carriage return. -/
theorem chunked_request_truncated :
    ((sendRequest [86, 82]).run ({ port := { writeChunk := some 1 } } : Target LoggedPort)).1 = .ok () ∧
      ((sendRequest [86, 82]).run ({ port := { writeChunk := some 1 } } : Target LoggedPort)).2.mode =
        .waitResponse ∧
      sentBytes ((sendRequest [86, 82]).run
        ({ port := { writeChunk := some 1 } } : Target LoggedPort)).2.port.log = [65, 86, 13] := by
  rw [sendRequest_run]
  exact ⟨rfl, rfl, by decide⟩

/-! ## Entering twice -/

/-- What a caller sees of a target between calls: its mode, its mode timer, the bytes waiting to
be read and the bytes sent so far. -/
def observed (t : Target LoggedPort) : Mode × Millis × List UInt8 × List UInt8 :=
  (t.mode, t.modeTimer, t.port.rx.toList, sentBytes t.port.log)

/-- A request whose response window has run out at the clock, and whose idle window, counted from
the request too, has run out as well. -/
def StaleCommand (t : Target LoggedPort) : Prop :=
  t.mode = .waitResponse ∧ t.waited t.port.now responseTimeoutMs = true ∧
    t.waited t.port.now t.config.idleWindow = true

/-- The escape is due at the clock and the link takes some of its three bytes, not all. -/
def PartialEscape (t : Target LoggedPort) : Prop :=
  t.mode = .preEscape ∧ t.waited t.port.now t.config.guardWindow = true ∧
    0 < LoggedPort.taken t.port.writeChunk 3 ∧ LoggedPort.taken t.port.writeChunk 3 < 3

/-- A tick at the target's clock answers its mode and makes only calls that send nothing. -/
def Rests (t : Target LoggedPort) : Prop :=
  ∃ calls, sentBytes calls = [] ∧
    tick.run t = (.ok t.mode, { t with port := { t.port with log := t.port.log ++ calls } })

section Rest

variable {t t' : Target LoggedPort} {m : Mode}

/-- A wait neither empty nor past half the circle has not passed at the clock the timer was set. -/
theorem waited_at_timer {ms : Millis} (h0 : 0 < ms.toNat) (h1 : ms.toNat < halfCircle)
    (ht : t.modeTimer = t.port.now) : t.waited t.port.now ms = false := by
  rw [Bool.eq_false_iff, ne_eq, waited, ht, Deadline.elapsed_at_arming_iff]
  rintro (rfl | h)
  · exact absurd h0 (by decide)
  · omega

/-- A target that a tick leaves as it was, answering its mode, rests. -/
theorem rests_of_fixed (h : tick.run t = (.ok t.mode, t)) : Rests t :=
  ⟨[], rfl, by simpa using h⟩

/-- A target whose mode changed at the current clock rests, unless it waits for the escape reply
with three bytes already in. -/
theorem rests_of_armed (hc : t.config.Proper) (ht : t.modeTimer = t.port.now)
    (hrx : t.mode = .postEscape → t.port.rx.size < 3) : Rests t := by
  have hg := waited_at_timer hc.guardWindow.1 hc.guardWindow.2 ht
  have hi := waited_at_timer hc.idleWindow.1 hc.idleWindow.2 ht
  have hr := waited_at_timer (show 0 < responseTimeoutMs.toNat by decide) (by decide) ht
  cases hm : t.mode
  case postEscape =>
    have hn : ¬ 3 ≤ t.port.rx.size := by have := hrx hm; omega
    refine ⟨[.rxAvailable t.port.rx.size], rfl, ?_⟩
    rw [tick_run, hm]
    simp [hn, hg]
  all_goals
    apply rests_of_fixed
    simp [tick_run, hm, hg, hi, hr]

/-- A stale command: the tick gives up on the response and reports command mode, keeping the
mode timer at the request. -/
theorem tick_stale (hs : StaleCommand t) : tick.run t = (.ok .command, { t with mode := .command }) := by
  obtain ⟨hm, hr, -⟩ := hs
  rw [tick_run, hm]
  simp [hr]

/-- Command mode whose idle window has run out reverts to Idle. -/
theorem tick_command_expired (hm : t.mode = .command) (hi : t.waited t.port.now t.config.idleWindow = true) :
    tick.run t = (.ok .idle, { t with mode := .idle }) := by
  rw [tick_run, hm]
  simp [hi]

/-- Apart from a stale command, a tick that succeeds leaves a target that rests. The wait counts
from the mode timer alone, which the poll kept. The request's time is up, but not command mode's:
the timer stays at the request. -/
theorem rests_after_tick (hc : t.config.Proper) (hs : ¬ StaleCommand t) (h : tick.run t = (.ok m, t')) :
    Rests t' := by
  rw [tick_run] at h
  cases hm : t.mode <;> rw [hm] at h <;> dsimp only at h
  case preEscape =>
    split at h
    · split at h
      · cases h
      · obtain ⟨-, rfl⟩ := Prod.mk.inj h
        exact rests_of_armed hc rfl (fun _ => by simp)
    · obtain ⟨-, rfl⟩ := Prod.mk.inj h
      exact rests_of_fixed (by simp [tick_run, *])
  case postEscape =>
    split at h
    · obtain ⟨-, rfl⟩ := Prod.mk.inj h
      exact rests_of_armed hc rfl (by split <;> simp)
    · split at h
      · obtain ⟨-, rfl⟩ := Prod.mk.inj h
        exact rests_of_armed hc rfl (by simp)
      · rename_i hn hw
        obtain ⟨-, rfl⟩ := Prod.mk.inj h
        refine ⟨[.rxAvailable t.port.rx.size], rfl, ?_⟩
        simp only [waited] at hw
        simp [tick_run, waited, *]
  case waitResponse =>
    split at h
    · obtain ⟨-, rfl⟩ := Prod.mk.inj h
      have hi : t.waited t.port.now t.config.idleWindow = false := by
        simpa [StaleCommand, hm, *] using hs
      simp only [waited] at hi
      exact rests_of_fixed (by simp [tick_run, waited, hi])
    · obtain ⟨-, rfl⟩ := Prod.mk.inj h
      exact rests_of_fixed (by simp [tick_run, *])
  case waitIdle | command =>
    split at h
    · obtain ⟨-, rfl⟩ := Prod.mk.inj h
      exact rests_of_fixed (by simp [tick_run])
    · obtain ⟨-, rfl⟩ := Prod.mk.inj h
      exact rests_of_fixed (by simp [tick_run, *])
  case unknown | idle =>
    obtain ⟨-, rfl⟩ := Prod.mk.inj h
    exact rests_of_fixed (by simp [tick_run, hm])

/-- A tick fails only when the escape is due and the link takes less than all three bytes. -/
theorem tick_error_inv {e : Error} (h : tick.run t = (.error e, t')) :
    t.mode = .preEscape ∧ t.waited t.port.now t.config.guardWindow = true ∧
      LoggedPort.taken t.port.writeChunk 3 < 3 := by
  rw [tick_run] at h
  cases hm : t.mode <;> rw [hm] at h <;> dsimp only at h <;> (repeat' split at h) <;>
    simp only [Prod.mk.injEq, reduceCtorEq, false_and] at h
  exact ⟨rfl, ‹_›, ‹_›⟩

/-- Calls that send nothing leave what a caller sees as it was. -/
theorem observed_of_quiet {calls : List PortCall} (h : sentBytes calls = []) :
    observed { t with port := { t.port with log := t.port.log ++ calls } } = observed t := by
  simp [observed, h]

/-- `enter` on a resting target in neither Unknown nor Idle changes nothing a caller sees. -/
theorem enter_of_rests (hr : Rests t) (hm : t.mode ≠ .unknown ∧ t.mode ≠ .idle) :
    (enter.run t).1 = .ok () ∧ observed (enter.run t).2 = observed t := by
  obtain ⟨calls, hq, ht⟩ := hr
  have hrun : enter.run t = (.ok (), { t with port := { t.port with log := t.port.log ++ calls } }) := by
    rw [enter_run, ht]
    simp [hm.1, hm.2]
  rw [hrun]
  exact ⟨rfl, observed_of_quiet hq⟩

/-- When the first tick fails, the second fails the same way and writes the same part of the
escape again. The failed tick only logged its write, so the state it leaves fails in the same way.
-/
theorem enter_twice_of_error {e : Error} (h : tick.run t = (.error e, t')) :
    (enter.run (enter.run t).2).1 = (enter.run t).1 ∧
      ((enter.run (enter.run t).2).2.observed = (enter.run t).2.observed ↔
        LoggedPort.taken t.port.writeChunk 3 = 0) ∧
      (tick.run (tick.run t).2).1 = (tick.run t).1 := by
  obtain ⟨hm, hw, hk⟩ := tick_error_inv h
  have h₁ := tick_preEscape_short hm hw hk
  obtain ⟨he, ht'⟩ := Prod.mk.inj (h₁.symm.trans h)
  have h₂ := tick_preEscape_short (t := t') (by rw [← ht']; exact hm) (by rw [← ht']; exact hw)
    (by rw [← ht']; exact hk)
  simp only [enter_run, h, h₂, he, true_and]
  rw [← ht']
  simp [observed, PortCall.sent]

/-- From a stale command the first `enter` stays in command mode and the second goes on to the
escape; the first tick reports command mode and the second Idle. The reported command mode keeps the
request's timer, whose idle window is over. -/
theorem enter_twice_of_stale (hs : StaleCommand t) :
    (enter.run (enter.run t).2).1 = (enter.run t).1 ∧ (enter.run t).2.mode = .command ∧
      (enter.run (enter.run t).2).2.mode = .preEscape ∧
      (tick.run t).1 = .ok .command ∧ (tick.run (tick.run t).2).1 = .ok .idle := by
  have h₁ := tick_stale hs
  have h₂ := tick_command_expired (t := { t with mode := .command }) rfl hs.2.2
  simp [enter_run, h₁, h₂]

/-- A tick keeps the settings. -/
theorem tick_config {r : Except Error Mode} (h : tick.run t = (r, t')) : t'.config = t.config := by
  obtain ⟨calls, -, ht⟩ := tick_calls t h
  rw [ht]

/-- When the first tick leaves a resting target, the second `enter` changes nothing a caller sees,
and a second tick answers as the first. From Unknown or Idle the first call arms the escape at the
clock, which rests as well. -/
theorem enter_twice_of_rests (hc : t.config.Proper) (h : tick.run t = (.ok m, t')) (hr : Rests t') :
    (enter.run (enter.run t).2).1 = (enter.run t).1 ∧
      (enter.run (enter.run t).2).2.observed = (enter.run t).2.observed ∧
      (tick.run (tick.run t).2).1 = (tick.run t).1 := by
  have hm : t'.mode = m := tick_mode h
  have hc' : t'.config.Proper := by rw [tick_config h]; exact hc
  have hrun : enter.run t = (.ok (), if m = .unknown ∨ m = .idle then
      { t' with mode := .preEscape, modeTimer := t'.port.now } else t') := by
    rw [enter_run, h]
  have hnext : Rests (enter.run t).2 ∧ (enter.run t).2.mode ≠ .unknown ∧ (enter.run t).2.mode ≠ .idle := by
    rw [hrun]
    split
    · exact ⟨rests_of_armed (t := { t' with mode := .preEscape, modeTimer := t'.port.now }) hc' rfl
        (fun h => by cases h), by simp, by simp⟩
    · rename_i hu
      rw [hm]
      exact ⟨hr, not_or.mp hu⟩
  obtain ⟨hagain, hsame⟩ := enter_of_rests hnext.1 hnext.2
  refine ⟨by rw [hagain, hrun], hsame, ?_⟩
  · obtain ⟨calls, -, ht⟩ := hr
    rw [h]
    simp [ht, hm]

end Rest

/-- Entering command mode twice at one clock, from any target with proper settings: the second
call answers as the first did, and it leaves what the first left (the mode, its timer, the bytes
waiting and the bytes sent) exactly when the target holds no stale command and the escape is not
due on a link that takes part of it. Likewise a second tick at the same clock answers as the first
exactly when the target holds no stale command. Only a due escape that did not fit fails, and it is
no stale command. -/
theorem enter_twice (t : Target LoggedPort) (hc : t.config.Proper) :
    (enter.run (enter.run t).2).1 = (enter.run t).1 ∧
      ((enter.run (enter.run t).2).2.observed = (enter.run t).2.observed ↔
        ¬ StaleCommand t ∧ ¬ PartialEscape t) ∧
      ((tick.run (tick.run t).2).1 = (tick.run t).1 ↔ ¬ StaleCommand t) := by
  rcases h₁ : tick.run t with ⟨_ | m, t'⟩
  case error e =>
    obtain ⟨hm, hw, hk⟩ := tick_error_inv h₁
    have hns : ¬ StaleCommand t := fun hs => by rw [hs.1] at hm; cases hm
    have hpart : PartialEscape t ↔ LoggedPort.taken t.port.writeChunk 3 ≠ 0 := by
      simp only [PartialEscape, hm, hw, hk, true_and, and_true]
      omega
    obtain ⟨henter, hobs, htick⟩ := enter_twice_of_error h₁
    rw [h₁] at htick
    refine ⟨henter, ?_, by simp [htick, hns]⟩
    rw [hobs, hpart]
    simp [hns]
  case ok =>
    by_cases hs : StaleCommand t
    · obtain ⟨henter, hcmd, hesc, htick₁, htick₂⟩ := enter_twice_of_stale hs
      rw [h₁] at htick₁ htick₂
      obtain rfl : m = .command := by simpa using htick₁
      refine ⟨henter, ?_, by simp [htick₂, hs]⟩
      simp only [hs, not_true_eq_false, false_and, iff_false]
      intro hobs
      have := congrArg Prod.fst hobs
      simp only [observed, hcmd, hesc] at this
      cases this
    · -- a due escape that did not fit would have failed the tick
      have hnp : ¬ PartialEscape t := by
        rintro ⟨hm, hw, -, hk⟩
        rw [tick_preEscape_short hm hw hk] at h₁
        cases h₁
      obtain ⟨henter, hobs, htick⟩ := enter_twice_of_rests hc h₁ (rests_after_tick hc hs h₁)
      rw [h₁] at htick
      exact ⟨henter, by simp [hobs, hs, hnp], by simp [htick, hs]⟩

/-- With the default settings, `enter` twice on a fresh target leaves what `enter` once leaves. -/
theorem fresh_target_enters_once :
    ({ port := {} } : Target LoggedPort).config.Proper ∧
      (enter.run (enter.run ({ port := {} } : Target LoggedPort)).2).2.observed =
        (enter.run ({ port := {} } : Target LoggedPort)).2.observed := by
  have hc : ({ port := {} } : Target LoggedPort).config.Proper := ⟨by decide, by decide, by decide⟩
  refine ⟨hc, (enter_twice _ hc).2.1.mpr ⟨fun hs => ?_, fun hp => ?_⟩⟩
  · cases hs.1
  · cases hp.1

/-- Two targets where a second `enter` at the same clock does more than the first. The request
`VR` sent at clock 0 and left unanswered for 10 s: `enter` once reports command mode, and `enter`
again finds its idle window over and starts the escape (two ticks likewise answer Command, then
Idle). And with the escape due on a link that takes one byte per write, `enter` twice writes one
escape byte more than `enter` once. -/
theorem second_enter_acts_again :
    (let s : Target LoggedPort :=
      { ((sendRequest [86, 82]).run ({ port := {} } : Target LoggedPort)).2 with
        port := { ((sendRequest [86, 82]).run ({ port := {} } : Target LoggedPort)).2.port with
          now := 10000 } }
    (enter.run (enter.run s).2).2.observed ≠ (enter.run s).2.observed ∧
      (tick.run (tick.run s).2).1 ≠ (tick.run s).1) ∧
    (let s : Target LoggedPort := { port := { now := 1200, writeChunk := some 1 }, mode := .preEscape }
    sentBytes (enter.run (enter.run s).2).2.port.log = [43, 43] ∧
      sentBytes (enter.run s).2.port.log = [43]) := by
  constructor
  · intro s
    have hs : StaleCommand s := by
      simp only [StaleCommand, s, sendRequest_run]
      decide
    obtain ⟨-, hcmd, hesc, htick₁, htick₂⟩ := enter_twice_of_stale hs
    refine ⟨fun h => ?_, by rw [htick₁, htick₂]; simp⟩
    have := congrArg Prod.fst h
    simp only [observed, hcmd, hesc] at this
    cases this
  · intro s
    have hw : s.waited s.port.now s.config.guardWindow = true := by decide
    have h₁ := tick_preEscape_short (t := s) rfl hw (by decide)
    have h₂ := tick_preEscape_short (t := (tick.run s).2) (by rw [h₁]) (by rw [h₁]; exact hw)
      (by rw [h₁]; decide)
    simp only [enter_run, h₁]
    rw [h₁] at h₂
    simp only [h₂]
    decide

end Target

end RadioFlash
