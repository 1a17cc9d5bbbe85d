import RadioFlash.Proofs.PortControl
/-!
# The port discipline of an OEM session

`PortControl` follows the control calls of an OEM session one step at a time. Here they are read
off whole runs. A tick keeps the failing rates and the clock, opens the port at most once, and if
it sets the break it ends at HoldBreak with the timer at its clock (`tick_port`). A session holds
the break at HoldBreak until a tick releases it, and such a tick comes 400 ms after the break at
the earliest (`break_held_long_enough`).

With the plan of `PortControl` this gives the discipline every OEM session keeps on its port
(`PortDiscipline`): the rates it opens and their order, the fallback to 9600 baud and the end of
a second idle attempt, when it drives the break and the reset line, and what a failed open does.
-/

namespace RadioFlash

open RadioFlash.Action

namespace Session

/-- Every OEM step keeps a session following `s₀`. -/
theorem follows_stepsKeep (s₀ : Session LoggedPort) : StepsKeep (Follows s₀) := by
  intro s st r s' hs _ hrun
  have hs' : Follows s s' := by
    have := keeps_iff.mp (stepOem_keeps st) s
    rwa [hrun] at this
  exact hs.trans (hs'.trans (settle_follows r s'))

/-! ## Ticks -/

/-- What one tick does to the control of the port: it keeps the failing rates and the clock; a
tick that sets the break answers, and ends at HoldBreak with the timer at its clock; and it opens
the port at most once, failing with that open's error at a failing rate, and opening the fallback
rate only from Reset with the module left idle. -/
def TickPort (s : Session LoggedPort) (r : Except Error Xmodem.Status) (s' : Session LoggedPort) :
    Prop :=
  s'.target.port.failBauds = s.target.port.failBauds ∧ s'.target.port.now = s.target.port.now ∧
    (.setBreak true ∉ s.target.port.log → .setBreak true ∈ s'.target.port.log →
      (∃ a, r = .ok a) ∧ s'.phase = .oem .holdBreak ∧ s'.timer = s.target.port.now) ∧
    (opens s'.target.port.log = opens s.target.port.log ∨
      ∃ b, opens s'.target.port.log = opens s.target.port.log ++ [b] ∧
        (b ∈ s.target.port.failBauds → r = .error (.io s!"cannot open at {b}")) ∧
        (opens s.target.port.log = [115200] → b = 9600 →
          s.phase = .oem .reset ∧ s.target.mode = .idle))

section Ticks

variable {s₀ s s' s'' : Session LoggedPort}

/-- A session left as it was keeps the port discipline of a tick. -/
theorem tickPort_self (r : Except Error Xmodem.Status) : TickPort s r s :=
  ⟨rfl, rfl, fun hn hy => absurd hy hn, .inl rfl⟩

/-- A step that yields or fails ends its tick, and the tick does to the port what the step did. -/
theorem tickPort_of_step {r : Except Error Step} {r' : Except Error Xmodem.Status}
    (hps : PortStep s r s') (hres : ∀ x, r = .error x ↔ r' = .error x) :
    TickPort s r' (settle r s') := by
  obtain ⟨hfb, hnow, -, hbrk, hopen⟩ := hps
  simp only [TickPort, settle_target]
  refine ⟨hfb, hnow, fun hn hy => ?_, ?_⟩
  · obtain ⟨rfl, hph, htimer⟩ := hbrk hn hy
    refine ⟨?_, hph, htimer⟩
    cases r' with
    | ok a => exact ⟨a, rfl⟩
    | error x => cases (hres x).mpr rfl
  · rcases hopen with hsame | ⟨b, hb, -, hfail, hfall⟩
    · exact .inl hsame
    · exact .inr ⟨b, hb, fun h => (hres _).mp (hfail h), hfall⟩

/-- A step that goes on leaves the port to the rest of its tick. A step that goes on neither opens
the port nor sets the break. -/
theorem TickPort.of_goOn {r' : Except Error Xmodem.Status} (hps : PortStep s (.ok .goOn) s')
    (ht : TickPort s' r' s'') : TickPort s r' s'' := by
  obtain ⟨hfb, hnow, hgo, hbrk, hopen⟩ := hps
  obtain ⟨hfb', hnow', hbrk', hopen'⟩ := ht
  have hsame : opens s'.target.port.log = opens s.target.port.log := by
    rcases hopen with h | ⟨b, -, hr, -⟩
    · exact h
    · exact absurd rfl hr
  have hquiet : .setBreak true ∉ s.target.port.log → .setBreak true ∉ s'.target.port.log :=
    fun hn hy => by cases (hbrk hn hy).1
  refine ⟨hfb'.trans hfb, hnow'.trans hnow, fun hn hy => ?_, ?_⟩
  · obtain ⟨hok, hph, htimer⟩ := hbrk' (hquiet hn) hy
    exact ⟨hok, hph, htimer.trans hnow⟩
  · rw [← hsame]
    rcases hopen' with h | ⟨b, hb, hfail, hfall⟩
    · exact .inl h
    · exact .inr ⟨b, hb, fun h => hfail (by rwa [hfb]), fun h₁ h₂ => absurd (hfall h₁ h₂).1 (hgo rfl)⟩

/-- The steps of a tick from a planned state do to the port what `TickPort` says. Induction on the
fuel: the step that yields or fails makes the tick's change. -/
theorem runSteps_port (h0 : ∃ st, s₀.phase = .oem st) (n : Nat) :
    ∀ s, PlannedFrom s₀ s →
      TickPort s ((runSteps n).run s).1 (settle ((runSteps n).run s).1 ((runSteps n).run s).2) := by
  induction n with
  | zero =>
    intro s _
    exact tickPort_self _
  | succ n ih =>
    intro s hp
    obtain ⟨st, hst⟩ := hp.1.oem h0
    rcases hr : (stepOem st).run s with ⟨r, s'⟩
    have hps := (step_controlled hp hst hr).2.2
    simp only [runSteps, Action.run_bind, Action.run_get, hst]
    rw [hr]
    cases r with
    | error e => exact tickPort_of_step hps fun x => by simp
    | ok step =>
      cases step with
      | goOn => exact TickPort.of_goOn hps (ih s' (plannedFrom_stepsKeep s₀ s st _ s' hp hst hr))
      | pause => exact tickPort_of_step hps fun x => by simp

/-- A tick of a live session runs its steps and settles their outcome. -/
theorem tick_run_live (hok : s.isFailed = false) :
    tick.run s = (((runSteps 6).run s).1, settle ((runSteps 6).run s).1 ((runSteps 6).run s).2) := by
  unfold tick
  simp only [Action.run_bind, Action.run_get, hok, Bool.false_eq_true, if_false]
  rw [Action.run_tryCatch]
  rcases hr : (runSteps 6).run s with ⟨r, s'⟩
  rw [Action.run_bind, hr]
  cases r with
  | ok status =>
    by_cases hc : status = .complete
    · simp [hc, Action.run_bind]
    · simp [hc]
  | error e =>
    simp only [Action.run_bind, say_run, Action.run_modify, Action.run_throw]
    rfl

/-- Every tick of a planned run does to the port what `TickPort` says. -/
theorem tick_port (h0 : ∃ st, s₀.phase = .oem st) (hp : PlannedFrom s₀ s) :
    TickPort s (tick.run s).1 (advance s) := by
  cases hf : s.isFailed
  · rw [advance, tick_run_live hf]
    exact runSteps_port h0 6 s hp
  · rw [advance, tick_of_failed hf]
    exact tickPort_self _

/-- A failed OEM step leaves the session at Failure. -/
theorem settle_error_oem {α : Type} {x : Session LoggedPort} {e : Error} {st : OemState}
    (h : (settle (.error e : Except Error α) x).phase = .oem st) : st = .failure := by
  rcases hx : x.phase with a | a <;> simp only [settle, hx, reduceCtorEq, Phase.oem.injEq] at h
  exact h.symm

/-- A failing tick of a planned run leaves the session failed. -/
theorem advance_failed (h0 : ∃ st, s₀.phase = .oem st) (hp : PlannedFrom s₀ s) {e : Error}
    (h : (tick.run s).1 = .error e) : (advance s).phase = .oem .failure := by
  obtain ⟨st, hst⟩ := (advance_keeps (fun x hx => hx.1.oem h0) (plannedFrom_stepsKeep s₀) hp).1.oem h0
  cases hf : s.isFailed
  · rw [tick_run_live hf] at h
    rw [advance, tick_run_live hf] at hst ⊢
    dsimp only at h hst ⊢
    rw [h] at hst ⊢
    exact settle_error_oem hst ▸ hst
  · obtain ⟨st₀, h₀⟩ := hp.1.oem h0
    rw [advance, tick_of_failed hf, h₀]
    cases st₀ <;> simp_all [isFailed]

/-- A failed session keeps its log, whatever its surroundings do. -/
theorem reachable_of_failed_log {s₁ : Session LoggedPort} (h₁ : s₁.phase = .oem .failure)
    (h : Reachable s₁ s) : s.target.port.log = s₁.target.port.log := by
  induction h with
  | start => rfl
  | tick ht ih =>
    rw [advance, (reachable_of_failed h₁ ht).2]
    exact ih
  | meet w _ ih => exact ih

/-- A tick whose first step goes on ends after that step's state. -/
theorem follows_of_goOn {st : OemState} (hst : s.phase = .oem st) (hlive : st ≠ .failure)
    (h : (stepOem st).run s = (.ok .goOn, s')) : Follows s' (advance s) := by
  have hok : s.isFailed = false := by
    cases st <;> simp_all [isFailed]
  have hf : Follows s s' := by
    have := keeps_iff.mp (stepOem_keeps st) s
    rwa [h] at this
  have hrun : (runSteps 6).run s = (runSteps 5).run s' := by
    simp only [runSteps, Action.run_bind, Action.run_get, hst, h]
  rw [advance, tick_run_live hok, hrun]
  exact runSteps_keeps (fun x hx => hx.oem (hf.oem ⟨st, hst⟩)) (follows_stepsKeep s') 5 s'
    (Follows.refl s')

end Ticks

/-! ## The break -/

section Break

variable {s t u : Session LoggedPort}

/-- While the break is held the session waits at HoldBreak, its timer where the break set it:
at HoldBreak a tick either releases the break or changes nothing. -/
theorem holding_break (hu : u.phase = .oem .holdBreak) (h : Reachable u t)
    (hn : .setBreak false ∉ t.target.port.log) : t.phase = .oem .holdBreak ∧ t.timer = u.timer := by
  induction h with
  | start => exact ⟨hu, rfl⟩
  | @tick t ht ih =>
    have hoem : ∃ st, t.phase = .oem st := (reachable_follows ⟨_, hu⟩ ht).oem ⟨_, hu⟩
    have hn' : .setBreak false ∉ t.target.port.log :=
      fun hm => hn ((reachable_follows hoem (.tick .start)).log.subset hm)
    obtain ⟨hph, htimer⟩ := ih hn'
    have hstep := holdBreak_run t
    by_cases hw : t.waited 400 = true
    · rw [if_pos hw] at hstep
      exact absurd ((follows_of_goOn hph (by decide) hstep).log.subset (by simp)) hn
    · rw [if_neg hw] at hstep
      rw [advance, tick_of_pause hph (by decide) hstep]
      exact ⟨hph, htimer⟩
  | meet w _ ih => exact ih hn

/-- A tick that releases the break comes once 400 ms have passed on the timer. -/
theorem release_waited (hph : t.phase = .oem .holdBreak) (hn : .setBreak false ∉ t.target.port.log)
    (hy : .setBreak false ∈ (advance t).target.port.log) :
    (Deadline.arm t.timer 400).elapsed t.target.port.now = true := by
  cases hw : (Deadline.arm t.timer 400).elapsed t.target.port.now
  · -- a tick before then leaves the session as it is, the break still held
    have hstep := holdBreak_run t
    rw [waited_eq, hw, if_neg Bool.false_ne_true] at hstep
    rw [advance, tick_of_pause hph (by decide) hstep] at hy
    exact absurd hy hn
  · rfl

/-- If a tick sets the break, the tick that releases it comes 400 ms later at the earliest. -/
theorem break_held_long_enough {s₀ : Session LoggedPort} (h0 : ∃ st, s₀.phase = .oem st)
    (hp : PlannedFrom s₀ s) (hn : .setBreak true ∉ s.target.port.log)
    (hy : .setBreak true ∈ (advance s).target.port.log) (ht : Reachable (advance s) t)
    (hn' : .setBreak false ∉ t.target.port.log) (hy' : .setBreak false ∈ (advance t).target.port.log) :
    (Deadline.arm s.target.port.now 400).elapsed t.target.port.now = true := by
  obtain ⟨-, -, hbrk, -⟩ := tick_port h0 hp
  obtain ⟨-, hph, htimer⟩ := hbrk hn hy
  obtain ⟨hph', htimer'⟩ := holding_break hph ht hn'
  rw [← htimer, ← htimer']
  exact release_waited hph' hn' hy'

end Break

end Session

/-! ## The plan, read off a log -/

section PlanLog

variable {log pre : List PortCall} {c : PortCall} {f b : Bool}

/-- The calls before a control call's first occurrence, read among the control calls. -/
theorem callsBefore_controls (hc : c.isControl = true) :
    callsBefore c (controls log) = (callsBefore c log).map controls := by
  induction log with
  | nil => rfl
  | cons d rest ih =>
    by_cases hd : d = c
    · subst hd
      simp [callsBefore, hc]
    · cases hdc : d.isControl <;> simp [callsBefore, hd, hdc, ih, Option.map_map, Function.comp_def]

/-- A log has no more of a control call than its plan. -/
theorem count_le_plan (hc : c.isControl = true) (hplan : controls log <+: controlPlan f b) :
    log.count c ≤ (controlPlan f b).count c := by
  rw [← List.count_filter hc]
  exact hplan.sublist.count_le c

/-- The plan sets the break at most once and pulses the reset line at most once. -/
theorem controlPlan_count_le (f b : Bool) :
    (controlPlan f b).count (.setBreak true) ≤ 1 ∧ (controlPlan f b).count (.setReset true) ≤ 1 := by
  cases f <;> cases b <;> decide

/-- The rates a log that keeps the plan opens: 115200, then 9600 if command mode failed there,
then 38400 and 9600. -/
theorem opens_of_plan (hplan : controls log <+: controlPlan f b) :
    opens log <+: [115200, 9600, 38400, 9600] ∨ opens log <+: [115200, 38400, 9600] := by
  have h : opens (controls log) <+: opens (controlPlan f b) := hplan.filterMap _
  rw [opens_controls] at h
  cases f
  · refine .inr (h.trans ?_)
    cases b <;> exact List.prefix_refl _
  · refine .inl (h.trans ?_)
    cases b <;> exact List.prefix_refl _

/-- In a log that keeps the plan, a break that was set is released before the port is opened at
38400 baud. The plan sets the break only to reset into the bootloader, and releases it before 38400.
-/
theorem release_before_bootloader (hplan : controls log <+: controlPlan f b)
    (hpre : callsBefore (.reopen 38400) log = some pre) (hbrk : .setBreak true ∈ log) :
    .setBreak false ∈ pre := by
  have hc : callsBefore (.reopen 38400) (controls log) = some (controls pre) := by
    rw [callsBefore_controls rfl, hpre]
    rfl
  obtain ⟨rest, hrest⟩ := hplan
  have hp : callsBefore (.reopen 38400) (controlPlan f b) = some (controls pre) := by
    rw [← hrest]
    exact callsBefore_append_of_some hc
  have hb : .setBreak true ∈ controlPlan f b := by
    rw [← hrest]
    exact List.mem_append_left _ (List.mem_filter.mpr ⟨hbrk, rfl⟩)
  have hrel : .setBreak false ∈ controls pre := by
    cases b
    · exact absurd hb (by cases f <;> simp [controlPlan, finishCalls])
    · cases f <;> simp [controlPlan, breakCalls, finishCalls, callsBefore] at hp <;> simp [← hp]
  exact (List.mem_filter.mp hrel).1

end PlanLog

/-! ## The discipline -/

namespace Session

section Discipline

variable {s₀ s : Session LoggedPort}

/-- The fallback to 9600 baud is opened by a tick from Reset, with the module left idle. -/
theorem fallback_of_tickPort {r : Except Error Xmodem.Status} {s' : Session LoggedPort}
    (ht : TickPort s r s') (h₁ : opens s.target.port.log = [115200])
    (h₂ : opens s'.target.port.log = [115200, 9600]) : s.phase = .oem .reset ∧ s.target.mode = .idle := by
  obtain ⟨-, -, -, hsame | ⟨b, hb, -, hfall⟩⟩ := ht
  · rw [h₁, h₂] at hsame
    exact absurd hsame (by decide)
  · rw [h₁, h₂] at hb
    have h9600 : b = 9600 := by simpa using hb.symm
    exact hfall h₁ h9600

/-- At CmdPending after the fallback to 9600 baud, a module found idle ends the session with a
timeout. The controls so far tell the first attempt from the second. -/
theorem second_idle_fails (hp : PlannedFrom s₀ s) (hph : s.phase = .oem .cmdPending)
    (hop : opens s.target.port.log = [115200, 9600]) (hidle : (Target.tick.run s.target).1 = .ok .idle) :
    (tick.run s).1 = .error (.timeout "module did not enter command mode") ∧
      (advance s).phase = .oem .failure := by
  have hst := hp.2.2.2
  unfold ControlStage at hst
  rw [hph] at hst
  dsimp only at hst
  have htries : s.tries ≠ 0 := by
    rcases hst.2 with ⟨hc, -⟩ | ⟨-, ht⟩
    · rw [← opens_controls, hc] at hop
      exact absurd hop (by decide)
    · exact ht
  rcases htk : Target.tick.run s.target with ⟨r, t⟩
  rw [htk] at hidle
  dsimp only at hidle
  subst hidle
  have hstep : (stepOem .cmdPending).run s =
      (.error (.timeout "module did not enter command mode"), { s with target := t }) := by
    rw [cmdPending_run, htk]
    exact if_neg htries
  have hrun := tick_of_error hph (by decide) hstep
  refine ⟨by rw [hrun], ?_⟩
  rw [advance, hrun]
  exact settle_error_phase (.timeout "module did not enter command mode") hph

/-- A tick that opens at a failing rate fails with that open's error, and the session stays
failed with that rate the last it opened. -/
theorem failed_open_final (h0 : ∃ st, s₀.phase = .oem st) (hp : PlannedFrom s₀ s) {b : UInt32}
    (hb : b ∈ s.target.port.failBauds)
    (hop : opens (advance s).target.port.log = opens s.target.port.log ++ [b]) :
    (tick.run s).1 = .error (.io s!"cannot open at {b}") ∧
      ∀ t, Reachable (advance s) t →
        t.phase = .oem .failure ∧ opens t.target.port.log = opens s.target.port.log ++ [b] := by
  obtain ⟨-, -, -, hsame | ⟨b', hb', hfail, -⟩⟩ := tick_port h0 hp
  · rw [hop] at hsame
    exact absurd hsame (by simp)
  · have hbb : b = b' := by
      rw [hop] at hb'
      simpa using hb'
    subst hbb
    have herr := hfail hb
    have hfailed := advance_failed h0 hp herr
    refine ⟨herr, fun t ht => ⟨(reachable_of_failed hfailed ht).1, ?_⟩⟩
    rw [reachable_of_failed_log hfailed ht, hop]

end Discipline

/-- The discipline an OEM session keeps on the lines of its port, seen from a state `s` of a run
and the tick it takes from there. -/
structure PortDiscipline (s : Session LoggedPort) : Prop where
  /-- The port is opened at 115200 baud, at 9600 if command mode failed there, at 38400 for the
  bootloader and at 9600 for the new firmware, in that order. -/
  opensPlan : opens s.target.port.log <+: [115200, 9600, 38400, 9600] ∨
    opens s.target.port.log <+: [115200, 38400, 9600]
  /-- The fallback to 9600 baud is opened by a tick at Reset, the first attempt having left the
  module idle. -/
  fallback : opens s.target.port.log = [115200] →
    opens (advance s).target.port.log = [115200, 9600] →
    s.phase = .oem .reset ∧ s.target.mode = .idle
  /-- An attempt at 9600 baud that finds the module idle ends the session with a timeout. -/
  secondIdle : s.phase = .oem .cmdPending → opens s.target.port.log = [115200, 9600] →
    (Target.tick.run s.target).1 = .ok .idle →
    (tick.run s).1 = .error (.timeout "module did not enter command mode") ∧
      (advance s).phase = .oem .failure
  /-- The break is set at most once, right after RTS is dropped, once `ATFR` has its answer. -/
  breakOnce : s.target.port.log.count (.setBreak true) ≤ 1
  breakAfterFr : ∀ pre, callsBefore (.setBreak true) s.target.port.log = some pre →
    pre.getLast? = some (.setRts false) ∧ (replyTo [70, 82] pre).isSome
  /-- The break is released before the port is opened at 38400 baud. -/
  releaseFirst : ∀ pre, callsBefore (.reopen 38400) s.target.port.log = some pre →
    .setBreak true ∈ s.target.port.log → .setBreak false ∈ pre
  /-- If this tick sets the break, the tick that releases it comes 400 ms later at the earliest. -/
  breakHeld : .setBreak true ∉ s.target.port.log → .setBreak true ∈ (advance s).target.port.log →
    ∀ t, Reachable (advance s) t → .setBreak false ∉ t.target.port.log →
      .setBreak false ∈ (advance t).target.port.log →
      (Deadline.arm s.target.port.now 400).elapsed t.target.port.now = true
  /-- The reset line is pulsed at most once: right before the reopen at 9600 baud, the last
  control call, and at the zero length word that ends the image. -/
  pulseOnce : s.target.port.log.count (.setReset true) ≤ 1
  pulseLast : ∀ pre, callsBefore (.setReset true) s.target.port.log = some pre →
    ∃ rest, s.target.port.log = pre ++ [.setReset true, .setReset false, .reopen 9600] ++ rest ∧
      controls rest = []
  pulseAtEnd : .setReset true ∈ s.target.port.log →
    wordAt s.source.data (UInt32.ofNat s.progress.blockOffset).toNat = 0
  /-- A tick that opens at a failing rate fails with that open's error, and ends the session with
  that rate the last it opened. -/
  failedOpen : ∀ b ∈ s.target.port.failBauds,
    opens (advance s).target.port.log = opens s.target.port.log ++ [b] →
    (tick.run s).1 = .error (.io s!"cannot open at {b}") ∧
      ∀ t, Reachable (advance s) t →
        t.phase = .oem .failure ∧ opens t.target.port.log = opens s.target.port.log ++ [b]

/-- Every state of an OEM run keeps the port discipline, whatever the image, the module's answers,
the clock and the failing rates. -/
theorem reachable_port_discipline {s₀ s : Session LoggedPort} (h0 : s₀.phase = .oem .init)
    (hlog : s₀.target.port.log = []) (h : Reachable s₀ s) : PortDiscipline s := by
  have hoem : ∃ st, s₀.phase = .oem st := ⟨_, h0⟩
  have hp := reachable_planned h0 hlog h
  have hcl := hp.2.2.1
  obtain ⟨f, b, hplan⟩ := hcl.plan
  have hcount := controlPlan_count_le f b
  exact {
    opensPlan := opens_of_plan hplan
    fallback := fallback_of_tickPort (tick_port hoem hp)
    secondIdle := second_idle_fails hp
    breakOnce := Nat.le_trans (count_le_plan rfl hplan) hcount.1
    breakAfterFr := hcl.brk
    releaseFirst := fun _ hpre hbrk => release_before_bootloader hplan hpre hbrk
    breakHeld := fun hn hy _ ht => break_held_long_enough hoem hp hn hy ht
    pulseOnce := Nat.le_trans (count_le_plan rfl hplan) hcount.2
    pulseLast := hcl.pulse
    pulseAtEnd := fun hy => hp.1.data ▸ hcl.terminator hy
    failedOpen := fun _ hb => failed_open_final hoem hp hb }

/-- The discipline holds along the runs of the one-pair image. -/
theorem onePair_port_discipline :
    onePairSession.phase = .oem .init ∧ onePairSession.target.port.log = [] ∧
      ∀ s, Reachable onePairSession s → PortDiscipline s :=
  ⟨rfl, rfl, fun _ h => reachable_port_discipline rfl rfl h⟩

end Session

end RadioFlash
