import RadioFlash.Proofs.SessionRuns
/-!
# The steps of command mode on a logged link

Each operation of a `Target` on a logged link, and each command-mode step of the OEM procedure, is
computed here once, as an equation for its run from any state or, where the link's answers
decide the outcome, as an inversion that says everything the run can do. A tick of command mode
makes at most the escape and its flush, or a poll for the `OK` and its read (`Target.tick_calls`).
Collecting a response reads one byte at a time and stores each byte before the carriage return
after those already in the buffer (`Target.readResponse_run_eq`), so the response a step checks
is the line the module sent.
-/

namespace RadioFlash

/-- Storing a byte at the cursor extends the buffer's contents up to the cursor by that byte. -/
private theorem extract_setIfInBounds_succ {a : Array UInt8} {c : Nat} (x : UInt8) (hc : c < a.size) :
    ((a.setIfInBounds c x).extract 0 (c + 1)).toList = (a.extract 0 c).toList ++ [x] := by
  simp only [Array.toList_extract, Array.toList_setIfInBounds, List.extract_eq_take_drop,
    List.drop_zero, Nat.sub_zero]
  rw [List.take_set, List.take_add_one, List.set_append]
  have hmin : min c a.size = c := Nat.min_eq_left (Nat.le_of_lt hc)
  simp [hmin, Array.getElem?_eq_getElem hc]

namespace Target

variable (t : Target LoggedPort)

/-- A target's note on a logged link changes nothing. -/
@[simp] theorem say_run (level : Level) (text : String) :
    (Target.say level text : Action (Target LoggedPort) Unit).run t = (.ok (), t) := rfl

/-- Changing mode restarts the mode timer at the link's clock. -/
@[simp] theorem enterMode_run (m : Mode) :
    (enterMode m : Action (Target LoggedPort) Unit).run t =
      (.ok (), { t with mode := m, modeTimer := t.port.now }) := by
  simp [enterMode, Action.run_bind, Target.now]

/-- The calls of a request the transmitter has room for: the room asked, then `AT`, the command
and the carriage return, of each as much as the link takes. -/
def requestCalls (port : LoggedPort) (cmd : List UInt8) : List PortCall :=
  [.txFree port.txCapacity, .write [65, 84] (LoggedPort.taken port.writeChunk 2),
    .write cmd (LoggedPort.taken port.writeChunk cmd.length),
    .write [13] (LoggedPort.taken port.writeChunk 1)]

/-- Sending a request writes it with its carriage return and waits for the response. -/
theorem sendRequest_run (cmd : List UInt8) :
    (sendRequest cmd).run t =
      let port := t.port
      if port.txCapacity < cmd.length + 3 then
        (.error (.resourceExhausted
          s!"no room for AT{Text.utf8Lossy cmd} ({cmd.length + 3} bytes)"),
          { t with port := { port with log := port.log ++ [.txFree port.txCapacity] } })
      else
        (.ok (), { t with
          port := { port with log := port.log ++ requestCalls port cmd },
          mode := .waitResponse, modeTimer := port.now }) := by
  by_cases h : t.port.txCapacity < cmd.length + 3
  · simp [sendRequest, Action.run_bind, onPort, h]
  · simp [sendRequest, Action.run_bind, onPort, h, requestCalls]

/-- Resetting the module pulses the reset line and forgets the mode. -/
theorem resetModule_run :
    resetModule.run t =
      (.ok (), { t with
        port := { t.port with log := t.port.log ++ [.setReset true, .setReset false] },
        mode := .unknown, modeTimer := t.port.now }) := by
  simp [resetModule, SerialLink.pulseReset, onPort, Target.now, Action.run_bind]

/-- A command-mode tick, mode by mode. -/
theorem tick_run :
    tick.run t =
      let now := t.port.now
      match t.mode with
      | .preEscape =>
        if t.waited now t.config.guardWindow then
          let e := t.config.escapeChar
          let k := LoggedPort.taken t.port.writeChunk 3
          let port := { t.port with log := t.port.log ++ [.write [e, e, e] k] }
          if k < 3 then
            (.error (.resourceExhausted "escape sequence did not fit the transmit buffer"),
              { t with port })
          else
            (.ok .postEscape, { t with
              port := { port with rx := {}, log := port.log ++ [.flushRx] },
              mode := .postEscape, modeTimer := now })
        else (.ok .preEscape, t)
      | .postEscape =>
        let n := t.port.rx.size
        let port := { t.port with log := t.port.log ++ [.rxAvailable n] }
        if n ≥ 3 then
          let reply := (t.port.rx.take 3).1
          let next := if reply = [79, 75, 13] then Mode.command else Mode.idle
          (.ok next, { t with
            port := { port with rx := (t.port.rx.take 3).2, log := port.log ++ [.read 3 reply] },
            mode := next, modeTimer := now })
        else if t.waited now t.config.guardWindow then
          (.ok .idle, { t with port, mode := .idle, modeTimer := now })
        else (.ok .postEscape, { t with port })
      | .waitResponse =>
        if t.waited now responseTimeoutMs then (.ok .command, { t with mode := .command })
        else (.ok .waitResponse, t)
      | .waitIdle =>
        if t.waited now responseTimeoutMs then (.ok .idle, { t with mode := .idle })
        else (.ok .waitIdle, t)
      | .command =>
        if t.waited now t.config.idleWindow then (.ok .idle, { t with mode := .idle })
        else (.ok .command, t)
      | .unknown => (.ok .unknown, t)
      | .idle => (.ok .idle, t) := by
  rcases t with ⟨port, config, mode, modeTimer⟩
  cases mode with
  | preEscape =>
    by_cases hw : (Deadline.arm modeTimer config.guardWindow).elapsed port.now = true
    · by_cases hk : LoggedPort.taken port.writeChunk 3 < 3
      · simp [tick, Action.run_bind, onPort, waited, hw, hk]
      · simp [tick, Action.run_bind, onPort, waited, hw, hk]
    · simp [tick, Action.run_bind, onPort, waited, hw]
  | postEscape =>
    by_cases hn : 3 ≤ port.rx.size
    · by_cases hr : (port.rx.take 3).1 = [79, 75, 13]
      · simp [tick, Action.run_bind, onPort, waited, hn, hr]
      · simp [tick, Action.run_bind, onPort, waited, hn, hr]
    · by_cases hw : (Deadline.arm modeTimer config.guardWindow).elapsed port.now = true
      · simp [tick, Action.run_bind, onPort, waited, hn, hw]
      · simp [tick, Action.run_bind, onPort, waited, hn, hw]
  | waitResponse =>
    by_cases hw : (Deadline.arm modeTimer responseTimeoutMs).elapsed port.now = true
    · simp [tick, Action.run_bind, waited, hw]
    · simp [tick, Action.run_bind, waited, hw]
  | waitIdle =>
    by_cases hw : (Deadline.arm modeTimer responseTimeoutMs).elapsed port.now = true
    · simp [tick, Action.run_bind, waited, hw]
    · simp [tick, Action.run_bind, waited, hw]
  | command =>
    by_cases hw : (Deadline.arm modeTimer config.idleWindow).elapsed port.now = true
    · simp [tick, Action.run_bind, waited, hw]
    · simp [tick, Action.run_bind, waited, hw]
  | unknown => simp [tick, Action.run_bind]
  | idle => simp [tick, Action.run_bind]

/-- The calls one tick of command mode makes: the escape and, once it went out whole, the flush
after it; or a poll for the `OK` and its read. -/
inductive TickCalls (e : UInt8) : List PortCall → Prop
  | none : TickCalls e []
  | escape (k : Nat) : TickCalls e [.write [e, e, e] k]
  | escaped (k : Nat) : TickCalls e [.write [e, e, e] k, .flushRx]
  | polled (n : Nat) : TickCalls e [.rxAvailable n]
  | answered (n : Nat) (reply : List UInt8) : TickCalls e [.rxAvailable n, .read 3 reply]

/-- A tick of command mode changes only the link's log and received bytes, and the mode. -/
theorem tick_calls {t' : Target LoggedPort} {r : Except Error Mode} (h : tick.run t = (r, t')) :
    ∃ calls, TickCalls t.config.escapeChar calls ∧
      t' = { t with
        port := { t.port with rx := t'.port.rx, log := t.port.log ++ calls }
        mode := t'.mode
        modeTimer := t'.modeTimer } := by
  rw [tick_run] at h
  rcases t with ⟨port, config, mode, modeTimer⟩
  cases mode with
  | preEscape =>
    simp only at h
    split at h
    · split at h
      · obtain ⟨-, rfl⟩ := Prod.mk.inj h
        exact ⟨_, .escape _, rfl⟩
      · obtain ⟨-, rfl⟩ := Prod.mk.inj h
        exact ⟨_, .escaped (LoggedPort.taken port.writeChunk 3), by simp⟩
    · obtain ⟨-, rfl⟩ := Prod.mk.inj h
      exact ⟨[], .none, by simp⟩
  | postEscape =>
    simp only at h
    split at h
    · obtain ⟨-, rfl⟩ := Prod.mk.inj h
      exact ⟨_, .answered port.rx.size (port.rx.take 3).1, by simp⟩
    · split at h <;> obtain ⟨-, rfl⟩ := Prod.mk.inj h <;> exact ⟨_, .polled _, rfl⟩
  | waitResponse | waitIdle | command =>
    simp only at h
    split at h <;> obtain ⟨-, rfl⟩ := Prod.mk.inj h <;> exact ⟨[], .none, by simp⟩
  | unknown | idle =>
    obtain ⟨-, rfl⟩ := Prod.mk.inj h
    exact ⟨[], .none, by simp⟩

/-- Asking for command mode ticks, then arms the escape from Unknown or Idle. -/
theorem enter_run :
    enter.run t =
      match tick.run t with
      | (.ok m, t') =>
        (.ok (), if m = .unknown ∨ m = .idle then { t' with mode := .preEscape, modeTimer := t'.port.now }
          else t')
      | (.error e, t') => (.error e, t') := by
  simp only [enter, Action.run_bind]
  rcases tick.run t with ⟨_ | m, t'⟩
  · rfl
  · cases m <;> simp [Action.run_bind]

/-- Leaving command mode ticks, then leaves the mode the tick reported. -/
theorem exit_run :
    exit.run t =
      match tick.run t with
      | (.ok .preEscape, t') => (.ok (), { t' with mode := .idle, modeTimer := t'.port.now })
      | (.ok .postEscape, t') => (.error .busy, t')
      | (.ok .waitResponse, t') => (.error .busy, t')
      | (.ok .command, t') =>
        match (sendRequest [67, 78]).run t' with
        | (.ok (), t'') => (.ok (), { t'' with mode := .waitIdle })
        | (.error e, t'') => (.error e, t'')
      | (.ok _, t') => (.ok (), t')
      | (.error e, t') => (.error e, t') := by
  simp only [exit, Action.run_bind]
  rcases tick.run t with ⟨_ | m, t'⟩
  · rfl
  · cases m <;> simp [Action.run_bind]
    rcases (sendRequest [67, 78]).run t' with ⟨_ | _, t''⟩ <;> rfl

/-- Command mode fails only for a transmitter too full for the escape. -/
theorem tick_error {e : Error} {t' : Target LoggedPort} (h : tick.run t = (.error e, t')) :
    ∀ d, e ≠ .validation d := by
  rw [tick_run] at h
  rcases t with ⟨port, config, mode, modeTimer⟩
  intro d
  cases mode <;> simp only at h <;> (repeat' split at h) <;>
    simp only [Prod.mk.injEq, reduceCtorEq, Except.error.injEq, false_and] at h
  obtain ⟨rfl, -⟩ := h
  simp

/-- Entering command mode makes the calls of one tick of it. -/
theorem enter_calls {r : Except Error Unit} {t' : Target LoggedPort} (h : enter.run t = (r, t')) :
    ∃ calls, TickCalls t.config.escapeChar calls ∧ t'.port.log = t.port.log ++ calls ∧
      ∀ e, r = .error e → ∀ d, e ≠ .validation d := by
  rw [enter_run] at h
  rcases ht : tick.run t with ⟨_ | m, t₁⟩ <;> rw [ht] at h
  · obtain ⟨calls, hcalls, h₁⟩ := tick_calls t ht
    obtain ⟨rfl, rfl⟩ := Prod.mk.inj h
    exact ⟨calls, hcalls, by rw [h₁], fun e he => by cases he; exact tick_error t ht⟩
  · obtain ⟨calls, hcalls, h₁⟩ := tick_calls t ht
    obtain ⟨rfl, rfl⟩ := Prod.mk.inj h
    refine ⟨calls, hcalls, ?_, fun e he => by cases he⟩
    split <;> rw [h₁]

/-- Leaving command mode makes the calls of one tick of it, then at most an `ATCN` request. Only a
module in command mode is sent `ATCN`. -/
theorem exit_calls {r : Except Error Unit} {t' : Target LoggedPort} (h : exit.run t = (r, t')) :
    ∃ calls rest, TickCalls t.config.escapeChar calls ∧
      (rest = [] ∨ (∃ n, rest = [.txFree n]) ∨ ∃ port, rest = requestCalls port [67, 78]) ∧
      t'.port.log = t.port.log ++ calls ++ rest ∧ ∀ e, r = .error e → ∀ d, e ≠ .validation d := by
  rw [exit_run] at h
  rcases ht : tick.run t with ⟨_ | m, t₁⟩ <;> rw [ht] at h
  · obtain ⟨calls, hcalls, h₁⟩ := tick_calls t ht
    obtain ⟨rfl, rfl⟩ := Prod.mk.inj h
    exact ⟨calls, [], hcalls, .inl rfl, by rw [h₁]; simp, fun e he => by cases he; exact tick_error t ht⟩
  obtain ⟨calls, hcalls, h₁⟩ := tick_calls t ht
  cases m
  case command =>
    dsimp only at h
    rcases hs : (sendRequest [67, 78]).run t₁ with ⟨_ | _, t₂⟩ <;> rw [hs] at h <;> dsimp only at h <;>
      obtain ⟨rfl, rfl⟩ := Prod.mk.inj h <;> rw [sendRequest_run] at hs <;> dsimp only at hs <;>
      split at hs <;> obtain ⟨he, rfl⟩ := Prod.mk.inj hs
    · refine ⟨calls, [.txFree t₁.port.txCapacity], hcalls, .inr (.inl ⟨_, rfl⟩), by rw [h₁], ?_⟩
      intro e he' d
      cases he'
      cases he
      simp
    · cases he
    · cases he
    · exact ⟨calls, requestCalls t₁.port [67, 78], hcalls, .inr (.inr ⟨_, rfl⟩), by rw [h₁],
        fun e he => by cases he⟩
  all_goals
    simp only at h
    obtain ⟨rfl, rfl⟩ := Prod.mk.inj h
  case preEscape => exact ⟨calls, [], hcalls, .inl rfl, by rw [h₁]; simp, fun e he => by cases he⟩
  all_goals first
    | exact ⟨calls, [], hcalls, .inl rfl, by rw [h₁]; simp, fun e he d => by cases he; simp⟩
    | exact ⟨calls, [], hcalls, .inl rfl, by rw [h₁]; simp, fun e he => by cases he⟩

/-- The calls that read `stored` one byte at a time. -/
def readsOf (stored : List UInt8) : List PortCall := stored.map fun x => .read 1 [x]

/-- Reading bytes one at a time, then the last read of a line scan, makes reads only. -/
theorem readsOf_append_reads (stored : List UInt8) {tail : List PortCall}
    (htail : tail = [.read 1 [13]] ∨ tail = [.read 1 []] ∨ tail = []) :
    ∀ c ∈ readsOf stored ++ tail, ∃ n got, c = .read n got := by
  intro c hc
  rcases List.mem_append.mp hc with h | h
  · simp only [readsOf, List.mem_map] at h
    obtain ⟨x, -, rfl⟩ := h
    exact ⟨_, _, rfl⟩
  · rcases htail with rfl | rfl | rfl <;> simp at h <;> exact ⟨_, _, h⟩

/-- How a line scan can end: the carriage return read, nothing more to read (or no fuel left),
or a full buffer. -/
inductive ScanEnd : Except Error LineScan → Nat → List PortCall → Prop where
  | ended (c : Nat) : ScanEnd (.ok (.ended c)) c [.read 1 [13]]
  | waiting (c : Nat) (tail : List PortCall) (h : tail = [.read 1 []] ∨ tail = []) :
      ScanEnd (.ok .waiting) c tail
  | timedOut (c : Nat) : ScanEnd (.ok .timedOut) c [.read 1 []]
  | full (c : Nat) : ScanEnd (.error .insufficientSpace) c []

/-- A line scan moves the received bytes before the carriage return into the buffer at its
cursor, reading them one at a time, and touches nothing else of the target. -/
theorem scanLine_run_eq {fuel : Nat} {t t' : Target LoggedPort} {b b' : LineBuffer}
    {r : Except Error LineScan} (hc : b.cursor ≤ b.bytes.size)
    (h : (scanLine fuel).run (t, b) = (r, (t', b'))) :
    ∃ (stored : List UInt8) (tail : List PortCall),
      13 ∉ stored ∧ b'.bytes.size = b.bytes.size ∧ b'.cursor = b.cursor + stored.length ∧
      b'.cursor ≤ b'.bytes.size ∧
      (b'.bytes.extract 0 b'.cursor).toList = (b.bytes.extract 0 b.cursor).toList ++ stored ∧
      t' = { t with port := { t.port with
        rx := t'.port.rx, log := t.port.log ++ readsOf stored ++ tail } } ∧
      ScanEnd r b'.cursor tail := by
  induction fuel generalizing t b with
  | zero =>
    simp only [scanLine, Action.run_pure, Prod.mk.injEq] at h
    obtain ⟨rfl, rfl, rfl⟩ := h
    exact ⟨[], [], by simp, rfl, by simp, hc, by simp, by simp [readsOf], .waiting _ _ (.inr rfl)⟩
  | succ fuel ih =>
    by_cases hfull : b.cursor ≥ b.bytes.size
    · simp only [scanLine, Action.run_bind, Action.run_get, if_pos hfull, Action.run_throw,
        Prod.mk.injEq] at h
      obtain ⟨rfl, rfl, rfl⟩ := h
      exact ⟨[], [], by simp, rfl, by simp, hc, by simp, by simp [readsOf], .full _⟩
    simp only [scanLine, Action.run_bind, Action.run_get, if_neg hfull, withLine, onPort,
      Action.run_focus, SerialLink.readByte, LoggedPort.read_run, Action.run_pure] at h
    have hroom : b.cursor < b.bytes.size := by omega
    rcases ByteQueue.take_one_cases t.port.rx with hg | ⟨x, hg⟩
    · -- nothing arrived: the scan waits, or gives up after the response time
      simp only [hg, List.head?_nil, Action.run_bind, Action.run_get] at h
      refine ⟨[], [.read 1 []], by simp, ?_⟩
      split at h
      · simp only [Action.run_pure, Prod.mk.injEq] at h
        obtain ⟨rfl, rfl, rfl⟩ := h
        exact ⟨rfl, by simp, hc, by simp, by simp [readsOf], .timedOut _⟩
      · simp only [Action.run_pure, Prod.mk.injEq] at h
        obtain ⟨rfl, rfl, rfl⟩ := h
        exact ⟨rfl, by simp, hc, by simp, by simp [readsOf], .waiting _ _ (.inl rfl)⟩
    by_cases hx : x = 13
    · -- the carriage return ends the line
      subst hx
      simp only [hg, List.head?_cons, Action.run_pure, Prod.mk.injEq] at h
      obtain ⟨rfl, rfl, rfl⟩ := h
      exact ⟨[], [.read 1 [13]], by simp, rfl, by simp, hc, by simp, by simp [readsOf], .ended _⟩
    · -- a byte of the line is stored and the scan goes on
      simp only [hg, List.head?_cons, Action.run_bind, Action.run_modify] at h
      obtain ⟨stored, tail, hcr, hsize, hcur, hle, hext, ht', hend⟩ :=
        ih (by simp only [Array.size_setIfInBounds]; omega) h
      refine ⟨x :: stored, tail, by simp [Ne.symm hx, hcr], by simpa using hsize, by simp [hcur]; omega,
        hle, ?_, ?_, hend⟩
      · rw [hext, extract_setIfInBounds_succ x hroom, List.append_assoc]
        rfl
      · rw [ht']
        simp [readsOf]

/-- How collecting a response can end: with its line, still waiting, or failed. A line is known
by its carriage return; a wait has read nothing more (or was not given the chance). -/
inductive LineEnd : Except Error (Option Nat) → Nat → List PortCall → Prop
  | line (c : Nat) : LineEnd (.ok (some c)) c [.read 1 [13]]
  | pending (c : Nat) (tail : List PortCall) (h : tail = [.read 1 []] ∨ tail = []) :
      LineEnd (.ok none) c tail
  | failed (e : Error) (c : Nat) (tail : List PortCall) (h : tail = [.read 1 []] ∨ tail = [])
      (he : ∀ d, e ≠ .validation d) : LineEnd (.error e) c tail

/-- Collecting a response stores the bytes read before the carriage return after those already
in the buffer, and changes nothing of the target but its link's log and received bytes and its
mode. The scan's end decides the answer; only a line or a timeout changes the mode. -/
theorem readResponse_run_eq {t' : Target LoggedPort} {b b' : LineBuffer}
    {r : Except Error (Option Nat)} (hc : b.cursor ≤ b.bytes.size)
    (h : readResponse.run (t, b) = (r, (t', b'))) :
    ∃ (stored : List UInt8) (tail : List PortCall),
      13 ∉ stored ∧ b'.bytes.size = b.bytes.size ∧ b'.cursor = b.cursor + stored.length ∧
      b'.cursor ≤ b'.bytes.size ∧
      (b'.bytes.extract 0 b'.cursor).toList = (b.bytes.extract 0 b.cursor).toList ++ stored ∧
      t' = { t with
        port := { t.port with rx := t'.port.rx, log := t.port.log ++ readsOf stored ++ tail }
        mode := t'.mode } ∧
      LineEnd r b'.cursor tail := by
  by_cases hm : t.mode = .waitIdle ∨ t.mode = .waitResponse
  · simp only [readResponse, Action.run_bind, Action.run_get, hm, ↓reduceIte] at h
    rcases hs : (scanLine (b.bytes.size - b.cursor + 1)).run (t, b) with ⟨rs, t₁, b₁⟩
    obtain ⟨stored, tail, hcr, hsize, hcur, hle, hext, ht₁, hend⟩ := scanLine_run_eq hc hs
    rw [hs] at h
    refine ⟨stored, tail, hcr, ?_⟩
    cases hend with
    | ended c =>
      simp only [Action.run_bind, Action.run_modify, withLine, Action.run_focus, say_run,
        Action.run_get, Action.run_pure, Prod.mk.injEq] at h
      obtain ⟨rfl, rfl, rfl⟩ := h
      exact ⟨hsize, hcur, hle, hext, by rw [ht₁], .line _⟩
    | waiting c tail htail =>
      simp only [Action.run_pure, Prod.mk.injEq] at h
      obtain ⟨rfl, rfl, rfl⟩ := h
      exact ⟨hsize, hcur, hle, hext, by rw [ht₁], .pending _ _ htail⟩
    | timedOut c =>
      simp only [Action.run_bind, Action.run_modify, withLine, Action.run_focus, say_run,
        Action.run_throw, Prod.mk.injEq] at h
      obtain ⟨rfl, rfl, rfl⟩ := h
      exact ⟨hsize, hcur, hle, hext, by rw [ht₁], .failed _ _ _ (.inl rfl) (fun _ => by simp)⟩
    | full c =>
      simp only [Prod.mk.injEq] at h
      obtain ⟨rfl, rfl, rfl⟩ := h
      exact ⟨hsize, hcur, hle, hext, by rw [ht₁], .failed _ _ _ (.inr rfl) (fun _ => by simp)⟩
  · -- outside a wait for a response nothing is read
    simp only [readResponse, Action.run_bind, Action.run_get, hm, ↓reduceIte] at h
    simp only [Action.run_throw, Prod.mk.injEq] at h
    obtain ⟨rfl, rfl, rfl⟩ := h
    exact ⟨[], [], by simp, rfl, by simp, hc, by simp, by simp [readsOf], .failed _ _ _ (.inr rfl) (fun _ => by simp)⟩

end Target

namespace Session

variable (s : Session LoggedPort)

/-- A request clears the response buffer and, once `AT`, the command and the carriage return are
out, waits for the response before going on with `next`. -/
theorem request_run (cmd : List UInt8) (next : OemState) :
    (request cmd next).run s =
      let port := s.target.port
      if port.txCapacity < cmd.length + 3 then
        (.error (.resourceExhausted
          s!"no room for AT{Text.utf8Lossy cmd} ({cmd.length + 3} bytes)"),
          { s with
            responseLen := 0,
            target := { s.target with port := { port with log := port.log ++ [.txFree port.txCapacity] } } })
      else
        (.ok .pause, { s with
          responseLen := 0, nextState := next, phase := .oem .parseResponse,
          target := { s.target with
            port := { port with log := port.log ++ Target.requestCalls port cmd },
            mode := .waitResponse, modeTimer := port.now } }) := by
  by_cases h : s.target.port.txCapacity < cmd.length + 3
  · simp [request, Action.run_bind, Target.sendRequest_run, h]
  · simp [request, Action.run_bind, Target.sendRequest_run, h]

/-- Init validates the image and counts its chain on the session's source and scratch buffer. -/
theorem init_run :
    (stepOem .init).run s =
      match verify.run (s.source, s.scratch) with
      | (.ok hdr, p) =>
        match (countBlocks hdr).run p.1 with
        | (.ok _, src) => (.ok .pause, { s with source := src, scratch := p.2, tries := 0, phase := .oem .reset })
        | (.error e, src) => (.error e, { s with source := src, scratch := p.2 })
      | (.error e, p) => (.error e, { s with source := p.1, scratch := p.2 }) := by
  simp only [stepOem, Action.run_bind, Action.run_focus]
  rcases verify.run (s.source, s.scratch) with ⟨_ | hdr, p⟩
  · rfl
  · simp only [onSource_run]
    rcases (countBlocks hdr).run p.1 with ⟨_ | c, src⟩
    · rfl
    · simp

/-- Reset reopens at 115200 baud, or at 9600 once that failed, and starts entering command mode. -/
theorem reset_run :
    (stepOem .reset).run s =
      let baud : UInt32 := if s.tries > 0 then 9600 else 115200
      let port := s.target.port
      if baud ∈ port.failBauds then
        (.error (.io s!"cannot open at {baud}"),
          { s with target := { s.target with port := { port with log := port.log ++ [.reopen baud] } } })
      else
        match Target.enter.run { s.target with
            port := { port with baud, log := port.log ++ [.reopen baud, .flowControl true] } } with
        | (.ok (), t) => (.ok .pause, { s with target := t, phase := .oem .cmdPending })
        | (.error e, t) => (.error e, { s with target := t }) := by
  by_cases hf : (if s.tries > 0 then (9600 : UInt32) else 115200) ∈ s.target.port.failBauds
  · simp only [stepOem, Action.run_bind, Action.run_get, say_run, onPort_run, LoggedPort.reopen_run,
      if_pos hf]
  · simp only [stepOem, Action.run_bind, Action.run_get, say_run, onPort_run, LoggedPort.reopen_run,
      if_neg hf, LoggedPort.setFlowControl_run, onTarget_run, List.append_assoc, List.cons_append,
      List.nil_append]
    rcases Target.enter.run _ with ⟨_ | _, t⟩
    · rfl
    · simp

/-- While command mode is being entered: once in, ask for the hardware version; a module that
stays idle at 115200 baud is tried once more at 9600. -/
theorem cmdPending_run :
    (stepOem .cmdPending).run s =
      match Target.tick.run s.target with
      | (.ok .command, t) => (request [72, 86] .cmdHv).run { s with target := t }
      | (.ok .idle, t) =>
        if s.tries = 0 then (.ok .pause, { s with target := t, tries := 1, phase := .oem .reset })
        else (.error (.timeout "module did not enter command mode"), { s with target := t })
      | (.ok _, t) => (.ok .pause, { s with target := t })
      | (.error e, t) => (.error e, { s with target := t }) := by
  simp only [stepOem, Action.run_bind, onTarget_run]
  rcases Target.tick.run s.target with ⟨_ | m, t⟩
  · rfl
  · cases m with
    | idle =>
      by_cases h0 : s.tries = 0
      · simp [Action.run_bind, h0]
      · simp [Action.run_bind, h0]
    | _ => rfl

/-- Waiting for a response: its bytes are stored after those already in the scratch buffer, and
the carriage return moves on to the step the request named. -/
theorem parseResponse_run_eq {s' : Session LoggedPort} {r : Except Error Step}
    (hc : s.responseLen ≤ s.scratch.size) (h : (stepOem .parseResponse).run s = (r, s')) :
    ∃ (stored : List UInt8) (tail : List PortCall),
      13 ∉ stored ∧ s'.scratch.size = s.scratch.size ∧ s'.responseLen ≤ s'.scratch.size ∧
      s'.response = s.response ++ stored ∧
      s' = { s with
        target := { s.target with
          port := { s.target.port with
            rx := s'.target.port.rx, log := s.target.port.log ++ Target.readsOf stored ++ tail }
          mode := s'.target.mode }
        scratch := s'.scratch, responseLen := s'.responseLen, phase := s'.phase } ∧
      (r = .ok .goOn ∧ tail = [.read 1 [13]] ∧ s'.phase = .oem s.nextState ∨
        r = .ok .pause ∧ (tail = [.read 1 []] ∨ tail = []) ∧ s'.phase = s.phase ∨
        (∃ e, r = .error e ∧ ∀ d, e ≠ .validation d) ∧ (tail = [.read 1 []] ∨ tail = []) ∧
          s'.phase = s.phase) := by
  simp only [stepOem, collectResponse, Action.run_bind, Action.run_focus] at h
  rcases hr : Target.readResponse.run (s.target, ({ bytes := s.scratch, cursor := s.responseLen } : LineBuffer))
    with ⟨rr, t, b⟩
  obtain ⟨stored, tail, hcr, hsize, hcur, hle, hext, ht, hend⟩ := Target.readResponse_run_eq s.target hc hr
  rw [hr] at h
  refine ⟨stored, tail, hcr, ?_⟩
  cases hend with
  | line c =>
    simp only [Action.run_bind, Action.run_modify, Action.run_get, gotoOem_run, Action.run_pure,
      Prod.mk.injEq] at h
    obtain ⟨rfl, rfl⟩ := h
    refine ⟨hsize, hle, hext, ?_, .inl ⟨rfl, rfl, rfl⟩⟩
    rw [ht]
  | pending c tail htail =>
    simp only [Action.run_pure, Prod.mk.injEq] at h
    obtain ⟨rfl, rfl⟩ := h
    refine ⟨hsize, ?_, ?_, ?_, .inr (.inl ⟨rfl, htail, rfl⟩)⟩
    · simpa [hcur] using hle
    · simpa [response, hcur] using hext
    · rw [ht]
  | failed e c tail htail he =>
    simp only [Prod.mk.injEq] at h
    obtain ⟨rfl, rfl⟩ := h
    refine ⟨hsize, ?_, ?_, ?_, .inr (.inr ⟨⟨e, rfl, he⟩, htail, rfl⟩)⟩
    · simpa [hcur] using hle
    · simpa [response, hcur] using hext
    · rw [ht]

section Checks

open Source

variable {s} (hy : s.source.readLimit ≠ some 0)
include hy

/-- The hardware version must name the image's module id (image offset 10) in its upper byte. -/
theorem cmdHv_run (h16 : 16 ≤ s.source.data.size) :
    (stepOem .cmdHv).run s =
      let hv := hexWord s.response
      let id := s.source.data.getD 10 0
      let s₁ := { s with source := { s.source with pos := 11 } }
      if (hv >>> 8).toUInt8 ≠ id then
        (.error (.incompatibleHardware
          s!"module reports hardware 0x{Text.hexUpper 4 hv.toNat}, image is for 0x{Text.hexUpper 2 id.toNat}xx"),
          s₁)
      else (request [37, 67] .cmdCompat).run s₁ := by
  simp only [stepOem, Action.run_bind, Action.run_get, imageByte, onSource_run,
    seek_readU8_run hy (show 10 + 1 ≤ s.source.data.size by omega) (by decide)]
  by_cases hc : (hexWord s.response >>> 8).toUInt8 ≠ s.source.data.getD 10 0
  · rw [if_pos hc, if_pos hc]
    rfl
  · rw [if_neg hc, if_neg hc]

/-- The compatibility level must equal the image's (offset 11), unless the module answers
`ERROR` and has none. -/
theorem cmdCompat_run (h16 : 16 ≤ s.source.data.size) :
    (stepOem .cmdCompat).run s =
      if s.response = [69, 82, 82, 79, 82] then (request [86, 82] .cmdVr).run s
      else
        let level := hexWord s.response
        let wanted := s.source.data.getD 11 0
        let s₁ := { s with source := { s.source with pos := 12 } }
        if level ≠ wanted.toUInt16 then
          (.error (.incompatibleHardware
            s!"module compatibility level {level.toNat}, image needs {wanted.toNat}"), s₁)
        else (request [86, 82] .cmdVr).run s₁ := by
  by_cases he : s.response = [69, 82, 82, 79, 82]
  · rw [if_pos he]
    simp [stepOem, Action.run_bind, he]
  rw [if_neg he]
  simp only [stepOem, Action.run_bind, Action.run_get, he, imageByte, onSource_run, ne_eq,
    not_false_eq_true, if_true,
    seek_readU8_run hy (show 11 + 1 ≤ s.source.data.size by omega) (by decide)]
  by_cases hc : hexWord s.response ≠ (s.source.data.getD 11 0).toUInt16
  · rw [if_pos hc, if_pos hc]
    rfl
  · rw [if_neg hc, if_neg hc]

/-- The version (offsets 12 to 15) decides: a module that runs it already, unless the install is
forced, leaves command mode and the install is done; otherwise the unlock starts. -/
theorem cmdVr_run (h16 : 16 ≤ s.source.data.size) :
    (stepOem .cmdVr).run s =
      let version := s.source.data.extract 12 16
      let s₁ := { s with source := { s.source with pos := 16 } }
      if s.response.take 4 = version.toList ∧ s.response.length ≥ 4 ∧ s.force = false then
        match Target.exit.run s₁.target with
        | (.ok (), t) => (.ok .goOn, { s₁ with target := t, phase := .oem .done })
        | (.error e, t) => (.error e, { s₁ with target := t })
      else (request [67, 70, 49] .cmdCf1).run s₁ := by
  have hread : (do seek 12; readFull 4).run s.source =
      (.ok (s.source.data.extract 12 (12 + 4)), { s.source with pos := 12 + 4 }) :=
    seek_readFull_run hy (show 12 + 4 ≤ s.source.data.size by omega) (by decide)
  rw [Action.run_bind] at hread
  have hresp : ∀ src : Source, ({ s with source := src } : Session LoggedPort).response = s.response :=
    fun _ => rfl
  simp only [stepOem, Action.run_bind, Action.run_get, onSource_run, hread, hresp,
    Nat.reduceAdd, Bool.not_eq_eq_eq_not, Bool.not_true]
  by_cases hv : s.response.take 4 = (s.source.data.extract 12 16).toList ∧ s.response.length ≥ 4 ∧
      s.force = false
  · rw [if_pos hv, if_pos hv]
    simp only [Action.run_bind, say_run, onTarget_run]
    rcases Target.exit.run _ with ⟨_ | _, t⟩
    · rfl
    · simp
  · rw [if_neg hv, if_neg hv]
    simp only [Action.run_bind, say_run]

end Checks

/-- After the version check comes the CF1 request. -/
theorem cmdCf1_run : (stepOem .cmdCf1).run s = (request [83, 76] .cmdSl).run s := rfl

/-- The unlock code comes from the low word of the serial number. -/
theorem cmdSl_run :
    (stepOem .cmdSl).run s = (request (unlockCommand (hexWord s.response)) .cmdProg).run s := by
  simp [stepOem, Action.run_bind]

/-- An unlock answered `OK` goes straight to the bootloader; otherwise the module is reset into it
with `ATFR`. -/
theorem cmdProg_run :
    (stepOem .cmdProg).run s =
      if s.response = [79, 75] then (.ok .goOn, { s with phase := .oem .bootloader })
      else (request [70, 82] .cmdFr).run s := by
  by_cases h : s.response = [79, 75]
  · simp [stepOem, Action.run_bind, h]
  · simp [stepOem, Action.run_bind, h]

/-- After `ATFR` the break is asserted with RTS low, and held. -/
theorem cmdFr_run :
    (stepOem .cmdFr).run s =
      (.ok .pause, { s with
        target := { s.target with
          port := { s.target.port with log := s.target.port.log ++ [.setRts false, .setBreak true] } },
        timer := s.target.port.now, phase := .oem .holdBreak }) := by
  simp [stepOem, Action.run_bind]

end Session
end RadioFlash
