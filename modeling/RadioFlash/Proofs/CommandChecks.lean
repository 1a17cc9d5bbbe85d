import RadioFlash.Proofs.ImageRefusal
/-!
# The checks before the bootloader

An OEM session flashes only a module that passed its checks in command mode. The replies the
checks read are the lines the module sent after each request, as the log shows them
(`replyTo`): the reply to `ATHV` names the image's module id (`HardwareFits`), the reply to
`AT%C` is `ERROR` or the image's compatibility level (`LevelFits`), and the install is forced or
the reply to `ATVR` does not start with the image's version (`VersionDue`).

`reachable_vetted` says of every state a session reaches from Init with an empty log, whatever
the module answers and whenever: until the session writes `CF1`, the first command of the unlock,
it has made only calls of command mode and stands at a check whose earlier checks passed; once it
has written it, Init accepted the image and all three checks passed on the replies in the log.
So the bootloader is entered only after the checks (`bootloader_entry_needs_checks`), and a module
that runs the image's version already, without force, is left as it was.
-/

namespace RadioFlash

namespace PortCall

/-- A call of command mode: an escape of the character `e`, a piece of the requests `ATHV`,
`AT%C`, `ATVR` and `ATCN`, a reopen at 115200 or 9600 baud, or a call that drives no line (a
read, a query, a flush, flow control). -/
def ofCommandMode (e : UInt8) : PortCall → Bool
  | .write bs _ => decide (bs ∈ [[e, e, e], [65, 84], [13], [72, 86], [37, 67], [86, 82], [67, 78]])
  | .reopen baud => decide (baud = 115200 ∨ baud = 9600)
  | .setBreak _ | .setRts _ | .setReset _ | .close => false
  | .read _ _ | .flowControl _ | .flushRx | .rxAvailable _ | .txFree _ => true

/-- No call of command mode writes `CF1`. -/
theorem offers_cf1_eq_false {e : UInt8} {c : PortCall} (h : c.ofCommandMode e = true) :
    c.offers [67, 70, 49] = false := by
  cases c with
  | write bs n =>
    simp only [ofCommandMode, List.mem_cons, List.not_mem_nil, or_false, decide_eq_true_eq] at h
    simp only [offers, decide_eq_false_iff_not]
    rintro rfl
    rcases h with h | h | h | h | h | h | h
    · -- an escape repeats one character, and `CF1` does not
      simp only [List.cons.injEq, and_true] at h
      exact absurd (h.1.trans h.2.1.symm) (by decide)
    all_goals simp at h
  | _ => rfl

end PortCall

namespace OemState

/-- The steps of command mode up to the version check, and the ends. -/
def checking : OemState → Bool
  | .init | .reset | .cmdPending | .parseResponse | .cmdHv | .cmdCompat | .cmdVr
  | .done | .success | .failure => true
  | _ => false

/-- The command whose reply a check reads: `HV`, `%C` or `VR`. -/
def checkCommand : OemState → Option (List UInt8)
  | .cmdHv => some [72, 86]
  | .cmdCompat => some [37, 67]
  | .cmdVr => some [86, 82]
  | _ => none

/-- The commands not yet written when a check is asked: the later checks' and `CN`. -/
def laterCommands : OemState → List (List UInt8)
  | .cmdHv => [[37, 67], [86, 82], [67, 78]]
  | .cmdCompat => [[86, 82], [67, 78]]
  | .cmdVr => [[67, 78]]
  | _ => []

/-- A check reads the reply to HV, %C or VR, and the commands still to come are two-letter ones
other than it, CN among them. -/
theorem checkCommand_spec {st : OemState} {cmd : List UInt8} (h : st.checkCommand = some cmd) :
    cmd ∈ [[72, 86], [37, 67], [86, 82]] ∧ [67, 78] ∈ st.laterCommands ∧
      ∀ c ∈ st.laterCommands, c ≠ cmd ∧ c ≠ [65, 84] ∧ c ≠ [13] ∧ c.length = 2 := by
  cases st <;> simp only [checkCommand, reduceCtorEq, Option.some.injEq] at h <;> subst h <;> decide

end OemState

namespace Session

/-! ## What the replies say -/

section Replies

variable (D : Array UInt8) (log : List PortCall)

/-- The reply to `ATHV` names the image's module id (offset 10) in its upper byte. -/
def HardwareFits : Prop :=
  ∃ hv, replyTo [72, 86] log = some hv ∧ (hexWord hv >>> 8).toUInt8 = D.getD 10 0

/-- The reply to `AT%C` is `ERROR` (a module without levels), or the image's compatibility
level (offset 11). -/
def LevelFits : Prop :=
  ∃ c, replyTo [37, 67] log = some c ∧
    (c = [69, 82, 82, 79, 82] ∨ hexWord c = (D.getD 11 0).toUInt16)

/-- The install is forced, or the reply to `ATVR` does not start with the image's version
(offsets 12 to 15). -/
def VersionDue (force : Bool) : Prop :=
  ∃ v, replyTo [86, 82] log = some v ∧ (force = true ∨ v.take 4 ≠ (D.extract 12 16).toList)

/-- The checks before the check `st` passed. -/
def Passed : OemState → Prop
  | .cmdCompat => HardwareFits D log
  | .cmdVr => HardwareFits D log ∧ LevelFits D log
  | _ => True

/-- The requests of command mode: the three checks' and `ATCN`. -/
def checkRequests : List (List UInt8) := [[72, 86], [37, 67], [86, 82], [67, 78]]

/-- None of the commands `cmds` has been written. -/
def Unasked (cmds : List (List UInt8)) : Prop :=
  ∀ cmd ∈ cmds, afterWrite cmd log = none

end Replies

section Growth

variable {D : Array UInt8} {l : List PortCall}

/-- A check passed on a log stays passed whatever the log goes on with. -/
theorem HardwareFits.append (h : HardwareFits D l) (m : List PortCall) : HardwareFits D (l ++ m) := by
  obtain ⟨hv, hr, hfit⟩ := h
  exact ⟨hv, replyTo_append hr, hfit⟩

/-- A compatibility level that fitted still fits after more calls. -/
theorem LevelFits.append (h : LevelFits D l) (m : List PortCall) : LevelFits D (l ++ m) := by
  obtain ⟨c, hr, hfit⟩ := h
  exact ⟨c, replyTo_append hr, hfit⟩

/-- A version that was due stays due after more calls. -/
theorem VersionDue.append {force : Bool} (h : VersionDue D l force) (m : List PortCall) :
    VersionDue D (l ++ m) force := by
  obtain ⟨v, hr, hdue⟩ := h
  exact ⟨v, replyTo_append hr, hdue⟩

/-- Checks that passed stay passed after more calls. -/
theorem Passed.append {st : OemState} (h : Passed D l st) (m : List PortCall) :
    Passed D (l ++ m) st := by
  cases st
  case cmdCompat => exact HardwareFits.append h m
  case cmdVr => exact ⟨h.1.append m, h.2.append m⟩
  all_goals trivial

/-- Commands unwritten in two logs are unwritten in both together. -/
theorem Unasked.append {cmds : List (List UInt8)} (h₁ : Unasked l cmds) {m : List PortCall}
    (h₂ : Unasked m cmds) : Unasked (l ++ m) cmds := by
  intro cmd hc
  rw [afterWrite_append_of_none (h₁ cmd hc)]
  exact h₂ cmd hc

/-- Commands unwritten stay unwritten when one fewer is asked about. -/
theorem Unasked.tail {cmd : List UInt8} {cmds : List (List UInt8)} (h : Unasked l (cmd :: cmds)) :
    Unasked l cmds :=
  fun c hc => h c (List.mem_cons_of_mem cmd hc)

/-- Calls that write nothing ask for nothing. -/
theorem unasked_of_writeless {calls : List PortCall} (cmds : List (List UInt8))
    (h : ∀ c ∈ calls, ∀ bs, c.offers bs = false) : Unasked calls cmds :=
  fun cmd _ => afterWrite_eq_none fun c hc => h c hc cmd

/-- An empty log wrote no command. -/
theorem unasked_nil (cmds : List (List UInt8)) : Unasked [] cmds :=
  fun _ _ => rfl

/-- A log with no write of `cmd` offers it nowhere. -/
theorem countP_offers_eq_zero {cmd : List UInt8} (h : afterWrite cmd l = none) :
    l.countP (PortCall.offers cmd) = 0 := by
  induction l with
  | nil => rfl
  | cons c rest ih =>
    by_cases hc : c.offers cmd = true
    · simp [afterWrite, hc] at h
    · simp only [afterWrite, hc, Bool.false_eq_true, if_false] at h
      simp [hc, ih h]

end Growth

/-! ## The calls of each part of command mode -/

section Calls

variable {e : UInt8} {cmds : List (List UInt8)}

/-- A command-mode tick makes only calls of command mode. -/
theorem tickCalls_ofCommandMode {calls : List PortCall} (h : Target.TickCalls e calls) :
    ∀ c ∈ calls, c.ofCommandMode e = true := by
  cases h <;> simp [PortCall.ofCommandMode]

/-- A tick of command mode writes only the three-byte escape. -/
theorem unasked_tickCalls {calls : List PortCall} (h : Target.TickCalls e calls)
    (hcmds : ∀ cmd ∈ cmds, cmd.length = 2) : Unasked calls cmds := by
  intro cmd hcmd
  have hne : [e, e, e] ≠ cmd := fun heq => by simpa [← heq] using hcmds cmd hcmd
  apply afterWrite_eq_none
  cases h <;> simp [PortCall.offers, hne]

/-- A request of the checks makes only calls of command mode. -/
theorem requestCalls_ofCommandMode (port : LoggedPort) {cmd : List UInt8}
    (hcmd : cmd ∈ checkRequests) :
    ∀ c ∈ Target.requestCalls port cmd, c.ofCommandMode e = true := by
  simp only [checkRequests, List.mem_cons, List.not_mem_nil, or_false] at hcmd
  rcases hcmd with rfl | rfl | rfl | rfl <;> simp [Target.requestCalls, PortCall.ofCommandMode]

/-- The calls of a request after the write of its command: the carriage return. -/
theorem afterWrite_requestCalls_self (port : LoggedPort) {cmd : List UInt8} (hcmd : cmd ≠ [65, 84]) :
    afterWrite cmd (Target.requestCalls port cmd) =
      some [.write [13] (LoggedPort.taken port.writeChunk 1)] := by
  simp [Target.requestCalls, afterWrite, PortCall.offers, Ne.symm hcmd]

/-- A request writes no command other than its own. -/
theorem unasked_requestCalls (port : LoggedPort) {cmd : List UInt8}
    (h : ∀ c ∈ cmds, c ≠ cmd ∧ c ≠ [65, 84] ∧ c ≠ [13]) : Unasked (Target.requestCalls port cmd) cmds := by
  intro c hc
  obtain ⟨h₁, h₂, h₃⟩ := h c hc
  simp [Target.requestCalls, afterWrite, PortCall.offers, Ne.symm h₁, Ne.symm h₂, Ne.symm h₃]

/-- The reads of a stored response hand over exactly the bytes stored. -/
theorem readsOf_heard (stored : List UInt8) :
    (Target.readsOf stored).flatMap PortCall.heard = stored := by
  induction stored with
  | nil => rfl
  | cons x rest ih =>
    rw [Target.readsOf, List.map_cons, List.flatMap_cons, ← Target.readsOf, ih]
    rfl

end Calls

/-! ## Vetting, step by step -/

section Vetting

variable (D : Array UInt8) (e : UInt8) (accepted : Prop)

/-- A log of command mode: only its calls, and `ATCN` written at most once. -/
def CommandLog (log : List PortCall) : Prop :=
  (∀ c ∈ log, c.ofCommandMode e = true) ∧ log.countP (PortCall.offers [67, 78]) ≤ 1

/-- The reply to `cmd` is on its way: `cmd` was written, the bytes heard since are the response
collected so far, and its carriage return has not come. -/
def Awaiting (cmd : List UInt8) (s : Session LoggedPort) : Prop :=
  13 ∉ s.response ∧ s.responseLen ≤ s.scratch.size ∧
    ∃ post, afterWrite cmd s.target.port.log = some post ∧ post.flatMap PortCall.heard = s.response

/-- The check `st` is asked for and its reply awaited; the checks before it passed. -/
def Requested (st : OemState) (s : Session LoggedPort) : Prop :=
  ∃ cmd, st.checkCommand = some cmd ∧ Passed D s.target.port.log st ∧
    Unasked s.target.port.log st.laterCommands ∧ Awaiting cmd s

/-- The check `st` has its reply: the response it reads is the line the module sent after the
request. -/
def Answered (st : OemState) (s : Session LoggedPort) : Prop :=
  ∃ cmd, st.checkCommand = some cmd ∧ replyTo cmd s.target.port.log = some s.response ∧
    Passed D s.target.port.log st ∧ Unasked s.target.port.log st.laterCommands

/-- Where a session stands before the unlock: at Init with nothing called yet, in command mode
with no check asked, waiting for or holding the reply of a check, or at an end. -/
def Stage (s : Session LoggedPort) : Prop :=
  match s.phase with
  | .oem .init => s.target.port.log = [] ∧ (Accepts s → accepted)
  | .oem .reset | .oem .cmdPending =>
    accepted ∧ Unasked s.target.port.log checkRequests
  | .oem .parseResponse => accepted ∧ Requested D s.nextState s
  | .oem .cmdHv => accepted ∧ Answered D .cmdHv s
  | .oem .cmdCompat => accepted ∧ Answered D .cmdCompat s
  | .oem .cmdVr => accepted ∧ Answered D .cmdVr s
  | .oem .done | .oem .success | .oem .failure => True
  | _ => False

/-- What a session has done by a point of its run. Until it writes `CF1`, the first command of
the unlock, it has made only calls of command mode, written `ATCN` at most once, and stands at a
step of `Stage`. Once it has written `CF1`, its image was accepted and all three checks passed on
the replies in its log. -/
def Vetting (s : Session LoggedPort) : Prop :=
  match afterWrite [67, 70, 49] s.target.port.log with
  | some _ => accepted ∧ HardwareFits D s.target.port.log ∧ LevelFits D s.target.port.log ∧
      VersionDue D s.target.port.log s.force
  | none => CommandLog e s.target.port.log ∧ Stage D accepted s

end Vetting

section VettingSteps

variable {D : Array UInt8} {e : UInt8} {accepted : Prop} {s s' : Session LoggedPort}
  {r : Except Error Step}

/-- Calls of command mode never write `CF1`. -/
theorem afterWrite_cf1_of_commandMode {l : List PortCall} (h : ∀ c ∈ l, c.ofCommandMode e = true) :
    afterWrite [67, 70, 49] l = none :=
  afterWrite_eq_none fun c hc => PortCall.offers_cf1_eq_false (h c hc)

/-- A log of command mode grows by calls of command mode that do not write CN. -/
theorem CommandLog.append {l calls : List PortCall} (h : CommandLog e l)
    (hcalls : ∀ c ∈ calls, c.ofCommandMode e = true) (hcn : calls.countP (PortCall.offers [67, 78]) = 0) :
    CommandLog e (l ++ calls) := by
  refine ⟨fun c hc => ?_, ?_⟩
  · rcases List.mem_append.mp hc with h' | h'
    · exact h.1 c h'
    · exact hcalls c h'
  · rw [List.countP_append, hcn]
    exact h.2

/-- An empty log is a log of command mode. -/
theorem commandLog_nil : CommandLog e [] :=
  ⟨fun _ h => absurd h List.not_mem_nil, Nat.zero_le _⟩

/-- Vetting before the unlock, from its parts. -/
theorem vetting_of_commandLog (hcl : CommandLog e s.target.port.log) (hst : Stage D accepted s) :
    Vetting D e accepted s := by
  unfold Vetting
  rw [afterWrite_cf1_of_commandMode hcl.1]
  exact ⟨hcl, hst⟩

/-- A step before the unlock that makes only calls of command mode, none of them `ATCN`, and ends
at a step of `Stage`, leaves the session vetted. -/
theorem vetting_extend {calls : List PortCall} (hcl : CommandLog e s.target.port.log)
    (hlog : s'.target.port.log = s.target.port.log ++ calls)
    (hcalls : ∀ c ∈ calls, c.ofCommandMode e = true)
    (hcn : calls.countP (PortCall.offers [67, 78]) = 0) (hst : Stage D accepted s') :
    Vetting D e accepted s' := by
  refine vetting_of_commandLog ?_ hst
  rw [hlog]
  exact hcl.append hcalls hcn

/-- A failed step leaves a failed session, an end of `Stage`. -/
theorem stage_settle_error {st : OemState} (x : Error) (hst : s.phase = .oem st) :
    Stage D accepted (settle (.error x : Except Error Step) s) := by
  unfold Stage
  rw [settle_error_phase x hst]
  trivial

/-- Asking for a check: the request's calls are of command mode, and the session waits for the
check's reply with the checks before it passed. The reply is what is heard after the command's own
write. -/
theorem vetting_request {cmd : List UInt8} {next st : OemState} (hcmd : next.checkCommand = some cmd)
    (hcl : CommandLog e s.target.port.log) (hacc : accepted)
    (hun : Unasked s.target.port.log (cmd :: next.laterCommands))
    (hpass : Passed D s.target.port.log next) (hst : s.phase = .oem st)
    (h : (request cmd next).run s = (r, s')) : Vetting D e accepted (settle r s') := by
  obtain ⟨hcmds, -, hlater⟩ := OemState.checkCommand_spec hcmd
  have hcn' : ∀ port, (Target.requestCalls port cmd).countP (PortCall.offers [67, 78]) = 0 := by
    intro port
    simp only [List.mem_cons, List.not_mem_nil, or_false] at hcmds
    rcases hcmds with rfl | rfl | rfl <;> simp [Target.requestCalls, PortCall.offers]
  rw [request_run] at h
  dsimp only at h
  split at h
  · -- no room for the request: the session fails having asked for the room only
    obtain ⟨rfl, rfl⟩ := Prod.mk.inj h
    exact vetting_extend hcl rfl (by simp [PortCall.ofCommandMode]) (by simp [PortCall.offers])
      (stage_settle_error _ hst)
  · obtain ⟨rfl, rfl⟩ := Prod.mk.inj h
    have hcmd4 : cmd ∈ checkRequests := by
      simp only [checkRequests, List.mem_cons, List.not_mem_nil, or_false] at hcmds ⊢
      rcases hcmds with h | h | h <;> simp [h]
    have hne : cmd ≠ [65, 84] := by
      simp only [List.mem_cons, List.not_mem_nil, or_false] at hcmds
      rcases hcmds with rfl | rfl | rfl <;> decide
    have hafter : afterWrite cmd (s.target.port.log ++ Target.requestCalls s.target.port cmd) =
        some [.write [13] (LoggedPort.taken s.target.port.writeChunk 1)] := by
      rw [afterWrite_append_of_none (hun cmd (List.mem_cons_self ..))]
      exact afterWrite_requestCalls_self _ hne
    refine vetting_extend hcl rfl (requestCalls_ofCommandMode _ hcmd4) (hcn' _)
      ⟨hacc, cmd, hcmd, hpass.append _, hun.tail.append (unasked_requestCalls _ fun c hc =>
        ⟨(hlater c hc).1, (hlater c hc).2.1, (hlater c hc).2.2.1⟩), ?_⟩
    exact ⟨by simp [response], Nat.zero_le _, _, hafter, by simp [response, PortCall.heard]⟩

/-- Past the unlock's first command the checks stay passed, whatever comes: the log only grows. -/
theorem vetting_of_unlocked {post : List PortCall}
    (hcf : afterWrite [67, 70, 49] s.target.port.log = some post) (hv : Vetting D e accepted s)
    (hf : Follows s s') : Vetting D e accepted s' := by
  unfold Vetting at hv ⊢
  rw [hcf] at hv
  obtain ⟨hacc, hhv, hlvl, hver⟩ := hv
  obtain ⟨m, hm⟩ := hf.log
  rw [← hm, afterWrite_append_of_some hcf, hf.force]
  exact ⟨hacc, hhv.append m, hlvl.append m, hver.append m⟩

/-- Init leaves the log empty: it reaches Reset on an accepted image and fails otherwise. -/
theorem vetting_init (hlog : s.target.port.log = []) (hacc : Accepts s → accepted)
    (hph : s.phase = .oem .init) (h : (stepOem .init).run s = (r, s')) :
    Vetting D e accepted (settle r s') := by
  obtain ⟨htarget, hcases⟩ := init_cases h
  have hcl : CommandLog e (settle r s').target.port.log := by
    rw [settle_target, htarget, hlog]
    exact commandLog_nil
  rcases hcases with ⟨hok, rfl, hph'⟩ | ⟨-, hr, hph'⟩
  · refine vetting_of_commandLog hcl ?_
    unfold Stage
    rw [settle_ok, hph']
    exact ⟨hacc hok, by rw [htarget, hlog]; exact unasked_nil _⟩
  · cases r with
    | ok a => cases hr
    | error x => exact vetting_of_commandLog hcl (stage_settle_error x (hph'.trans hph))

/-- Command mode being entered, with no check asked. -/
theorem stage_of_entering (hph : s.phase = .oem .reset ∨ s.phase = .oem .cmdPending) (hacc : accepted)
    (hun : Unasked s.target.port.log checkRequests) :
    Stage D accepted s := by
  unfold Stage
  rcases hph with h | h <;> rw [h] <;> exact ⟨hacc, hun⟩

/-- Entering command mode on a port reopened at `baud`: the reopen, flow control and a tick of
command mode are calls of command mode that ask for no check. -/
theorem enter_quiet {t t' : Target LoggedPort} {r' : Except Error Unit} {baud : UInt32}
    (hesc : t.config.escapeChar = e) (hbaud : baud = 115200 ∨ baud = 9600)
    (h : Target.enter.run { t with port := { t.port with
      baud, log := t.port.log ++ [.reopen baud, .flowControl true] } } = (r', t')) :
    ∃ calls, (∀ c ∈ calls, c.ofCommandMode e = true) ∧
      Unasked calls checkRequests ∧ t'.port.log = t.port.log ++ calls := by
  obtain ⟨calls, hcalls, hlog, -⟩ := Target.enter_calls _ h
  rw [hesc] at hcalls
  refine ⟨[.reopen baud, .flowControl true] ++ calls, ?_,
    (unasked_of_writeless _ (by simp [PortCall.offers])).append (unasked_tickCalls hcalls (by simp [checkRequests])),
    by rw [hlog]; simp⟩
  intro c hc
  rcases List.mem_append.mp hc with h | h
  · simp only [List.mem_cons, List.not_mem_nil, or_false] at h
    rcases h with rfl | rfl <;> simp [PortCall.ofCommandMode, hbaud]
  · exact tickCalls_ofCommandMode hcalls c h

/-- Reset reopens at 115200 or 9600 baud and starts the escape, asking for no check. -/
theorem vetting_reset (hesc : s.target.config.escapeChar = e)
    (hcl : CommandLog e s.target.port.log) (hacc : accepted)
    (hun : Unasked s.target.port.log checkRequests)
    (hph : s.phase = .oem .reset) (h : (stepOem .reset).run s = (r, s')) :
    Vetting D e accepted (settle r s') := by
  have hbaud : (if s.tries > 0 then (9600 : UInt32) else 115200) = 115200 ∨
      (if s.tries > 0 then (9600 : UInt32) else 115200) = 9600 := by
    split
    · exact .inr rfl
    · exact .inl rfl
  rw [reset_run] at h
  generalize (if s.tries > 0 then (9600 : UInt32) else 115200) = baud at h hbaud
  dsimp only at h
  split at h
  · -- the port does not open: the session fails after the attempt
    obtain ⟨rfl, rfl⟩ := Prod.mk.inj h
    exact vetting_extend hcl rfl (by simp [PortCall.ofCommandMode, hbaud]) rfl
      (stage_settle_error _ hph)
  split at h
  · rename_i t he
    obtain ⟨rfl, rfl⟩ := Prod.mk.inj h
    obtain ⟨calls, hquiet, hunc, hlog⟩ := enter_quiet hesc hbaud he
    refine vetting_extend hcl hlog hquiet (countP_offers_eq_zero (hunc [67, 78] (by simp [checkRequests])))
      (stage_of_entering (.inr rfl) hacc ?_)
    show Unasked t.port.log _
    rw [hlog]
    exact hun.append hunc
  · rename_i x t he
    obtain ⟨rfl, rfl⟩ := Prod.mk.inj h
    obtain ⟨calls, hquiet, hunc, hlog⟩ := enter_quiet hesc hbaud he
    exact vetting_extend hcl hlog hquiet (countP_offers_eq_zero (hunc [67, 78] (by simp [checkRequests])))
      (stage_settle_error x hph)

/-- While command mode is entered, a tick of it asks for no check; once in, the hardware version
is asked for. -/
theorem vetting_cmdPending (hesc : s.target.config.escapeChar = e) (hcl : CommandLog e s.target.port.log)
    (hacc : accepted) (hun : Unasked s.target.port.log checkRequests) (hph : s.phase = .oem .cmdPending)
    (h : (stepOem .cmdPending).run s = (r, s')) : Vetting D e accepted (settle r s') := by
  rw [cmdPending_run] at h
  rcases ht : Target.tick.run s.target with ⟨r', t⟩
  rw [ht] at h
  obtain ⟨calls, hcalls, ht'⟩ := Target.tick_calls _ ht
  rw [hesc] at hcalls
  have hlog : t.port.log = s.target.port.log ++ calls := by
    rw [ht']
  have hunc : Unasked calls checkRequests := unasked_tickCalls hcalls (by simp [checkRequests])
  have hcn := countP_offers_eq_zero (hunc [67, 78] (by simp [checkRequests]))
  have hquiet := tickCalls_ofCommandMode hcalls
  cases r' with
  | error x =>
    obtain ⟨rfl, rfl⟩ := Prod.mk.inj h
    exact vetting_extend hcl hlog hquiet hcn (stage_settle_error x hph)
  | ok m =>
    cases m
    case command =>
      dsimp only at h
      have hcl' : CommandLog e t.port.log := hlog ▸ hcl.append hquiet hcn
      have hun' : Unasked t.port.log checkRequests := hlog ▸ hun.append hunc
      exact vetting_request (s := { s with target := t })
        (show OemState.cmdHv.checkCommand = some [72, 86] from rfl) hcl' hacc hun' trivial hph h
    case idle =>
      dsimp only at h
      split at h
      · -- silence at 115200 baud: Reset again, for 9600
        obtain ⟨rfl, rfl⟩ := Prod.mk.inj h
        exact vetting_extend hcl hlog hquiet hcn (stage_of_entering (.inl rfl) hacc (hlog ▸ hun.append hunc))
      · obtain ⟨rfl, rfl⟩ := Prod.mk.inj h
        exact vetting_extend hcl hlog hquiet hcn (stage_settle_error _ hph)
    all_goals
      obtain ⟨rfl, rfl⟩ := Prod.mk.inj h
      exact vetting_extend hcl hlog hquiet hcn (stage_of_entering (.inr hph) hacc (hlog ▸ hun.append hunc))

/-- A check that has its reply is a step of `Stage`. -/
theorem stage_of_answered {st : OemState} {cmd : List UInt8} (hcmd : st.checkCommand = some cmd)
    (hph : s.phase = .oem st) (hacc : accepted) (hans : Answered D st s) : Stage D accepted s := by
  unfold Stage
  rw [hph]
  cases st <;> simp only [OemState.checkCommand, reduceCtorEq] at hcmd <;> exact ⟨hacc, hans⟩

/-- Reads are calls of command mode and write nothing. -/
theorem reads_quiet {calls : List PortCall} (h : ∀ c ∈ calls, ∃ n got, c = .read n got) :
    (∀ c ∈ calls, c.ofCommandMode e = true) ∧ ∀ c ∈ calls, ∀ bs, c.offers bs = false := by
  constructor
  · intro c hc
    obtain ⟨n, got, rfl⟩ := h c hc
    rfl
  · intro c hc bs
    obtain ⟨n, got, rfl⟩ := h c hc
    rfl

/-- Waiting for a reply: the bytes read join the response, and at its carriage return the check
it was asked for holds the line. -/
theorem vetting_parseResponse (hcl : CommandLog e s.target.port.log) (hacc : accepted)
    (hreq : Requested D s.nextState s) (hph : s.phase = .oem .parseResponse)
    (h : (stepOem .parseResponse).run s = (r, s')) : Vetting D e accepted (settle r s') := by
  obtain ⟨cmd, hcmd, hpass, hun, hcr, hle, post, hpost, hheard⟩ := hreq
  obtain ⟨stored, tail, hcr', -, hle', hresp, hs', hend⟩ := parseResponse_run_eq s hle h
  have htail : tail = [.read 1 [13]] ∨ tail = [.read 1 []] ∨ tail = [] := by
    rcases hend with ⟨-, h, -⟩ | ⟨-, h | h, -⟩ | ⟨-, h | h, -⟩ <;> simp [h]
  have hreads := Target.readsOf_append_reads stored htail
  obtain ⟨hquiet, hwl⟩ := reads_quiet (e := e) hreads
  have hlog : s'.target.port.log = s.target.port.log ++ (Target.readsOf stored ++ tail) := by
    rw [hs']
    exact List.append_assoc _ _ _
  have hnext : s'.nextState = s.nextState := by
    rw [hs']
  have hun' := hun.append (unasked_of_writeless s.nextState.laterCommands hwl)
  have hpost' := afterWrite_append_of_some (m := Target.readsOf stored ++ tail) hpost
  have hcn := countP_offers_eq_zero (afterWrite_eq_none fun c hc => hwl c hc [67, 78])
  rcases hend with ⟨rfl, rfl, hph'⟩ | ⟨rfl, htl, hph'⟩ | ⟨⟨x, rfl, -⟩, -, hph'⟩
  · -- the carriage return came: the response is the line after the request
    rw [settle_ok]
    refine vetting_extend hcl hlog hquiet hcn (stage_of_answered hcmd hph' hacc ⟨cmd, hcmd, ?_, ?_, ?_⟩)
    · have hline : lineOf (s.response ++ stored ++ [13]) = some (s.response ++ stored) :=
        lineOf_line (by simp [hcr, hcr']) []
      rw [hlog, replyTo, hpost', Option.bind_some, List.flatMap_append, hheard, hresp,
        List.flatMap_append, readsOf_heard]
      simpa [PortCall.heard] using hline
    · rw [hlog]
      exact hpass.append _
    · rw [hlog]
      exact hun'
  · -- still waiting: the response so far is all that was heard since the request
    refine vetting_extend hcl hlog hquiet hcn ?_
    unfold Stage
    rw [settle_ok, hph', hph, hnext]
    refine ⟨hacc, cmd, hcmd, hlog ▸ hpass.append _, hlog ▸ hun', ?_, hle', _, hlog ▸ hpost', ?_⟩
    · rw [hresp]
      simp [hcr, hcr']
    · rw [hresp, List.flatMap_append, hheard, List.flatMap_append, readsOf_heard]
      rcases htl with h | h <;> simp [h, PortCall.heard]
  · exact vetting_extend hcl hlog hquiet hcn (stage_settle_error x (hph'.trans hph))

/-- A failed step that made no call leaves a failed session of command mode. -/
theorem vetting_settle_error {st : OemState} (hcl : CommandLog e s.target.port.log)
    (hlog : s'.target.port.log = s.target.port.log) (hph : s'.phase = .oem st) (x : Error) :
    Vetting D e accepted (settle (.error x : Except Error Step) s') :=
  vetting_of_commandLog (by rw [settle_target, hlog]; exact hcl) (stage_settle_error x hph)

/-- The hardware check: a module whose hardware version names another module id fails the
session; one that names the image's is asked for its compatibility level. -/
theorem vetting_cmdHv (hy : s.source.readLimit ≠ some 0) (h16 : 16 ≤ s.source.data.size)
    (hD : s.source.data = D) (hcl : CommandLog e s.target.port.log) (hacc : accepted)
    (hans : Answered D .cmdHv s) (hph : s.phase = .oem .cmdHv)
    (h : (stepOem .cmdHv).run s = (r, s')) : Vetting D e accepted (settle r s') := by
  obtain ⟨cmd, hcmd, hreply, -, hun⟩ := hans
  cases hcmd
  rw [cmdHv_run hy h16] at h
  dsimp only at h
  split at h
  · obtain ⟨rfl, rfl⟩ := Prod.mk.inj h
    exact vetting_settle_error hcl (by rfl) (by exact hph) _
  · rename_i hfit
    have hhv : HardwareFits D s.target.port.log := ⟨_, hreply, hD ▸ Decidable.of_not_not hfit⟩
    exact vetting_request (s := { s with source := { s.source with pos := 11 } })
      (show OemState.cmdCompat.checkCommand = some [37, 67] from rfl) hcl hacc hun hhv hph h

/-- The compatibility check: a module without levels (`ERROR`) or at the image's level is asked
for its version; one at another level fails the session. -/
theorem vetting_cmdCompat (hy : s.source.readLimit ≠ some 0) (h16 : 16 ≤ s.source.data.size)
    (hD : s.source.data = D) (hcl : CommandLog e s.target.port.log) (hacc : accepted)
    (hans : Answered D .cmdCompat s) (hph : s.phase = .oem .cmdCompat)
    (h : (stepOem .cmdCompat).run s = (r, s')) : Vetting D e accepted (settle r s') := by
  obtain ⟨cmd, hcmd, hreply, hhv, hun⟩ := hans
  cases hcmd
  have hvr : OemState.cmdVr.checkCommand = some [86, 82] := rfl
  rw [cmdCompat_run hy h16] at h
  split at h
  · rename_i herr
    exact vetting_request hvr hcl hacc hun ⟨hhv, _, hreply, .inl herr⟩ hph h
  dsimp only at h
  split at h
  · obtain ⟨rfl, rfl⟩ := Prod.mk.inj h
    exact vetting_settle_error hcl (by rfl) (by exact hph) _
  · rename_i hfit
    exact vetting_request (s := { s with source := { s.source with pos := 12 } }) hvr hcl hacc hun
      ⟨hhv, _, hreply, .inr (hD ▸ Decidable.of_not_not hfit)⟩ hph h

/-- A version reply that does not make the module current leaves the install due. The version has
four bytes, so a reply that starts with it has at least four. -/
theorem versionDue_of_not_current {log : List PortCall} {v : List UInt8} {force : Bool}
    (h16 : 16 ≤ D.size) (hreply : replyTo [86, 82] log = some v)
    (hdue : ¬(v.take 4 = (D.extract 12 16).toList ∧ v.length ≥ 4 ∧ force = false)) :
    VersionDue D log force := by
  refine ⟨v, hreply, ?_⟩
  cases force
  · refine .inr fun heq => hdue ⟨heq, ?_, rfl⟩
    have hlen := congrArg List.length heq
    simp only [List.length_take, Array.length_toList, Array.size_extract] at hlen
    omega
  · exact .inl rfl

/-- Leaving command mode after a module with no `ATCN` yet keeps the log one of command mode. -/
theorem exit_commandLog {t t' : Target LoggedPort} {r' : Except Error Unit}
    (hesc : t.config.escapeChar = e) (hmode : ∀ c ∈ t.port.log, c.ofCommandMode e = true)
    (hcn : t.port.log.countP (PortCall.offers [67, 78]) = 0) (h : Target.exit.run t = (r', t')) :
    CommandLog e t'.port.log := by
  obtain ⟨calls, rest, hcalls, hrest, hlog, -⟩ := Target.exit_calls _ h
  rw [hesc] at hcalls
  have hunc : Unasked calls [[67, 78]] := unasked_tickCalls hcalls (by simp)
  have hcalls0 := countP_offers_eq_zero (hunc [67, 78] (by simp))
  rw [hlog]
  refine ⟨fun c hc => ?_, ?_⟩
  · simp only [List.mem_append] at hc
    rcases hc with (hc | hc) | hc
    · exact hmode c hc
    · exact tickCalls_ofCommandMode hcalls c hc
    · rcases hrest with rfl | ⟨n, rfl⟩ | ⟨port, rfl⟩
      · cases hc
      · simp only [List.mem_cons, List.not_mem_nil, or_false] at hc
        subst hc
        rfl
      · exact requestCalls_ofCommandMode port (by simp [checkRequests]) c hc
  · rw [List.countP_append, List.countP_append, hcn, hcalls0]
    rcases hrest with rfl | ⟨n, rfl⟩ | ⟨port, rfl⟩ <;> simp [Target.requestCalls, PortCall.offers]

/-- The unlock's first command: once `CF1` is out, the image was accepted and all three checks
passed. -/
theorem vetting_unlock {st : OemState} (hcl : CommandLog e s.target.port.log) (hacc : accepted)
    (hhv : HardwareFits D s.target.port.log) (hlvl : LevelFits D s.target.port.log)
    (hver : VersionDue D s.target.port.log s.force) (hph : s.phase = .oem st)
    (h : (request [67, 70, 49] .cmdCf1).run s = (r, s')) : Vetting D e accepted (settle r s') := by
  rw [request_run] at h
  dsimp only at h
  split at h
  · -- no room for it: the session fails having asked for the room only
    obtain ⟨rfl, rfl⟩ := Prod.mk.inj h
    exact vetting_extend hcl rfl (by simp [PortCall.ofCommandMode]) (by simp [PortCall.offers])
      (stage_settle_error _ hph)
  · obtain ⟨rfl, rfl⟩ := Prod.mk.inj h
    have hcf : afterWrite [67, 70, 49] (s.target.port.log ++ Target.requestCalls s.target.port [67, 70, 49]) =
        some [.write [13] (LoggedPort.taken s.target.port.writeChunk 1)] := by
      rw [afterWrite_append_of_none (afterWrite_cf1_of_commandMode hcl.1)]
      exact afterWrite_requestCalls_self _ (by decide)
    rw [settle_ok]
    unfold Vetting
    dsimp only
    rw [hcf]
    exact ⟨hacc, hhv.append _, hlvl.append _, hver.append _⟩

/-- The version check: a module that runs the image's version already, unless forced, leaves
command mode, with `ATCN` written once at most, and the install is done; otherwise the unlock
starts, all three checks passed. -/
theorem vetting_cmdVr (hy : s.source.readLimit ≠ some 0) (h16 : 16 ≤ s.source.data.size)
    (hD : s.source.data = D) (hesc : s.target.config.escapeChar = e)
    (hcl : CommandLog e s.target.port.log) (hacc : accepted) (hans : Answered D .cmdVr s)
    (hph : s.phase = .oem .cmdVr) (h : (stepOem .cmdVr).run s = (r, s')) :
    Vetting D e accepted (settle r s') := by
  obtain ⟨cmd, hcmd, hreply, ⟨hhv, hlvl⟩, hun⟩ := hans
  cases hcmd
  rw [cmdVr_run hy h16] at h
  dsimp only at h
  split at h
  · -- nothing to install: command mode is left
    have hcn := countP_offers_eq_zero (hun [67, 78] (by simp [OemState.laterCommands]))
    split at h
    · rename_i t hexit
      obtain ⟨rfl, rfl⟩ := Prod.mk.inj h
      refine vetting_of_commandLog (exit_commandLog hesc hcl.1 hcn hexit) ?_
      unfold Stage
      trivial
    · rename_i x t hexit
      obtain ⟨rfl, rfl⟩ := Prod.mk.inj h
      exact vetting_of_commandLog (exit_commandLog hesc hcl.1 hcn hexit) (stage_settle_error x hph)
  · rename_i hdue
    exact vetting_unlock (s := { s with source := { s.source with pos := 16 } }) hcl hacc hhv hlvl
      (versionDue_of_not_current (hD ▸ h16) hreply (hD ▸ hdue)) hph h

/-- A step of `Stage` is a step of command mode up to the version check, or an end. -/
theorem stage_checking (h : Stage D accepted s) : ∃ st, s.phase = .oem st ∧ st.checking = true := by
  unfold Stage at h
  rcases hph : s.phase with st | st <;> rw [hph] at h
  · cases h
  · cases st <;> first | exact ⟨_, rfl, rfl⟩ | cases h

end VettingSteps

/-! ## Runs -/

section Runs

/-- A state of a run from `s₀`: it follows `s₀`, and is vetted against the image of `s₀`, its
module's escape character and whether Init accepts it. -/
def VettedFrom (s₀ s : Session LoggedPort) : Prop :=
  Follows s₀ s ∧ Vetting s₀.source.data s₀.target.config.escapeChar (Accepts s₀) s

/-- Every OEM step keeps a run vetted. Before the unlock, each step of `Stage` keeps it. -/
theorem vettedFrom_stepsKeep (s₀ : Session LoggedPort) : StepsKeep (VettedFrom s₀) := by
  rintro s st r s' ⟨hf, hv⟩ hph h
  have hf' : Follows s (settle r s') := by
    have hstep := Action.keeps_iff.mp (stepOem_keeps st) s
    rw [h] at hstep
    exact hstep.trans (settle_follows r s')
  refine ⟨hf.trans hf', ?_⟩
  rcases hcf : afterWrite [67, 70, 49] s.target.port.log with _ | post
  case some => exact vetting_of_unlocked hcf hv hf'
  unfold Vetting at hv
  rw [hcf] at hv
  obtain ⟨hcl, hst⟩ := hv
  have hesc : s.target.config.escapeChar = s₀.target.config.escapeChar := by rw [hf.config]
  have himage : Accepts s₀ → s.source.readLimit ≠ some 0 ∧ 16 ≤ s.source.data.size := by
    rintro ⟨hdr, p, c, src, hv₀, hc₀⟩
    obtain ⟨hy, h16, -⟩ := init_accepts hv₀ hc₀
    rw [hf.readLimit, hf.data]
    exact ⟨hy, h16⟩
  unfold Stage at hst
  rw [hph] at hst
  cases st
  case init => exact vetting_init hst.1 hst.2 hph h
  case reset => exact vetting_reset hesc hcl hst.1 hst.2 hph h
  case cmdPending => exact vetting_cmdPending hesc hcl hst.1 hst.2 hph h
  case parseResponse => exact vetting_parseResponse hcl hst.1 hst.2 hph h
  case cmdHv =>
    obtain ⟨hy, h16⟩ := himage hst.1
    exact vetting_cmdHv hy h16 hf.data hcl hst.1 hst.2 hph h
  case cmdCompat =>
    obtain ⟨hy, h16⟩ := himage hst.1
    exact vetting_cmdCompat hy h16 hf.data hcl hst.1 hst.2 hph h
  case cmdVr =>
    obtain ⟨hy, h16⟩ := himage hst.1
    exact vetting_cmdVr hy h16 hf.data hesc hcl hst.1 hst.2 hph h
  case done =>
    rw [done_run] at h
    obtain ⟨rfl, rfl⟩ := Prod.mk.inj h
    exact vetting_of_commandLog hcl trivial
  case success =>
    rw [success_run] at h
    obtain ⟨rfl, rfl⟩ := Prod.mk.inj h
    rw [settle_ok]
    exact vetting_of_commandLog hcl (by unfold Stage; rw [hph]; trivial)
  case failure =>
    rw [failure_run] at h
    obtain ⟨rfl, rfl⟩ := Prod.mk.inj h
    exact vetting_settle_error hcl rfl hph _
  all_goals cases hst

/-- Every state a session reaches from Init with an empty log is vetted. -/
theorem reachable_vetted {s₀ s : Session LoggedPort} (h0 : s₀.phase = .oem .init)
    (hlog : s₀.target.port.log = []) (h : Reachable s₀ s) : VettedFrom s₀ s := by
  have hstart : VettedFrom s₀ s₀ := by
    refine ⟨Follows.refl s₀, vetting_of_commandLog (hlog ▸ commandLog_nil) ?_⟩
    unfold Stage
    rw [h0]
    exact ⟨hlog, id⟩
  exact reachable_induct (fun s hs => hs.1.oem ⟨_, h0⟩) (vettedFrom_stepsKeep s₀)
    (fun w s hs => ⟨hs.1.trans (meetPort_follows w s), hs.2⟩) hstart h

/-- An OEM session started at Init with an empty log, whatever the module answers and whenever.
It reopens at 38400 baud or knocks with `+` for the bootloader only once Init accepted its image
and the three checks passed on the module's replies. And while the install is not forced and the
module's version reply, if any, starts with the image's version, the session makes only calls of
command mode, writes `ATCN` at most once and stays at the steps of command mode and the ends. -/
theorem bootloader_entry_needs_checks {s₀ : Session LoggedPort} (h0 : s₀.phase = .oem .init)
    (hlog : s₀.target.port.log = []) :
    ∀ s, Reachable s₀ s →
      ((.reopen 38400 ∈ s.target.port.log ∨ ∃ k, .write [43] k ∈ s.target.port.log) →
        Accepts s₀ ∧ HardwareFits s₀.source.data s.target.port.log ∧
          LevelFits s₀.source.data s.target.port.log ∧
          VersionDue s₀.source.data s.target.port.log s₀.force) ∧
      (s₀.force = false →
        (∀ v, replyTo [86, 82] s.target.port.log = some v →
          v.take 4 = (s₀.source.data.extract 12 16).toList) →
        (∀ c ∈ s.target.port.log, c.ofCommandMode s₀.target.config.escapeChar = true) ∧
          s.target.port.log.countP (PortCall.offers [67, 78]) ≤ 1 ∧
          ∃ st, s.phase = .oem st ∧ st.checking = true) := by
  intro s hs
  obtain ⟨hf, hv⟩ := reachable_vetted h0 hlog hs
  unfold Vetting at hv
  rcases hcf : afterWrite [67, 70, 49] s.target.port.log with _ | post <;> rw [hcf] at hv
  · -- before the unlock: only calls of command mode, and neither of those enters the bootloader
    obtain ⟨hcl, hst⟩ := hv
    refine ⟨fun hboot => absurd hboot ?_, fun _ _ => ⟨hcl.1, hcl.2, stage_checking hst⟩⟩
    rintro (hre | ⟨k, hk⟩)
    · simpa [PortCall.ofCommandMode] using hcl.1 _ hre
    · simpa [PortCall.ofCommandMode] using hcl.1 _ hk
  · -- past it: the checks passed, so the version was due
    obtain ⟨hacc, hhv, hlvl, hver⟩ := hv
    rw [hf.force] at hver
    refine ⟨fun _ => ⟨hacc, hhv, hlvl, hver⟩, fun hforce hcur => ?_⟩
    obtain ⟨v, hv, hdue | hdue⟩ := hver
    · rw [hforce] at hdue
      cases hdue
    · exact absurd (hcur v hv) hdue

/-- The one-pair session reaches the bootloader only after every check of the module passed. -/
theorem onePair_vetted :
    onePairSession.phase = .oem .init ∧ onePairSession.target.port.log = [] ∧
    ∀ s, Reachable onePairSession s →
      ((.reopen 38400 ∈ s.target.port.log ∨ ∃ k, .write [43] k ∈ s.target.port.log) →
        Accepts onePairSession ∧ HardwareFits onePairSession.source.data s.target.port.log ∧
          LevelFits onePairSession.source.data s.target.port.log ∧
          VersionDue onePairSession.source.data s.target.port.log onePairSession.force) ∧
      (onePairSession.force = false →
        (∀ v, replyTo [86, 82] s.target.port.log = some v →
          v.take 4 = (onePairSession.source.data.extract 12 16).toList) →
        (∀ c ∈ s.target.port.log, c.ofCommandMode onePairSession.target.config.escapeChar = true) ∧
          s.target.port.log.countP (PortCall.offers [67, 78]) ≤ 1 ∧
          ∃ st, s.phase = .oem st ∧ st.checking = true) :=
  ⟨rfl, rfl, bootloader_entry_needs_checks rfl rfl⟩

end Runs

end Session

end RadioFlash
