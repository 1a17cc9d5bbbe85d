import RadioFlash.Proofs.SessionFrame
import RadioFlash.Proofs.TransferSteps
import RadioFlash.Proofs.EchoTalk
/-!
# The session follows the talk

Every state an OEM session reaches on a logged link stands in one of two places. Before the
bootloader's knock (a lone `+` written), the log holds no knock and the session is in command
mode, entering the bootloader, or done. After it, the calls made since the knock pass the talk
monitor of `EchoTalk`, and the session's own state (the progress record, the resend count) agrees
with where the talk stands (`TransferAt`). `reachable_onTrack` proves it of every reachable
state, for an image whose chain the transfer's walk reads as the pairs `ps`.

Each step of the procedure is taken once, from its run equation: the command-mode steps append
no knock (`quiet_step`), the bootloader's entry writes it, and each step of the transfer moves
the talk along with the session (`transfer_step`). None of them refuses the image: the image was
accepted by Init, and every read and every block the transfer opens lies within it.
-/

namespace RadioFlash

namespace OemState

/-- The steps of the block-echo transfer, from the wait for the bootloader's answer to the wait
for the reset module. -/
def transferring : OemState → Bool
  | .txStart | .txBlock | .sending | .rxBlock | .rxFail | .finalPrompt => true
  | _ => false

/-- The checks and unlock steps a command's response leads to. -/
def asked : OemState → Bool
  | .cmdHv | .cmdCompat | .cmdVr | .cmdCf1 | .cmdSl | .cmdProg | .cmdFr => true
  | _ => false

end OemState

namespace Session

/-- Init accepts the session's image: it passes `verify` and its chain counts. -/
def Accepts (s : Session LoggedPort) : Prop :=
  ∃ hdr p c src, verify.run (s.source, s.scratch) = (.ok hdr, p) ∧
    (countBlocks hdr).run p.1 = (.ok c, src)

/-- Before the knock: Init still to come on an image it accepts; or a step of command mode, of
the bootloader's entry, or the end, where a pending response leads to a check. -/
def BeforeKnock (s : Session LoggedPort) : Prop :=
  match s.phase with
  | .oem .init => Accepts s
  | .oem .parseResponse => s.nextState.asked = true ∧ s.responseLen ≤ s.scratch.size
  | .oem st => st.transferring = false
  | .ebl _ => False

/-- Where the session stands in the transfer against the talk's state `st`: the resend count
and the progress record say what the talk says, for the pairs `ps` from the header length to
the zero length at `z`, in an image of `fl` bytes. -/
def TransferAt (ps : List EchoPair) (z fl : Nat) (s : Session LoggedPort) (st : Talk) : Prop :=
  match s.phase with
  | .oem .txStart => st = .prompt
  | .oem .txBlock => ∃ k c q, st = Talk.toSend ps k c ∧ s.tries + 1 = c ∧ c ≤ 4 ∧
      k ≤ ps.length ∧ s.sub = .oem q ∧ q.firmwareLength = fl ∧
      q.blockOffset = EchoPair.startAt ps z k
  | .oem .sending => ∃ k c sent room p, ps[k]? = some p ∧ st = .sending k c sent room ∧
      sent < p.out ∧ s.tries + 1 = c ∧ c ≤ 4 ∧
      s.sub = .oem ⟨fl, p.start, p.echoStart, p.out - sent⟩
  | .oem .rxBlock => ∃ k c p, ps[k]? = some p ∧ s.tries + 1 = c ∧ c ≤ 4 ∧
      ((∃ heard, st = .echoing k c heard ∧ heard < p.back ∧
          s.sub = .oem ⟨fl, p.start, p.next, p.back - heard⟩) ∨
        (p.back = 0 ∧ st = Talk.toSend ps (k + 1) 1 ∧ s.sub = .oem ⟨fl, p.start, p.next, 0⟩))
  | .oem .rxFail => ∃ k c p q, ps[k]? = some p ∧ s.tries + 1 = c ∧ c ≤ 4 ∧
      (st = .failed k c ∨ ∃ heard, st = .echoing k c heard) ∧
      s.sub = .oem q ∧ q.firmwareLength = fl ∧ q.blockOffset = p.start
  | .oem .finalPrompt | .oem .done | .oem .success => st = .closing 4
  | .oem .failure => True
  | _ => False

/-- The session is on track with the transfer of the pairs `ps` of the image `D`: before the
knock nothing of it has happened, and after it the talk accepts every call since the knock and
the session stands where the talk does. -/
def OnTrack (D : Array UInt8) (ps : List EchoPair) (z fl : Nat) (s : Session LoggedPort) : Prop :=
  match afterWrite [43] s.target.port.log with
  | none => BeforeKnock s
  | some L => ∃ st, talk D ps L = some st ∧ TransferAt ps z fl s st

/-- The image length an image's header declares, as the transfer reads it (offset 4). -/
def imageLength (D : Array UInt8) : Nat :=
  ((wordAt D 4).toUInt32 <<< 16 ||| (wordAt D 6).toUInt32).toNat

/-- Where an image's block chain starts: its header length (offset 8). -/
def chainStart (D : Array UInt8) : Nat := (wordAt D 8).toNat

/-- The image facts the transfer works from: the image length of the header lies within the
image, and the transfer's walk from the header length finds the pairs `ps` and the zero length
at `z`. -/
structure Fit (D : Array UInt8) (ps : List EchoPair) (z fl : Nat) : Prop where
  size : 16 ≤ D.size
  length : imageLength D = fl
  within : fl ≤ D.size
  walk : echoWalk D fl (chainStart D) = some (ps, z)

namespace Fit

variable {D : Array UInt8} {ps : List EchoPair} {z fl : Nat} (hfit : Fit D ps z fl)
include hfit

/-- The pairs follow each other from the header length. -/
theorem chained : EchoPair.Chained (chainStart D) ps z := (echoWalk_spec hfit.walk).1

/-- Every pair fits the image. -/
theorem fits {k : Nat} {p : EchoPair} (hk : ps[k]? = some p) : p.Fits D fl :=
  (echoWalk_spec hfit.walk).2.1 p (List.mem_of_getElem? hk)

/-- The closing zero word lies within the image. -/
theorem stop_read : z + 2 ≤ D.size := (echoWalk_spec hfit.walk).2.2.1

/-- The chain ends at a zero length word. -/
theorem stop_zero : wordAt D z = 0 := (echoWalk_spec hfit.walk).2.2.2

/-- The image length fits a 32-bit word. -/
theorem length_lt : fl < 4294967296 := hfit.length ▸ UInt32.toNat_lt _

/-- The closing word's offset fits a 32-bit word. -/
theorem stop_lt : z < 4294967296 := by
  have hle := hfit.chained.stop_le fun p hp => (echoWalk_spec hfit.walk).2.1 p hp |>.next_le
  have hw : chainStart D < 65536 := UInt16.toNat_lt _
  have hfl := hfit.length_lt
  omega

end Fit

/-! ## Before the knock -/

section Quiet

variable {s s' : Session LoggedPort} {r : Except Error Step}

/-- A step before the knock: it appends no knock, leaves the session before the knock, and
does not refuse the image. -/
def QuietStep (s : Session LoggedPort) (r : Except Error Step) (s' : Session LoggedPort) : Prop :=
  ∃ calls, s'.target.port.log = s.target.port.log ++ calls ∧ afterWrite [43] calls = none ∧
    BeforeKnock (settle r s') ∧ ∀ e, r = .error e → ∀ d, e ≠ .validation d

/-- A session at an OEM step outside the transfer, other than Init and the parse, is before the
knock. -/
theorem beforeKnock_of_phase {st : OemState} (hst : s.phase = .oem st) (hinit : st ≠ .init)
    (hparse : st ≠ .parseResponse) (ht : st.transferring = false) : BeforeKnock s := by
  unfold BeforeKnock
  rw [hst]
  cases st <;> simp_all

/-- A failed OEM step settles the session at Failure. -/
theorem settle_error_phase {st : OemState} (e : Error) (hst : s.phase = .oem st) :
    (settle (.error e : Except Error Step) s).phase = .oem .failure := by
  simp [settle, hst]

/-- A failing step leaves a failed session, which is before the knock as long as the log is. -/
theorem beforeKnock_settle_error {st : OemState} (e : Error) (hst : s.phase = .oem st) :
    BeforeKnock (settle (.error e : Except Error Step) s) :=
  beforeKnock_of_phase (settle_error_phase e hst) (by decide) (by decide) rfl

/-- A step that makes no call and goes on before the knock. -/
theorem QuietStep.no_calls {x : Step} (hlog : s'.target.port.log = s.target.port.log)
    (hb : BeforeKnock s') : QuietStep s (.ok x) s' :=
  ⟨[], by rw [hlog, List.append_nil], rfl, hb, fun e he => by cases he⟩

/-- A step that makes no call and fails, on anything but the image. -/
theorem QuietStep.no_calls_error {st : OemState} {e : Error} (hph : s'.phase = .oem st)
    (hlog : s'.target.port.log = s.target.port.log) (he : ∀ d, e ≠ .validation d) :
    QuietStep s (.error e) s' :=
  ⟨[], by rw [hlog, List.append_nil], rfl, beforeKnock_settle_error e hph,
    fun e' he' => by cases he'; exact he⟩

/-- A command-mode tick does not write the knock. -/
theorem afterWrite_tickCalls {e : UInt8} {calls : List PortCall} (h : Target.TickCalls e calls) :
    afterWrite [43] calls = none := by
  cases h <;> simp [afterWrite, PortCall.offers]

/-- A request other than the knock does not write it. -/
theorem afterWrite_requestCalls (port : LoggedPort) {cmd : List UInt8} (hcmd : cmd ≠ [43]) :
    afterWrite [43] (Target.requestCalls port cmd) = none := by
  simp [Target.requestCalls, afterWrite, PortCall.offers, hcmd]

/-- Reads do not write the knock. -/
theorem afterWrite_readsOf (stored : List UInt8) {tail : List PortCall}
    (htail : afterWrite [43] tail = none) : afterWrite [43] (Target.readsOf stored ++ tail) = none := by
  have hreads : afterWrite [43] (Target.readsOf stored) = none := by
    apply afterWrite_eq_none
    intro c hc
    simp only [Target.readsOf, List.mem_map] at hc
    obtain ⟨x, -, rfl⟩ := hc
    rfl
  rw [afterWrite_append_of_none hreads, htail]

/-- The unlock command is not the knock. -/
theorem unlockCommand_ne_knock (w : UInt16) : unlockCommand w ≠ [43] := by
  intro h
  have hhead := congrArg List.head? h
  simp [unlockCommand] at hhead
  exact absurd hhead (by decide)

/-- A step that awaits a response is neither Init nor the parse, nor a transfer step. -/
theorem OemState.asked_cases {st : OemState} (h : st.asked = true) :
    st ≠ .init ∧ st ≠ .parseResponse ∧ st.transferring = false := by
  cases st <;> simp_all [OemState.asked, OemState.transferring]

/-- A request appends its calls, and waits for the response that leads to `next`. -/
theorem request_quiet {st next : OemState} {cmd : List UInt8}
    (h : (request cmd next).run s = (r, s')) (hst : s.phase = .oem st) (hcmd : cmd ≠ [43]) (hnext : next.asked = true) :
    QuietStep s r s' := by
  rw [request_run] at h
  dsimp only at h
  split at h
  · obtain ⟨rfl, rfl⟩ := Prod.mk.inj h
    exact ⟨[.txFree s.target.port.txCapacity], rfl, rfl, beforeKnock_settle_error _ hst,
      fun e he d => by cases he; simp⟩
  · obtain ⟨rfl, rfl⟩ := Prod.mk.inj h
    refine ⟨_, rfl, afterWrite_requestCalls _ hcmd, ?_, fun e he => by cases he⟩
    exact ⟨hnext, Nat.zero_le _⟩

/-- Reset reopens the port and starts the escape, and neither writes a knock. -/
theorem reset_quiet (hst : s.phase = .oem .reset) (h : (stepOem .reset).run s = (r, s')) :
    QuietStep s r s' := by
  rw [reset_run] at h
  dsimp only at h
  generalize (if s.tries > 0 then (9600 : UInt32) else 115200) = baud at h
  split at h
  · obtain ⟨rfl, rfl⟩ := Prod.mk.inj h
    exact ⟨[.reopen _], rfl, rfl, beforeKnock_settle_error _ hst, fun e he d => by cases he; simp⟩
  rcases he : Target.enter.run ({ s.target with port := { s.target.port with
    baud := baud, log := s.target.port.log ++ [.reopen baud, .flowControl true] } } : Target LoggedPort)
    with ⟨r', t⟩
  rw [he] at h
  obtain ⟨calls, hcalls, hlog, herr⟩ := Target.enter_calls _ he
  have hnone : afterWrite [43] ([.reopen baud, .flowControl true] ++ calls) = none := by
    rw [afterWrite_append_of_none rfl]
    exact afterWrite_tickCalls hcalls
  refine ⟨_, ?_, hnone, ?_⟩
  · cases r' <;> obtain ⟨-, rfl⟩ := Prod.mk.inj h <;> simp [hlog]
  · cases r' with
    | error e =>
      obtain ⟨rfl, rfl⟩ := Prod.mk.inj h
      exact ⟨beforeKnock_settle_error _ hst, fun e' he' => by cases he'; exact herr e rfl⟩
    | ok u =>
      obtain ⟨rfl, rfl⟩ := Prod.mk.inj h
      exact ⟨beforeKnock_of_phase rfl (by decide) (by decide) rfl, fun e he' => by cases he'⟩

/-- Entering command mode polls for the `OK`; once in, the hardware version is asked for. What
command mode answered decides: a request, a second try at 9600 baud, or waiting. -/
theorem cmdPending_quiet (hst : s.phase = .oem .cmdPending) (h : (stepOem .cmdPending).run s = (r, s')) :
    QuietStep s r s' := by
  rw [cmdPending_run] at h
  rcases ht : Target.tick.run s.target with ⟨r', t⟩
  rw [ht] at h
  obtain ⟨calls, hcalls, ht'⟩ := Target.tick_calls _ ht
  have hlog : t.port.log = s.target.port.log ++ calls := by rw [ht']
  have hquiet : ∀ r₁ s₁, QuietStep ({ s with target := t } : Session LoggedPort) r₁ s₁ →
      QuietStep s r₁ s₁ := by
    rintro r₁ s₁ ⟨calls', hlog', hnone, hb', herr⟩
    refine ⟨calls ++ calls', by rw [hlog', hlog, List.append_assoc], ?_, hb', herr⟩
    rw [afterWrite_append_of_none (afterWrite_tickCalls hcalls)]
    exact hnone
  apply hquiet
  cases r' with
  | error e =>
    obtain ⟨rfl, rfl⟩ := Prod.mk.inj h
    exact .no_calls_error hst rfl (Target.tick_error _ ht)
  | ok m =>
    cases m
    case command => exact (request_quiet h hst (by decide) rfl :)
    case idle =>
      dsimp only at h
      split at h
      · obtain ⟨rfl, rfl⟩ := Prod.mk.inj h
        exact .no_calls rfl (beforeKnock_of_phase rfl (by decide) (by decide) rfl)
      · obtain ⟨rfl, rfl⟩ := Prod.mk.inj h
        exact .no_calls_error hst rfl fun _ he => by cases he
    all_goals
      obtain ⟨rfl, rfl⟩ := Prod.mk.inj h
      exact .no_calls rfl (beforeKnock_of_phase hst (by decide) (by decide) rfl)

/-- Waiting for a response only reads; its carriage return leads to the check it was asked for. The
line ends and the check it leads to comes next, or the wait goes on, or it fails. -/
theorem parseResponse_quiet (hst : s.phase = .oem .parseResponse) (hask : s.nextState.asked = true)
    (hc : s.responseLen ≤ s.scratch.size) (h : (stepOem .parseResponse).run s = (r, s')) :
    QuietStep s r s' := by
  obtain ⟨stored, tail, -, hsize, hle, -, hs', hend⟩ := parseResponse_run_eq s hc h
  have hlog : s'.target.port.log = s.target.port.log ++ (Target.readsOf stored ++ tail) := by
    rw [hs', List.append_assoc]
  rcases hend with ⟨rfl, rfl, hph⟩ | ⟨rfl, htail, hph⟩ | ⟨⟨e, rfl, he⟩, htail, hph⟩
  · have hnext := OemState.asked_cases hask
    exact ⟨_, hlog, afterWrite_readsOf stored rfl,
      beforeKnock_of_phase hph hnext.1 hnext.2.1 hnext.2.2, fun e he => by cases he⟩
  · have htail' : afterWrite [43] tail = none := by rcases htail with rfl | rfl <;> rfl
    refine ⟨_, hlog, afterWrite_readsOf stored htail', ?_, fun e he => by cases he⟩
    show BeforeKnock s'
    unfold BeforeKnock
    rw [hph, hst]
    refine ⟨?_, hle⟩
    rw [hs']
    exact hask
  · have htail' : afterWrite [43] tail = none := by rcases htail with rfl | rfl <;> rfl
    exact ⟨_, hlog, afterWrite_readsOf stored htail', beforeKnock_settle_error _ (hph.trans hst),
      fun e' he' => by cases he'; exact he⟩

variable (hy : s.source.readLimit ≠ some 0) (h16 : 16 ≤ s.source.data.size)
include hy h16

/-- The version decides: a module that runs it already leaves command mode, writing at most
`ATCN`; otherwise the unlock starts with a request. -/
theorem cmdVr_quiet (hst : s.phase = .oem .cmdVr) (h : (stepOem .cmdVr).run s = (r, s')) :
    QuietStep s r s' := by
  rw [cmdVr_run hy h16] at h
  dsimp only at h
  split at h
  · -- the module runs the version already: leave command mode, done
    rcases hx : Target.exit.run s.target with ⟨r', t⟩
    rw [hx] at h
    obtain ⟨calls, rest, hcalls, hrest, hlog, herr⟩ := Target.exit_calls _ hx
    have hnone : afterWrite [43] (calls ++ rest) = none := by
      rw [afterWrite_append_of_none (afterWrite_tickCalls hcalls)]
      rcases hrest with rfl | ⟨n, rfl⟩ | ⟨port, rfl⟩
      · rfl
      · rfl
      · exact afterWrite_requestCalls port (by decide)
    cases r' with
    | error e =>
      obtain ⟨rfl, rfl⟩ := Prod.mk.inj h
      exact ⟨_, by rw [hlog, List.append_assoc], hnone, beforeKnock_settle_error _ hst,
        fun e' he' => by cases he'; exact herr e rfl⟩
    | ok u =>
      obtain ⟨rfl, rfl⟩ := Prod.mk.inj h
      exact ⟨_, by rw [hlog, List.append_assoc], hnone, beforeKnock_of_phase rfl (by decide) (by decide) rfl,
        fun e he => by cases he⟩
  · exact (request_quiet h hst (by decide) rfl :)

/-- Every step before the knock but the bootloader's entry appends no knock, leaves the session
before the knock, and does not refuse the image. One case per step, each from its run equation. -/
theorem quiet_step {st : OemState} (hb : BeforeKnock s) (hst : s.phase = .oem st)
    (hboot : st ≠ .bootloader) (h : (stepOem st).run s = (r, s')) : QuietStep s r s' := by
  cases st with
  | init =>
    simp only [BeforeKnock, hst] at hb
    obtain ⟨hdr, p, c, src, hv, hc⟩ := hb
    rw [init_run, hv] at h
    dsimp only at h
    rw [hc] at h
    obtain ⟨rfl, rfl⟩ := Prod.mk.inj h
    exact .no_calls rfl (beforeKnock_of_phase rfl (by decide) (by decide) rfl)
  | reset => exact reset_quiet hst h
  | cmdPending => exact cmdPending_quiet hst h
  | parseResponse =>
    simp only [BeforeKnock, hst] at hb
    exact parseResponse_quiet hst hb.1 hb.2 h
  | cmdHv =>
    rw [cmdHv_run hy h16] at h
    dsimp only at h
    split at h
    · obtain ⟨rfl, rfl⟩ := Prod.mk.inj h
      exact .no_calls_error hst rfl fun _ he => by cases he
    · exact (request_quiet h hst (by decide) rfl :)
  | cmdCompat =>
    rw [cmdCompat_run hy h16] at h
    split at h
    · exact (request_quiet h hst (by decide) rfl :)
    dsimp only at h
    split at h
    · obtain ⟨rfl, rfl⟩ := Prod.mk.inj h
      exact .no_calls_error hst rfl fun _ he => by cases he
    · exact (request_quiet h hst (by decide) rfl :)
  | cmdVr => exact cmdVr_quiet hy h16 hst h
  | cmdCf1 =>
    rw [cmdCf1_run] at h
    exact (request_quiet h hst (by decide) rfl :)
  | cmdSl =>
    rw [cmdSl_run] at h
    exact (request_quiet h hst (unlockCommand_ne_knock _) rfl :)
  | cmdProg =>
    rw [cmdProg_run] at h
    split at h
    · obtain ⟨rfl, rfl⟩ := Prod.mk.inj h
      exact .no_calls rfl (beforeKnock_of_phase rfl (by decide) (by decide) rfl)
    · exact (request_quiet h hst (by decide) rfl :)
  | cmdFr =>
    rw [cmdFr_run] at h
    obtain ⟨rfl, rfl⟩ := Prod.mk.inj h
    exact ⟨_, rfl, rfl, beforeKnock_of_phase rfl (by decide) (by decide) rfl, fun e he => by cases he⟩
  | holdBreak =>
    rw [holdBreak_run] at h
    split at h
    · obtain ⟨rfl, rfl⟩ := Prod.mk.inj h
      exact ⟨_, rfl, rfl, beforeKnock_of_phase rfl (by decide) (by decide) rfl, fun e he => by cases he⟩
    · obtain ⟨rfl, rfl⟩ := Prod.mk.inj h
      exact .no_calls rfl (beforeKnock_of_phase hst (by decide) (by decide) rfl)
  | bootloader => exact absurd rfl hboot
  | done =>
    rw [done_run] at h
    obtain ⟨rfl, rfl⟩ := Prod.mk.inj h
    exact .no_calls rfl (beforeKnock_of_phase rfl (by decide) (by decide) rfl)
  | success =>
    rw [success_run] at h
    obtain ⟨rfl, rfl⟩ := Prod.mk.inj h
    exact .no_calls rfl (beforeKnock_of_phase hst (by decide) (by decide) rfl)
  | failure =>
    rw [failure_run] at h
    obtain ⟨rfl, rfl⟩ := Prod.mk.inj h
    exact .no_calls_error hst rfl fun _ he => by cases he
  | txStart | txBlock | sending | rxBlock | rxFail | finalPrompt =>
    simp [BeforeKnock, hst, OemState.transferring] at hb

end Quiet

/-! ## After the knock -/

section Transfer

variable {D : Array UInt8} {ps : List EchoPair} {z fl : Nat} {s s' : Session LoggedPort}
  {st : Talk} {r : Except Error Step}

/-- The next read of the echo of pair `p`, `heard` bytes of it matched, does not go on with it:
nothing arrived and 4000 ms have passed, or what arrived is not the next piece of the echo. -/
def EchoFails (D : Array UInt8) (p : EchoPair) (heard : Nat) (s : Session LoggedPort) : Prop :=
  let got := (s.target.port.rx.take (min (p.back - heard) 128)).1
  got = [] ∧ s.waited 4000 = true ∨ got ≠ [] ∧ got ≠ ((p.echo D).drop heard).take got.length

/-- One step of the transfer as the talk sees it: its calls take the talk from `st` to a state
the session's new state agrees with, and it does not refuse the image. -/
def TransferStep (D : Array UInt8) (ps : List EchoPair) (z fl : Nat) (s : Session LoggedPort)
    (st : Talk) (r : Except Error Step) (s' : Session LoggedPort) : Prop :=
  ∃ calls st', s'.target.port.log = s.target.port.log ++ calls ∧
    calls.foldlM (Talk.step D ps) st = some st' ∧ TransferAt ps z fl (settle r s') st' ∧
    ∀ e, r = .error e → ∀ d, e ≠ .validation d

/-- A failed step settles at Failure, which agrees with every state of the talk. -/
theorem transferAt_settle_error {st₀ : OemState} (e : Error) (hst : s.phase = .oem st₀) :
    TransferAt ps z fl (settle (.error e : Except Error Step) s) st := by
  simp [TransferAt, settle, hst]

/-- A step that makes no call leaves the talk where it stands. -/
theorem TransferStep.no_calls {x : Step} (hlog : s'.target.port.log = s.target.port.log)
    (hat : TransferAt ps z fl s' st) : TransferStep D ps z fl s st (.ok x) s' :=
  ⟨[], st, by rw [hlog, List.append_nil], rfl, hat, fun e he => by cases he⟩

/-- A step that makes no call and fails, on anything but the image. -/
theorem TransferStep.no_calls_error {st₀ : OemState} {e : Error} (hph : s'.phase = .oem st₀)
    (hlog : s'.target.port.log = s.target.port.log) (he : ∀ d, e ≠ .validation d) :
    TransferStep D ps z fl s st (.error e) s' :=
  ⟨[], st, by rw [hlog, List.append_nil], rfl, transferAt_settle_error e hph,
    fun e' he' => by cases he'; exact he⟩

/-- The next byte of the echo of pair `p`, `heard` bytes of it matched. -/
theorem echo_position (p : EchoPair) (fl : Nat) {heard : Nat} (h : heard ≤ p.back) :
    OemProgress.position ⟨fl, p.start, p.next, p.back - heard⟩ = p.echoStart + 2 + heard := by
  simp only [OemProgress.position, EchoPair.next]
  omega

/-- A failed echo: the copy goes out again after a flush, four copies at most. -/
theorem rxFail_step (hst : s.phase = .oem .rxFail) (hat : TransferAt ps z fl s st)
    (h : (stepOem .rxFail).run s = (r, s')) : TransferStep D ps z fl s st r s' := by
  simp only [TransferAt, hst] at hat
  obtain ⟨k, c, p, q, hp, htries, hc4, hst', hsub, hqfl, hqbo⟩ := hat
  rw [rxFail_run] at h
  split at h
  · obtain ⟨rfl, rfl⟩ := Prod.mk.inj h
    exact .no_calls_error hst rfl fun _ he => by cases he
  rename_i hle
  obtain ⟨rfl, rfl⟩ := Prod.mk.inj h
  have hc : c < 4 := by
    simp only [maxResends] at hle
    omega
  have hflush : Talk.step D ps st .flushRx = some (Talk.toSend ps k (c + 1)) := by
    rcases hst' with rfl | ⟨heard, rfl⟩ <;> simp [Talk.step, hc]
  refine ⟨[.flushRx], Talk.toSend ps k (c + 1), rfl, by simp [hflush], ?_, fun e he => by cases he⟩
  simp only [TransferAt, settle_ok]
  exact ⟨k, c + 1, q, rfl, by omega, by omega, Nat.le_of_lt (List.getElem?_eq_some_iff.mp hp).1, hsub, hqfl,
    hqbo.trans (EchoPair.startAt_of_getElem? hp).symm⟩

/-- The end of the transfer: the reboot wait, then done and success; and a failed session. None
of them makes a call. -/
theorem ending_step {st₀ : OemState} (hst : s.phase = .oem st₀)
    (hend : st₀ = .finalPrompt ∨ st₀ = .done ∨ st₀ = .success ∨ st₀ = .failure)
    (hat : TransferAt ps z fl s st) (h : (stepOem st₀).run s = (r, s')) :
    TransferStep D ps z fl s st r s' := by
  rcases hend with rfl | rfl | rfl | rfl
  · have hc : st = .closing 4 := by simpa [TransferAt, hst] using hat
    rw [finalPrompt_run] at h
    split at h <;> obtain ⟨rfl, rfl⟩ := Prod.mk.inj h
    · exact .no_calls rfl (by simp [TransferAt, hc])
    · exact .no_calls rfl hat
  · have hc : st = .closing 4 := by simpa [TransferAt, hst] using hat
    rw [done_run] at h
    obtain ⟨rfl, rfl⟩ := Prod.mk.inj h
    exact .no_calls rfl (by simp [TransferAt, hc])
  · rw [success_run] at h
    obtain ⟨rfl, rfl⟩ := Prod.mk.inj h
    exact .no_calls rfl hat
  · rw [failure_run] at h
    obtain ⟨rfl, rfl⟩ := Prod.mk.inj h
    exact .no_calls_error hst rfl fun _ he => by cases he

variable (hfit : Fit D ps z fl) (hD : s.source.data = D) (hy : s.source.readLimit ≠ some 0)
include hfit hD hy

/-- The bootloader's answer: `U` or 0x11 starts the first copy of the first block. The bootloader's
answer: nothing yet, or one byte. -/
theorem txStart_step (hst : s.phase = .oem .txStart) (hat : TransferAt ps z fl s st)
    (h : (stepOem .txStart).run s = (r, s')) : TransferStep D ps z fl s st r s' := by
  subst hD
  have hprompt : st = .prompt := by simpa [TransferAt, hst] using hat
  subst hprompt
  rw [txStart_run s hy (by have := hfit.size; omega)] at h
  dsimp only at h
  rcases ByteQueue.take_one_cases s.target.port.rx with hg | ⟨b, hg⟩
  · rw [hg] at h
    simp only [List.head?_nil] at h
    split at h
    · obtain ⟨rfl, rfl⟩ := Prod.mk.inj h
      exact ⟨[.read 1 []], .prompt, rfl, rfl, transferAt_settle_error _ hst,
        fun e he d => by cases he; simp⟩
    · obtain ⟨rfl, rfl⟩ := Prod.mk.inj h
      exact ⟨[.read 1 []], .prompt, rfl, rfl, by simp [TransferAt, hst], fun e he => by cases he⟩
  · rw [hg] at h
    simp only [List.head?_cons] at h
    by_cases hb : b = 85 ∨ b = 17
    · rw [if_pos hb] at h
      obtain ⟨rfl, rfl⟩ := Prod.mk.inj h
      refine ⟨[.read 1 [b]], Talk.toSend ps 0 1, rfl, by simp [Talk.step, hb], ?_,
        fun e he => by cases he⟩
      simp only [TransferAt, settle_ok]
      exact ⟨0, 1, _, rfl, rfl, by decide, Nat.zero_le _, rfl, hfit.length,
        hfit.chained.startAt_zero.symm⟩
    · rw [if_neg hb] at h
      obtain ⟨rfl, rfl⟩ := Prod.mk.inj h
      exact ⟨[.read 1 [b]], .refused, rfl, by simp [Talk.step, hb], transferAt_settle_error _ hst,
        fun e he d => by cases he; simp⟩

/-- Opening the next outbound block: the `k`-th pair's, which lies within the image, or past the
last pair the zero length, which ends the transfer with the module's reset. -/
theorem txBlock_step (hst : s.phase = .oem .txBlock) (hat : TransferAt ps z fl s st)
    (h : (stepOem .txBlock).run s = (r, s')) : TransferStep D ps z fl s st r s' := by
  subst hD
  simp only [TransferAt, hst] at hat
  obtain ⟨k, c, q, rfl, htries, hc4, hk, hsub, hqfl, hqbo⟩ := hat
  have hfl := hfit.length_lt
  have hwithin := hfit.within
  rcases Nat.lt_or_ge k ps.length with hlt | hge
  · -- the outbound block of pair `k`
    obtain ⟨p, hp⟩ : ∃ p, ps[k]? = some p := ⟨ps[k], List.getElem?_eq_getElem hlt⟩
    have hfp := hfit.fits hp
    have hnext := hfp.next_le
    have hstart : q.blockOffset = p.start := hqbo.trans (EchoPair.startAt_of_getElem? hp)
    simp only [EchoPair.next, EchoPair.echoStart] at hnext
    rw [txBlock_run s hsub hy (by omega) (by omega)] at h
    dsimp only at h
    have hword : (wordAt s.source.data q.blockOffset).toNat = p.out := hstart ▸ hfp.out_eq
    have hnz : wordAt s.source.data q.blockOffset ≠ 0 := by
      intro h0
      have := hfp.out_pos
      rw [← hword, h0] at this
      exact absurd this (by decide)
    rw [if_neg hnz, hword, if_neg (by omega)] at h
    obtain ⟨rfl, rfl⟩ := Prod.mk.inj h
    refine ⟨[], .sending k c 0 none, by simp, by simp [Talk.toSend_of_lt c hlt], ?_,
      fun e he => by cases he⟩
    simp only [TransferAt, settle_ok]
    refine ⟨k, c, 0, none, p, hp, rfl, hfp.out_pos, htries, hc4, ?_⟩
    rcases q with ⟨qfl, qbo, qcur, qbl⟩
    simp only at hqfl hstart
    subst hqfl hstart
    rfl
  · -- past the last pair: the zero length at `z`
    have hkl : k = ps.length := by omega
    subst hkl
    have hz : q.blockOffset = z := hqbo.trans (EchoPair.startAt_length ps z)
    have hread := hfit.stop_read
    have hzl := hfit.stop_lt
    rw [txBlock_run s hsub hy (by omega) (by omega)] at h
    dsimp only at h
    rw [if_pos (hz ▸ hfit.stop_zero)] at h
    split at h
    · obtain ⟨rfl, rfl⟩ := Prod.mk.inj h
      refine ⟨[.setReset true, .setReset false, .reopen 9600], .closing 3, by simp, ?_,
        transferAt_settle_error _ hst, fun e he d => by cases he; simp⟩
      rw [Talk.toSend_length]
      rfl
    · obtain ⟨rfl, rfl⟩ := Prod.mk.inj h
      refine ⟨Talk.closingCalls, .closing 4, by simp [Talk.closingCalls], ?_, ?_,
        fun e he => by cases he⟩
      · rw [Talk.toSend_length]
        rfl
      · simp [TransferAt]

/-- Streaming a copy: the piece written is the next piece of the payload, within the room just
reported; once the copy is out, the echo block after it is opened. No room: only the room is asked.
The piece written is the next piece of the payload, and the link took `taken` bytes of it. The copy
is out: its echo block is opened. -/
theorem sending_step (hst : s.phase = .oem .sending) (hat : TransferAt ps z fl s st)
    (h : (stepOem .sending).run s = (r, s')) : TransferStep D ps z fl s st r s' := by
  subst hD
  simp only [TransferAt, hst] at hat
  obtain ⟨k, c, sent, room₀, p, hp, rfl, hsent, htries, hc4, hsub⟩ := hat
  have hfp := hfit.fits hp
  have hfl := hfit.length_lt
  have hwithin := hfit.within
  have hnext := hfp.next_le
  simp only [EchoPair.next, EchoPair.echoStart] at hnext
  have hpos : OemProgress.position ⟨fl, p.start, p.echoStart, p.out - sent⟩ = p.start + 2 + sent := by
    simp only [OemProgress.position, EchoPair.echoStart]
    omega
  change sendBlock.run s = (r, s') at h
  rw [sendBlock_run s hsub hy (by simp only [EchoPair.echoStart]; omega)
    (by simp only [EchoPair.echoStart]; omega) (by simp only [EchoPair.echoStart]; omega)
    (by simp only; omega)] at h
  simp only [hpos] at h
  have hroom : Talk.step s.source.data ps (.sending k c sent room₀) (.txFree s.target.port.txCapacity) =
      some (.sending k c sent (some s.target.port.txCapacity)) := by
    cases room₀ <;> rfl
  by_cases hn : min (min s.target.port.txCapacity echoChunk) (p.out - sent) = 0
  · rw [if_pos hn] at h
    obtain ⟨rfl, rfl⟩ := Prod.mk.inj h
    refine ⟨[.txFree s.target.port.txCapacity], .sending k c sent (some s.target.port.txCapacity), rfl,
      by simp [hroom], ?_, fun e he => by cases he⟩
    simp only [TransferAt, settle_ok, hst]
    exact ⟨k, c, sent, _, p, hp, rfl, hsent, htries, hc4, rfl⟩
  rw [if_neg hn] at h
  generalize hn' : min (min s.target.port.txCapacity echoChunk) (p.out - sent) = n at h hn
  generalize htaken : LoggedPort.taken s.target.port.writeChunk n = taken at h
  have htaken_le : taken ≤ n := htaken ▸ LoggedPort.taken_le _ _
  have hn_le : n ≤ p.out - sent := hn' ▸ Nat.min_le_right _ _
  have hn_room : n ≤ min s.target.port.txCapacity 128 := by
    rw [← hn']
    exact Nat.min_le_left _ _
  have hlen : (s.source.data.extract (p.start + 2 + sent) (p.start + 2 + sent + n)).toList.length = n := by
    simp only [Array.length_toList, Array.size_extract]
    omega
  have hpiece : (s.source.data.extract (p.start + 2 + sent) (p.start + 2 + sent + n)).toList =
      ((p.payload s.source.data).drop sent).take n :=
    EchoPair.payload_piece (show sent + n ≤ p.out by omega)
  have hwrite : Talk.step s.source.data ps (.sending k c sent (some s.target.port.txCapacity))
      (.write (s.source.data.extract (p.start + 2 + sent) (p.start + 2 + sent + n)).toList taken) =
      some (if sent + taken = p.out then (if p.back = 0 then Talk.toSend ps (k + 1) 1 else .echoing k c 0)
        else .sending k c (sent + taken) none) :=
    Talk.step_write hp (by omega) (by omega) (by rw [hlen]; exact hpiece) (by omega)
  have hfold : [PortCall.txFree s.target.port.txCapacity,
      .write (s.source.data.extract (p.start + 2 + sent) (p.start + 2 + sent + n)).toList taken].foldlM
      (Talk.step s.source.data ps) (.sending k c sent room₀) =
      some (if sent + taken = p.out then (if p.back = 0 then Talk.toSend ps (k + 1) 1 else .echoing k c 0)
        else .sending k c (sent + taken) none) := by
    simp only [List.foldlM_cons, List.foldlM_nil, hroom, Option.bind_eq_bind, Option.bind_some,
      hwrite, Option.pure_def]
  by_cases hk : taken < p.out - sent
  · -- part of the copy is out
    rw [if_pos hk] at h
    obtain ⟨rfl, rfl⟩ := Prod.mk.inj h
    refine ⟨_, _, by simp, hfold, ?_, fun e he => by cases he⟩
    rw [if_neg (by omega)]
    simp only [TransferAt, settle_ok, hst]
    refine ⟨k, c, sent + taken, none, p, hp, rfl, by omega, htries, hc4, ?_⟩
    simp only [Substate.oem.injEq, OemProgress.mk.injEq, true_and]
    omega
  rw [if_neg hk] at h
  have hall : sent + taken = p.out := by omega
  rw [expectEcho_run _ ?_ ?_ ?_] at h
  rotate_left
  · exact hy
  · simp only [EchoPair.echoStart]
    omega
  · simp only [EchoPair.echoStart]
    omega
  dsimp only at h
  rw [hfp.back_eq, if_neg (by simp only [EchoPair.echoStart]; omega)] at h
  obtain ⟨rfl, rfl⟩ := Prod.mk.inj h
  refine ⟨_, _, by simp, hfold, ?_, fun e he => by cases he⟩
  rw [if_pos hall]
  simp only [TransferAt, settle_ok]
  refine ⟨k, c, p, hp, htries, hc4, ?_⟩
  by_cases hback : p.back = 0
  · rw [if_pos hback]
    refine .inr ⟨hback, rfl, ?_⟩
    simp [hback, EchoPair.next]
  · rw [if_neg hback]
    refine .inl ⟨0, rfl, by omega, ?_⟩
    simp [EchoPair.next]

/-- Comparing the echo: what arrived is held against the echo block at the current position. A
complete echo moves on to the next pair, a wrong one or none for 4000 ms sends the copy again. What
arrived of the echo, at most 128 bytes and no more than is left of it. The bytes compared are the
next bytes of the echo. -/
theorem rxBlock_step (hst : s.phase = .oem .rxBlock) (hat : TransferAt ps z fl s st)
    (h : (stepOem .rxBlock).run s = (r, s')) : TransferStep D ps z fl s st r s' := by
  subst hD
  simp only [TransferAt, hst] at hat
  obtain ⟨k, c, p, hp, htries, hc4, ⟨heard, rfl, hheard, hsub⟩ | ⟨hback, rfl, hsub⟩⟩ := hat
  rotate_left
  · -- an empty echo is matched at once
    change compareEcho.run s = (r, s') at h
    rw [compareEcho_run s hsub, if_pos rfl, echoMatched_run] at h
    obtain ⟨rfl, rfl⟩ := Prod.mk.inj h
    refine .no_calls rfl ?_
    simp only [TransferAt]
    exact ⟨k + 1, 1, _, rfl, rfl, by decide, (List.getElem?_eq_some_iff.mp hp).1,
      rfl, rfl, (hfit.chained.startAt_succ hp).symm⟩
  have hfp := hfit.fits hp
  have hfl := hfit.length_lt
  have hwithin := hfit.within
  have hnext := hfp.next_le
  simp only [EchoPair.next, EchoPair.echoStart] at hnext
  change compareEcho.run s = (r, s') at h
  rw [compareEcho_run s hsub, if_neg (show p.back - heard ≠ 0 by omega)] at h
  dsimp only at h
  generalize hwant : min (p.back - heard) echoChunk = want at h
  generalize hgot : (s.target.port.rx.take want).1 = got at h
  have hgot_le : got.length ≤ want := by
    rw [← hgot, ByteQueue.take_fst]
    exact List.length_take_le _ _
  have hwant_le : want ≤ p.back - heard := hwant ▸ Nat.min_le_left _ _
  have hmatch : Talk.step s.source.data ps (.echoing k c heard) (.read want got) =
      if got = ((p.echo s.source.data).drop heard).take got.length then
        some (if heard + got.length = p.back then Talk.toSend ps (k + 1) 1
          else .echoing k c (heard + got.length))
      else some (.failed k c) := Talk.step_read_echo hp
  by_cases hg : got = []
  · -- nothing yet: wait, or after 4000 ms send the copy again
    subst hg
    rw [if_pos rfl] at h
    have hfold : [PortCall.read want []].foldlM (Talk.step s.source.data ps) (.echoing k c heard) =
        some (.echoing k c heard) := by
      simp only [List.foldlM_cons, List.foldlM_nil, hmatch, List.length_nil, List.take_zero,
        Nat.add_zero, if_true, if_neg (Nat.ne_of_lt hheard), Option.bind_eq_bind, Option.bind_some,
        Option.pure_def]
    split at h
    · obtain ⟨rfl, rfl⟩ := Prod.mk.inj h
      refine ⟨[.read want []], _, rfl, hfold, ?_, fun e he => by cases he⟩
      simp only [TransferAt, settle_ok]
      exact ⟨k, c, p, _, hp, htries, hc4, .inr ⟨heard, rfl⟩, hsub, rfl, rfl⟩
    · obtain ⟨rfl, rfl⟩ := Prod.mk.inj h
      refine ⟨[.read want []], _, rfl, hfold, ?_, fun e he => by cases he⟩
      simp only [TransferAt, settle_ok, hst]
      exact ⟨k, c, p, hp, htries, hc4, .inl ⟨heard, rfl, hheard, hsub⟩⟩
  rw [if_neg hg] at h
  have hpos := echo_position p fl (Nat.le_of_lt hheard)
  rw [checkEcho_run _ ?_ ?_ ?_] at h
  rotate_left
  · exact hy
  · simp only [hpos, EchoPair.echoStart]
    omega
  · simp only [hpos, EchoPair.echoStart]
    omega
  simp only [hpos] at h
  have hsame : got.toArray = s.source.data.extract (p.echoStart + 2 + heard)
      (p.echoStart + 2 + heard + got.length) ↔ got = ((p.echo s.source.data).drop heard).take got.length :=
    EchoPair.matches_echo_iff (by omega)
  have hfold : ∀ st', Talk.step s.source.data ps (.echoing k c heard) (.read want got) = some st' →
      [PortCall.read want got].foldlM (Talk.step s.source.data ps) (.echoing k c heard) = some st' := by
    intro st' hst'
    simp only [List.foldlM_cons, List.foldlM_nil, hst', Option.bind_eq_bind, Option.bind_some,
      Option.pure_def]
  by_cases hm : got = ((p.echo s.source.data).drop heard).take got.length
  · rw [if_neg (fun hne => hne (hsame.mpr hm))] at h
    by_cases hl : got.length < p.back - heard
    · -- more of the echo is to come
      rw [if_pos hl] at h
      obtain ⟨rfl, rfl⟩ := Prod.mk.inj h
      refine ⟨[.read want got], _, rfl, hfold _ (by rw [hmatch, if_pos hm, if_neg (by omega)]), ?_,
        fun e he => by cases he⟩
      simp only [TransferAt, settle_ok, hst]
      refine ⟨k, c, p, hp, htries, hc4, .inl ⟨heard + got.length, rfl, by omega, ?_⟩⟩
      simp only [Substate.oem.injEq, OemProgress.mk.injEq, true_and]
      omega
    · -- the echo is complete: on to the next pair, with a fresh count of copies
      rw [if_neg hl, echoMatched_run] at h
      obtain ⟨rfl, rfl⟩ := Prod.mk.inj h
      refine ⟨[.read want got], _, rfl, hfold _ (by rw [hmatch, if_pos hm, if_pos (by omega)]), ?_,
        fun e he => by cases he⟩
      simp only [TransferAt, settle_ok]
      exact ⟨k + 1, 1, _, rfl, rfl, by decide, (List.getElem?_eq_some_iff.mp hp).1,
        rfl, rfl, (hfit.chained.startAt_succ hp).symm⟩
  · -- a wrong echo
    rw [if_pos (fun he => hm (hsame.mp he))] at h
    obtain ⟨rfl, rfl⟩ := Prod.mk.inj h
    refine ⟨[.read want got], _, rfl, hfold _ (by rw [hmatch, if_neg hm]), ?_, fun e he => by cases he⟩
    simp only [TransferAt, settle_ok]
    exact ⟨k, c, p, _, hp, htries, hc4, .inl rfl, hsub, rfl, rfl⟩

/-- A read that does not go on with the echo, or no echo for 4000 ms, fails the copy: the step
goes on to the resend and leaves the count of copies as it was. -/
theorem rxBlock_retry {k heard : Nat} {p : EchoPair} (_hst : s.phase = .oem .rxBlock)
    (hp : ps[k]? = some p) (hheard : heard < p.back)
    (hsub : s.sub = .oem ⟨fl, p.start, p.next, p.back - heard⟩) (hfail : EchoFails D p heard s) :
    ∃ s₁, (stepOem .rxBlock).run s = (.ok .goOn, s₁) ∧ s₁.phase = .oem .rxFail ∧ s₁.tries = s.tries := by
  subst hD
  unfold EchoFails at hfail
  dsimp only at hfail
  have hfp := hfit.fits hp
  have hwithin := hfit.within
  have hfl := hfit.length_lt
  have hnext := hfp.next_le
  simp only [EchoPair.next, EchoPair.echoStart] at hnext
  show ∃ s₁, compareEcho.run s = (.ok .goOn, s₁) ∧ _
  rw [compareEcho_run s hsub, if_neg (show p.back - heard ≠ 0 by omega)]
  dsimp only
  generalize hgot : (s.target.port.rx.take (min (p.back - heard) echoChunk)).1 = got
  have hgot' : (s.target.port.rx.take (min (p.back - heard) 128)).1 = got := hgot
  rw [hgot'] at hfail
  have hgot_le : got.length ≤ p.back - heard := by
    rw [← hgot, ByteQueue.take_fst]
    exact Nat.le_trans (List.length_take_le _ _) (Nat.min_le_left _ _)
  rcases hfail with ⟨rfl, hw⟩ | ⟨hg, hm⟩
  · -- nothing for 4000 ms
    rw [if_pos rfl, if_pos hw]
    exact ⟨_, rfl, rfl, rfl⟩
  · -- a wrong piece of the echo
    rw [if_neg hg]
    have hpos := echo_position p fl (Nat.le_of_lt hheard)
    rw [checkEcho_run _ ?_ ?_ ?_]
    rotate_left
    · exact hy
    · simp only [hpos, EchoPair.echoStart]
      omega
    · simp only [hpos, EchoPair.echoStart]
      omega
    have hne : got.toArray ≠ s.source.data.extract (p.echoStart + 2 + heard)
        (p.echoStart + 2 + heard + got.length) :=
      fun he => hm ((EchoPair.matches_echo_iff (by omega)).mp he)
    simp only [hpos]
    rw [if_pos hne]
    exact ⟨_, rfl, rfl, rfl⟩

/-- Every step after the knock moves the talk along with the session. -/
theorem transfer_step {st₀ : OemState} (hst : s.phase = .oem st₀) (hat : TransferAt ps z fl s st)
    (h : (stepOem st₀).run s = (r, s')) : TransferStep D ps z fl s st r s' := by
  cases st₀ with
  | txStart => exact txStart_step hfit hD hy hst hat h
  | txBlock => exact txBlock_step hfit hD hy hst hat h
  | sending => exact sending_step hfit hD hy hst hat h
  | rxBlock => exact rxBlock_step hfit hD hy hst hat h
  | rxFail => exact rxFail_step hst hat h
  | finalPrompt => exact ending_step hst (.inl rfl) hat h
  | done => exact ending_step hst (.inr (.inl rfl)) hat h
  | success => exact ending_step hst (.inr (.inr (.inl rfl))) hat h
  | failure => exact ending_step hst (.inr (.inr (.inr rfl))) hat h
  | _ => simp [TransferAt, hst] at hat

end Transfer

/-! ## Every reachable state -/

section Track

variable {D : Array UInt8} {ps : List EchoPair} {z fl : Nat} {s s' : Session LoggedPort}
  {r : Except Error Step}

/-- Entering the bootloader writes the knock, and the talk starts with the wait for its answer. -/
theorem bootloader_knock (hst : s.phase = .oem .bootloader)
    (hnone : afterWrite [43] s.target.port.log = none) (h : (stepOem .bootloader).run s = (r, s')) :
    OnTrack D ps z fl (settle r s') ∧ ∀ e, r = .error e → ∀ d, e ≠ .validation d := by
  rw [bootloader_run] at h
  dsimp only at h
  have hknock : ∀ k, afterWrite [43] (s.target.port.log ++ [.reopen 38400, .write [43] k]) = some [] :=
    fun k => by rw [afterWrite_append_of_none hnone]; rfl
  split at h
  · obtain ⟨rfl, rfl⟩ := Prod.mk.inj h
    refine ⟨?_, fun e he d => by cases he; simp⟩
    unfold OnTrack
    rw [settle_target, afterWrite_append_of_none hnone]
    exact beforeKnock_settle_error _ hst
  split at h
  · obtain ⟨rfl, rfl⟩ := Prod.mk.inj h
    refine ⟨?_, fun e he d => by cases he; simp⟩
    unfold OnTrack
    rw [settle_target]
    simp only [hknock]
    exact ⟨.prompt, rfl, transferAt_settle_error _ hst⟩
  · obtain ⟨rfl, rfl⟩ := Prod.mk.inj h
    refine ⟨?_, fun e he => by cases he⟩
    unfold OnTrack
    rw [settle_target]
    simp only [hknock]
    exact ⟨.prompt, rfl, by simp [TransferAt]⟩

variable (hfit : Fit D ps z fl) (hD : s.source.data = D) (hy : s.source.readLimit ≠ some 0)
include hfit hD hy

/-- Every step keeps the session on track, and none refuses the image. -/
theorem step_onTrack {st : OemState} (hon : OnTrack D ps z fl s) (hst : s.phase = .oem st)
    (h : (stepOem st).run s = (r, s')) :
    OnTrack D ps z fl (settle r s') ∧ ∀ e, r = .error e → ∀ d, e ≠ .validation d := by
  unfold OnTrack at hon
  rcases hL : afterWrite [43] s.target.port.log with _ | L <;> rw [hL] at hon
  · -- before the knock: the bootloader's entry writes it, any other step does not
    by_cases hboot : st = .bootloader
    · subst hboot
      exact bootloader_knock hst hL h
    have h16 : 16 ≤ s.source.data.size := hD ▸ hfit.size
    obtain ⟨calls, hlog, hnone, hb, herr⟩ := quiet_step hy h16 hon hst hboot h
    refine ⟨?_, herr⟩
    unfold OnTrack
    rw [settle_target, hlog, afterWrite_append_of_none hL, hnone]
    exact hb
  · -- after it: the talk moves along
    obtain ⟨stt, htalk, hat⟩ := hon
    obtain ⟨calls, st', hlog, hfold, hat', herr⟩ := transfer_step hfit hD hy hst hat h
    refine ⟨?_, herr⟩
    unfold OnTrack
    rw [settle_target, hlog, afterWrite_append_of_some hL]
    exact ⟨st', by rw [Talk.talk_append htalk]; exact hfold, hat'⟩

end Track

section Reach

variable {D : Array UInt8} {ps : List EchoPair} {z fl : Nat} {s₀ : Session LoggedPort}

/-- What the procedure keeps of a session that starts on track: it follows its start, and stays
on track. -/
theorem onTrack_stepsKeep (hfit : Fit s₀.source.data ps z fl) (hy : s₀.source.readLimit ≠ some 0) :
    StepsKeep fun s => Follows s₀ s ∧ OnTrack s₀.source.data ps z fl s := by
  rintro s st r s' ⟨hf, hon⟩ hst hrun
  have hs' : Follows s s' := by
    have := Action.keeps_iff.mp (stepOem_keeps st) s
    rwa [hrun] at this
  refine ⟨hf.trans (hs'.trans (settle_follows r s')), ?_⟩
  exact (step_onTrack hfit hf.data (by rw [hf.readLimit]; exact hy) hon hst hrun).1

/-- A session that starts on track, with an image that fits, stays on track whatever the link
and the bootloader do. -/
theorem reachable_onTrack (hfit : Fit s₀.source.data ps z fl) (hy : s₀.source.readLimit ≠ some 0)
    (hoem : ∃ st, s₀.phase = .oem st) (h₀ : OnTrack s₀.source.data ps z fl s₀) {s : Session LoggedPort}
    (h : Reachable s₀ s) : Follows s₀ s ∧ OnTrack s₀.source.data ps z fl s := by
  refine reachable_induct ?_ (onTrack_stepsKeep hfit hy) ?_ ⟨Follows.refl s₀, h₀⟩ h
  · rintro s ⟨hf, -⟩
    exact hf.oem hoem
  · rintro w s ⟨hf, hon⟩
    exact ⟨hf.trans (meetPort_follows w s), hon⟩

/-- No tick of a session on track refuses the image. -/
theorem reachable_tick_keeps_image (hfit : Fit s₀.source.data ps z fl)
    (hy : s₀.source.readLimit ≠ some 0) (hoem : ∃ st, s₀.phase = .oem st)
    (h₀ : OnTrack s₀.source.data ps z fl s₀) {s : Session LoggedPort} (h : Reachable s₀ s) {e : Error}
    (he : (tick.run s).1 = .error e) : ∀ d, e ≠ .validation d := by
  have hs := reachable_onTrack hfit hy hoem h₀ h
  refine tick_error (Q := fun e => ∀ d, e ≠ .validation d) ?_ ?_ (onTrack_stepsKeep hfit hy)
    (fun _ => by simp) hs he
  · rintro s st e s' ⟨hf, hon⟩ hst hrun
    exact (step_onTrack hfit hf.data (by rw [hf.readLimit]; exact hy) hon hst hrun).2 e rfl
  · rintro s ⟨hf, -⟩
    exact hf.oem hoem

/-- A session before Init, with no call made yet on its link and an image Init accepts, is on
track. -/
theorem onTrack_init (hphase : s₀.phase = .oem .init) (hlog : s₀.target.port.log = [])
    (hacc : Accepts s₀) : OnTrack D ps z fl s₀ := by
  unfold OnTrack
  rw [hlog]
  show BeforeKnock s₀
  unfold BeforeKnock
  rw [hphase]
  exact hacc

/-- The tick from the reboot wait: done and then success once 3000 ms have passed, and nothing
before. -/
theorem advance_finalPrompt {s : Session LoggedPort} (hst : s.phase = .oem .finalPrompt) :
    (advance s).phase = if s.waited 3000 then .oem .success else .oem .finalPrompt := by
  have hok : s.isFailed = false := by
    simp [isFailed, hst]
  unfold advance tick
  simp only [Action.run_bind, Action.run_get, hok, Bool.false_eq_true, if_false]
  rw [Action.run_tryCatch]
  by_cases hw : s.waited 3000 = true
  · have hrun : (runSteps 6).run s = (.ok .complete, { s with phase := .oem .success }) := by
      simp [runSteps, Action.run_bind, hst, finalPrompt_run, hw, done_run, isComplete]
    rw [Action.run_bind, hrun]
    simp [hw, Action.run_bind]
  · have hrun : (runSteps 6).run s = (.ok .pending, s) := by
      simp [runSteps, Action.run_bind, hst, finalPrompt_run, hw, isComplete]
    rw [Action.run_bind, hrun]
    simp [hw, hst]

end Reach

end Session

end RadioFlash
