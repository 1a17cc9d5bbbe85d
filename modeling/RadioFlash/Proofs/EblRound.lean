import RadioFlash.Proofs.EblRetries
import RadioFlash.Proofs.StatusLine
/-!
# The round that completes an EBL install

An EBL or HCS08 install works in rounds: each starts at Reset and runs through the break, the
bootloader's menu, the XMODEM send of the whole image and the final prompt; a waiting step that
hears nothing for 5000 ms starts the next round from Reset. When a tick answers `complete`, the
calls since the last Reset are one whole round (`Session.CompletedRound`): the break released
with CR, a scan up to the menu's `>` and the menu choice (`1`, or `F` for HCS08), a scan up to
the receiver's `C`, from that `C` on a whole XMODEM-CRC send of the image in 128-byte blocks
from packet 1, each packet and EOT acknowledged, CR 3000 ms at least after the last ACK, and for
EBL only a scan up to `>` and `2` as the last call.

The times come from `Session.Timed`, the log of a run with each call stamped with the clock of
its tick. The proof carries `Session.Since`, where the stamped log stands against the step the
session is at, through every step of a tick (`Session.stepAt_carries`), and the XMODEM part
through the sender's own agreement with the monitor `Xmodem.wire` (`Xmodem.Transfer.tick_follows`).
`Session.complete_after_round` is the result.
-/

namespace RadioFlash

open RadioFlash.Action

namespace EblState

/-- The steps past the break, up to success. -/
def pastBreak : EblState → Bool
  | prompt | xmodemWait | xmodemSend | xmodemDone | finalPrompt | success => true
  | _ => false

end EblState

/-! ## What an install needs of its sender -/

namespace Xmodem

namespace Wire

variable {D : Array UInt8} {fl : Flags}

/-- After EOT is acknowledged the monitor takes no further call. -/
theorem step_done (c : PortCall) : step D fl .done c = none := by
  cases c <;> rfl

/-- A packet or EOT about to go out is not the end of the transfer. -/
theorem next_ne_done (c : Check) (k : Nat) : next D fl c k ≠ .done := by
  unfold next
  split <;> simp

/-- A failed copy never ends the transfer. -/
theorem resend_ne_done (c : Check) (k copy : Nat) (bs : List UInt8) (n : Nat) :
    resend D fl c k copy bs n ≠ some .done := by
  unfold resend
  repeat' split
  all_goals simp

/-- A failed EOT never ends the transfer. -/
theorem reclose_ne_done (c : Check) (n : Nat) (bs : List UInt8) (j : Nat) :
    reclose c n bs j ≠ some .done := by
  unfold reclose
  repeat' split
  all_goals simp

/-- The monitor reaches `done` only by reading the ACK of EOT. What is left are the steps that
choose their next state by an `if`. -/
theorem eq_read_ack_of_step {st : Wire} {c : PortCall} (h : step D fl st c = some .done) :
    c = .read 1 [ack] := by
  unfold step at h
  split at h <;> (try simp only [Option.some.injEq, reduceCtorEq, resend_ne_done, reclose_ne_done] at h)
  all_goals
    repeat' split at h
    all_goals simp_all [next_ne_done]

/-- A run of the monitor that ends with EOT acknowledged ends with the read of that ACK. -/
theorem foldlM_done {calls : List PortCall} {st : Wire} (h : calls.foldlM (step D fl) st = some .done)
    (hst : st ≠ .done) : ∃ pre, calls = pre ++ [.read 1 [ack]] := by
  induction calls generalizing st with
  | nil =>
    cases h
    exact absurd rfl hst
  | cons c rest ih =>
    obtain ⟨st₁, h₁, hrest⟩ := Option.bind_eq_some_iff.mp h
    by_cases hdone : st₁ = .done
    · -- the ACK of EOT came with `c`, and nothing follows it
      subst hdone
      cases rest with
      | nil => exact ⟨[], by rw [eq_read_ack_of_step h₁]; rfl⟩
      | cons c' rest' => simp [List.foldlM_cons, step_done] at hrest
    · obtain ⟨pre, rfl⟩ := ih hrest hdone
      exact ⟨c :: pre, rfl⟩

/-- A correct sender never opens the port. -/
theorem step_reopen (st : Wire) (b : UInt32) : step D fl st (.reopen b) = none := by
  unfold step
  split <;> simp_all

/-- The monitor follows reads and writes only: a run it follows opened nothing. -/
theorem opens_of_foldlM {calls : List PortCall} {st st' : Wire}
    (h : calls.foldlM (step D fl) st = some st') : opens calls = [] := by
  induction calls generalizing st with
  | nil => rfl
  | cons c rest ih =>
    obtain ⟨st₁, h₁, hrest⟩ := Option.bind_eq_some_iff.mp h
    have hc : c.openedBaud = none := by
      cases c
      case reopen b => simp [step_reopen] at h₁
      all_goals rfl
    simp only [opens, List.filterMap_cons, hc]
    exact ih hrest

end Wire

/-- The monitor run on from where it stood after `l`. -/
theorem wire_append {D : Array UInt8} {fl : Flags} {l m : List PortCall} {st st' : Wire}
    (h : wire D fl l = some st) (h' : m.foldlM (Wire.step D fl) st = some st') :
    wire D fl (l ++ m) = some st' := by
  rw [wire, List.foldlM_append, ← wire, h]
  exact h'

namespace Transfer

variable {t t' : Transfer LoggedPort} {now : Millis} {a : Status}

/-- A step that goes on never finishes the sender: only a step that yields reads the ACK of EOT. -/
theorem Moves.running_of_goOn (h : Moves now t (.ok .goOn) t') : t'.sender.phase ≠ .success := by
  cases h with
  | retry _ _ hfail | reclose _ _ hfail =>
    rcases hfail with ⟨-, hr, -⟩ | ⟨-, hr, -⟩ <;> cases hr
  | _ => simp

/-- Steps from a running sender answer `complete` exactly when they finish it. Induction on the
fuel, along the steps that go on. -/
theorem steps_complete_iff {n : Nat} (hrun : t.sender.phase ≠ .success)
    (h : (steps now n).run t = (.ok a, t')) : a = .complete ↔ t'.sender.phase = .success := by
  induction n generalizing t with
  | zero =>
    cases h
    exact ⟨fun h => (by cases h), fun h => absurd h hrun⟩
  | succ n ih =>
    rw [steps_succ_run] at h
    rcases hstep : (step now).run t with ⟨_ | (_ | _), t₁⟩ <;> rw [hstep] at h
    · cases h
    · exact ih ((step_moves hstep).running_of_goOn) h
    · cases h
      by_cases hs : t'.sender.phase = .success <;> simp [hs]

/-- A tick that succeeds answers `complete` exactly when it leaves the sender finished. -/
theorem tick_complete_iff (h : (tick now).run t = (.ok a, t')) :
    a = .complete ↔ t'.sender.phase = .success := by
  by_cases hs : t.sender.phase = .success
  · rw [tick_success hs] at h
    cases h
    exact ⟨fun _ => hs, fun _ => rfl⟩
  by_cases hf : t.sender.phase = .failure
  · rw [tick_failure hf] at h
    cases h
  by_cases hroom : 3 + t.sender.blockBytes + 2 ≤ t.buffer.size
  · rw [tick_live hs hf hroom] at h
    rcases hsteps : (steps now 6).run t with ⟨_ | a₁, t₁⟩ <;> rw [hsteps] at h
    · cases h
    · cases h
      exact steps_complete_iff hs hsteps
  · rw [tick_cramped hs hf (by omega)] at h
    cases h

/-- A tick keeps the link's clock. -/
theorem tick_now (now : Millis) (t : Transfer LoggedPort) :
    ((tick now).run t).2.port.now = t.port.now := by
  obtain ⟨_, _, _, _, h⟩ := keeps_iff.mp (tick_quiet now) t
  exact h

end Transfer

end Xmodem

namespace Session

/-! ## The calls of a completed round -/

section Round

/-- Each call, stamped with the clock `now` of the tick that made it. -/
def stamp (now : Millis) (calls : List PortCall) : List (Millis × PortCall) :=
  calls.map fun c => (now, c)

/-- Stamping no calls gives none. -/
@[simp] theorem stamp_nil (now : Millis) : stamp now [] = [] := rfl

/-- Stamping two runs of calls stamps each. -/
@[simp] theorem stamp_append (now : Millis) (l m : List PortCall) :
    stamp now (l ++ m) = stamp now l ++ stamp now m :=
  List.map_append

/-- The stamps leave the calls as they were. -/
@[simp] theorem stamp_calls (now : Millis) (calls : List PortCall) :
    (stamp now calls).map Prod.snd = calls := by
  simp [stamp, Function.comp_def]

/-- A one-byte read that did not bring `wanted`: nothing came, or another byte. -/
def Missed (wanted : UInt8) (c : PortCall) : Prop :=
  c = .read 1 [] ∨ ∃ b, b ≠ wanted ∧ c = .read 1 [b]

/-- Stamped reads that all missed `wanted`. -/
def Misses (wanted : UInt8) (M : List (Millis × PortCall)) : Prop :=
  ∀ x ∈ M, Missed wanted x.2

/-- A scan for `wanted`: reads that missed it, then the read that brought it. -/
def ScannedTo (wanted : UInt8) (M : List (Millis × PortCall)) : Prop :=
  ∃ misses c, Misses wanted misses ∧ M = misses ++ [(c, .read 1 [wanted])]

/-- The calls of Reset: the reset line released, the port opened at 115200 with flow control and
RTS low, the break on, and the reset line pulsed. -/
def resetCalls : List PortCall :=
  [.setReset false, .reopen 115200, .flowControl true, .setRts false, .setBreak true,
    .setReset true, .setReset false]

/-- The end of the break: the break released, flow control and RTS on, and CR for the menu. -/
def breakCalls : List PortCall := [.setBreak false, .flowControl true, .setRts true, .write [13] 1]

/-- The flags of an install's XMODEM send: CRC forced, 128-byte blocks. -/
def installFlags : Xmodem.Flags := { forceCrc := true }

variable (D : Array UInt8) (kind : InstallKind)

/-- A round up to the menu choice: the break released, a scan up to `>`, and the choice. -/
def Prompted (R : List (Millis × PortCall)) : Prop :=
  ∃ brk scan c, brk.map Prod.snd = breakCalls ∧ ScannedTo 62 scan ∧
    R = brk ++ scan ++ [(c, .write [bootloaderCommand kind] 1)]

/-- A round up to the receiver's start request: then a scan up to `C`. -/
def Started (R : List (Millis × PortCall)) : Prop :=
  ∃ P scan, Prompted kind P ∧ ScannedTo Xmodem.crcRequest scan ∧ R = P ++ scan

/-- A round through the transfer: from that `C` on, a whole XMODEM-CRC send of `D`, whose last
call, at `done`, read the ACK of EOT. -/
def Sent (R : List (Millis × PortCall)) (done : Millis) : Prop :=
  ∃ S xm, Started kind S ∧
    Xmodem.wire D installFlags
      (.read 1 [Xmodem.crcRequest] :: (xm.map Prod.snd ++ [.read 1 [Xmodem.ack]])) = some .done ∧
    R = S ++ xm ++ [(done, .read 1 [Xmodem.ack])]

/-- A round through the settling: then CR, 3000 ms at least after that ACK. -/
def Settled (R : List (Millis × PortCall)) : Prop :=
  ∃ T done cr, Sent D kind T done ∧ 3000 ≤ (cr - done).toNat ∧ R = T ++ [(cr, .write [13] 1)]

/-- A finished round: for HCS08 that is all; EBL goes on to a scan up to `>` and `2`. -/
def Finished (R : List (Millis × PortCall)) : Prop :=
  if kind = .hcs08 then Settled D kind R
  else ∃ T scan c, Settled D kind T ∧ ScannedTo 62 scan ∧ R = T ++ scan ++ [(c, .write [50] 1)]

/-- A stamped log that ends with Reset and a round after it that opened the port no more and of
which `P` holds. -/
def AfterReset (L : List (Millis × PortCall)) (P : List (Millis × PortCall) → Prop) : Prop :=
  ∃ pre reset R, reset.map Prod.snd = resetCalls ∧ opens (R.map Prod.snd) = [] ∧
    L = pre ++ reset ++ R ∧ P R

/-- A stamped log that ends with Reset and, after it, a finished round. -/
def CompletedRound (L : List (Millis × PortCall)) : Prop :=
  AfterReset L (Finished D kind)

end Round

/-! ## Runs with the clock of every call -/

/-- The calls one tick of `s` makes: what its log grew by. -/
def tickCalls (s : Session LoggedPort) : List PortCall :=
  (advance s).target.port.log.drop s.target.port.log.length

/-- The stamped log of a run from `s₀` to `s`: the calls of each tick, stamped with the clock
the tick ran at. -/
inductive Timed (s₀ : Session LoggedPort) : List (Millis × PortCall) → Session LoggedPort → Prop
  | start : Timed s₀ [] s₀
  | tick {L : List (Millis × PortCall)} {s : Session LoggedPort} :
      Timed s₀ L s → Timed s₀ (L ++ stamp s.target.port.now (tickCalls s)) (advance s)
  | meet {L : List (Millis × PortCall)} {s : Session LoggedPort} (w : Surroundings) :
      Timed s₀ L s → Timed s₀ L (meetPort w s)

/-- Every run has its stamped log. -/
theorem Timed.of_reachable {s₀ s : Session LoggedPort} (h : Reachable s₀ s) : ∃ L, Timed s₀ L s := by
  induction h with
  | start => exact ⟨[], .start⟩
  | tick _ ih =>
    obtain ⟨L, hL⟩ := ih
    exact ⟨_, hL.tick⟩
  | meet w _ ih =>
    obtain ⟨L, hL⟩ := ih
    exact ⟨L, hL.meet w⟩

/-- A run with a stamped log is a run of ticks. -/
theorem Timed.reachable {s₀ s : Session LoggedPort} {L : List (Millis × PortCall)} (h : Timed s₀ L s) :
    Reachable s₀ s := by
  induction h with
  | start => exact .start
  | tick _ ih => exact ih.tick
  | meet w _ ih => exact ih.meet w

/-! ## Scans and single bytes on the link -/

section Link

variable {s : Session LoggedPort}

/-- Reads that missed, then more reads that missed. -/
theorem Misses.append {wanted : UInt8} {M M' : List (Millis × PortCall)} (h : Misses wanted M)
    (h' : Misses wanted M') : Misses wanted (M ++ M') := by
  intro x hx
  rcases List.mem_append.mp hx with hx | hx
  · exact h x hx
  · exact h' x hx

/-- Calls that each missed still miss once stamped. -/
theorem Misses.stamp {wanted : UInt8} {now : Millis} {calls : List PortCall}
    (h : ∀ c ∈ calls, Missed wanted c) : Misses wanted (Session.stamp now calls) := by
  intro x hx
  obtain ⟨c, hc, rfl⟩ := List.mem_map.mp hx
  exact h c hc

/-- Misses before a scan belong to the scan. -/
theorem ScannedTo.of_misses {wanted : UInt8} {M : List (Millis × PortCall)} {now : Millis}
    {misses : List PortCall} (hM : Misses wanted M) (hmiss : ∀ c ∈ misses, Missed wanted c) :
    ScannedTo wanted (M ++ Session.stamp now (misses ++ [.read 1 [wanted]])) :=
  ⟨M ++ Session.stamp now misses, now, hM.append (Misses.stamp hmiss), by
    simp [Session.stamp, List.append_assoc]⟩

/-- A scan reads byte after byte until `wanted` comes or nothing does: it found `wanted` after
misses, or it only missed. It changes nothing but the link, and the link's clock stays. -/
theorem scanWith_run (wanted : UInt8) :
    ∀ (fuel : Nat) (s : Session LoggedPort), ∃ calls p found,
      (scanWith wanted fuel).run s = (.ok found, { s with target := { s.target with port := p } }) ∧
      p.log = s.target.port.log ++ calls ∧ p.now = s.target.port.now ∧
      (found = true → ∃ misses, (∀ c ∈ misses, Missed wanted c) ∧ calls = misses ++ [.read 1 [wanted]]) ∧
      (found = false → ∀ c ∈ calls, Missed wanted c)
  | 0, s => ⟨[], s.target.port, false, rfl, by simp, rfl, by simp, by simp⟩
  | fuel + 1, s => by
    unfold scanWith
    rw [run_bind, onPort_run, LoggedPort.readByte_heard]
    rcases LoggedPort.heard_cases s.target.port with hb | ⟨b, hb⟩
    · -- nothing came
      refine ⟨[.read 1 []], s.target.port.readOne, false, ?_, ?_, rfl, by simp, ?_⟩
      · simp only [hb, List.head?_nil]
        rfl
      · simp [LoggedPort.readOne, hb]
      · intro _ c hc
        rw [List.mem_singleton.mp hc]
        exact .inl rfl
    · simp only [hb, List.head?_cons]
      by_cases hw : b = wanted
      · -- the wanted byte came
        subst hw
        refine ⟨[.read 1 [b]], s.target.port.readOne, true, ?_, ?_, rfl, ?_, by simp⟩
        · simp only [if_pos]
          rfl
        · simp [LoggedPort.readOne, hb]
        · intro _
          exact ⟨[], by simp, rfl⟩
      · -- another byte: the scan goes on
        simp only [if_neg hw]
        obtain ⟨calls, p, found, hrun, hlog, hnow, hyes, hno⟩ :=
          scanWith_run wanted fuel { s with target := { s.target with port := s.target.port.readOne } }
        refine ⟨.read 1 [b] :: calls, p, found, hrun, ?_, hnow, ?_, ?_⟩
        · simp [hlog, LoggedPort.readOne, hb]
        · intro hf
          obtain ⟨misses, hmiss, rfl⟩ := hyes hf
          refine ⟨.read 1 [b] :: misses, ?_, rfl⟩
          intro c hc
          rcases List.mem_cons.mp hc with rfl | hc
          · exact .inr ⟨b, hw, rfl⟩
          · exact hmiss c hc
        · intro hf c hc
          rcases List.mem_cons.mp hc with rfl | hc
          · exact .inr ⟨b, hw, rfl⟩
          · exact hno hf c hc

/-- Scanning for a byte only reads, one byte at a time, and reports whether it came. -/
theorem scanFor_run (wanted : UInt8) (s : Session LoggedPort) : ∃ calls p found,
    (scanFor wanted).run s = (.ok found, { s with target := { s.target with port := p } }) ∧
    p.log = s.target.port.log ++ calls ∧ p.now = s.target.port.now ∧
    (found = true → ∃ misses, (∀ c ∈ misses, Missed wanted c) ∧ calls = misses ++ [.read 1 [wanted]]) ∧
    (found = false → ∀ c ∈ calls, Missed wanted c) :=
  scanWith_run wanted _ s

/-- A one-byte write fails when the link took nothing. -/
theorem writeByte_eq (l : LoggedPort) (b : UInt8) :
    (SerialLink.writeByte b : Action LoggedPort Unit).run l =
      (if LoggedPort.taken l.writeChunk 1 = 0 then
        .error (.resourceExhausted s!"transmit buffer full writing 0x{Text.hexUpper 2 b.toNat}")
      else .ok (), l.wrote [b]) := by
  unfold SerialLink.writeByte
  simp only [run_bind, LoggedPort.write_wrote, List.length_singleton]
  split <;> rfl

/-- A link that took something of one byte took the byte. -/
theorem taken_one {c : Option Nat} (h : LoggedPort.taken c 1 ≠ 0) : LoggedPort.taken c 1 = 1 := by
  have := LoggedPort.taken_le c 1
  omega

end Link

/-! ## Where the stamped log stands -/

section Since

variable (D : Array UInt8) (kind : InstallKind)

/-- The transfer a session runs with `sender`: on its scratch buffer, image and link. -/
def transferOf (s : Session LoggedPort) (sender : Xmodem.Sender) : Xmodem.Transfer LoggedPort :=
  ⟨sender, s.scratch, s.source, s.target.port⟩

/-- The session once its sender ran as `t`: the sender, scratch buffer, image and link taken back. -/
def withTransfer (s : Session LoggedPort) (t : Xmodem.Transfer LoggedPort) : Session LoggedPort :=
  { s with sub := .xmodem t.sender, scratch := t.buffer, source := t.source,
           target := { s.target with port := t.port } }

/-- The session takes back the sender's link. -/
@[simp] theorem withTransfer_port (s : Session LoggedPort) (t : Xmodem.Transfer LoggedPort) :
    (withTransfer s t).target.port = t.port := rfl

/-- What the round since the last Reset holds, at each step past the break. While the image goes
out, the sender agrees with the monitor run from the receiver's `C` on. -/
def RoundAt (s : Session LoggedPort) : EblState → List (Millis × PortCall) → Prop
  | .prompt, R => ∃ brk misses, brk.map Prod.snd = breakCalls ∧ Misses 62 misses ∧ R = brk ++ misses
  | .xmodemWait, R => ∃ P misses, Prompted kind P ∧ Misses Xmodem.crcRequest misses ∧ R = P ++ misses
  | .xmodemSend, R => ∃ S xm sender st, Started kind S ∧ R = S ++ xm ∧ s.sub = .xmodem sender ∧
      Xmodem.wire D installFlags (.read 1 [Xmodem.crcRequest] :: xm.map Prod.snd) = some st ∧
      Xmodem.Transfer.Frame D installFlags (transferOf s sender) ∧
      Xmodem.Transfer.Stage D installFlags (transferOf s sender) sender.phase st ∧
      sender.phase ≠ .success
  | .xmodemDone, R => Sent D kind R s.timer
  | .finalPrompt, R => ∃ T misses, Settled D kind T ∧ Misses 62 misses ∧
      (kind = .hcs08 → misses = []) ∧ R = T ++ misses
  | .success, R => Finished D kind R
  | _, _ => False

/-- Where a stamped log stands against the step the session is at: nothing before Init; anything
before Reset; Reset at its end while the break is held; and past the break, Reset and the round
since, which opened the port no more and holds what `RoundAt` says. -/
def SinceReset (s : Session LoggedPort) (L : List (Millis × PortCall)) : Prop :=
  match s.phase with
  | .ebl .init => L = []
  | .ebl .reset | .ebl .failure => True
  | .ebl .holdBreak => ∃ pre reset, reset.map Prod.snd = resetCalls ∧ L = pre ++ reset
  | .ebl st => AfterReset L (RoundAt D kind s st)
  | .oem _ => False

/-- The stamped log `L` of an install of `kind` with image `D`, standing at `s`. -/
structure Since (s : Session LoggedPort) (L : List (Millis × PortCall)) : Prop where
  kind_eq : s.kind = kind
  data_eq : s.source.data = D
  unlimited : s.source.readLimit = none
  calls_eq : L.map Prod.snd = s.target.port.log
  round : SinceReset D kind s L

/-- A step or a tick from `s` with stamped log `L`, which answered `r` and left `s'`: it added
calls on the clock of `s`, which it kept, and with them the log stands where its answer leaves
the session. -/
def Carries {α : Type} (s : Session LoggedPort) (L : List (Millis × PortCall)) (r : Except Error α)
    (s' : Session LoggedPort) : Prop :=
  ∃ calls, s'.target.port.log = s.target.port.log ++ calls ∧ s'.target.port.now = s.target.port.now ∧
    Since D kind (settle r s') (L ++ stamp s.target.port.now calls)

variable {D kind} {s s₁ s' : Session LoggedPort} {L L₁ : List (Millis × PortCall)}

/-- A failure marks the session failed, where any log stands. -/
theorem since_settle_error {α : Type} (hk : s.kind = kind) (hd : s.source.data = D)
    (hl : s.source.readLimit = none) (hcalls : L.map Prod.snd = s.target.port.log)
    (hph : ∃ st, s.phase = .ebl st) (e : Error) : Since D kind (settle (.error e : Except Error α) s) L := by
  obtain ⟨st, hst⟩ := hph
  exact ⟨hk, hd, hl, hcalls, by simp [SinceReset, settle, hst]⟩

/-- A step that succeeded after `calls` on the clock of `s`, of the same kind and on the same
image: the log stands where `hround` says. -/
theorem carries_ok {α : Type} {a : α} (hs : Since D kind s L) (calls : List PortCall)
    (hlog : s'.target.port.log = s.target.port.log ++ calls)
    (hnow : s'.target.port.now = s.target.port.now) (hkind : s'.kind = s.kind)
    (hdata : s'.source.data = s.source.data) (hlimit : s'.source.readLimit = s.source.readLimit)
    (hround : SinceReset D kind s' (L ++ stamp s.target.port.now calls)) :
    Carries D kind s L (.ok a) s' :=
  ⟨calls, hlog, hnow, hkind.trans hs.kind_eq, hdata.trans hs.data_eq, hlimit.trans hs.unlimited,
    by rw [List.map_append, hs.calls_eq, stamp_calls, settle_ok, hlog], hround⟩

/-- The shared timeout leaves the link alone: the session waits on, or starts over from Reset, or
fails. -/
theorem fallback_since {st : EblState} {r : Except Error Step} (hs₁ : Since D kind s₁ L₁)
    (hst : s₁.phase = .ebl st) (h : eblFallback.run s₁ = (r, s')) :
    s'.target.port = s₁.target.port ∧ Since D kind (settle r s') L₁ := by
  rw [eblFallback_run] at h
  split at h
  · split at h
    · -- the third timeout
      cases h
      exact ⟨rfl, since_settle_error (s := { s₁ with tries := s₁.tries + 1 }) hs₁.kind_eq hs₁.data_eq
        hs₁.unlimited hs₁.calls_eq ⟨st, hst⟩ _⟩
    · -- back to Reset
      cases h
      exact ⟨rfl, hs₁.kind_eq, hs₁.data_eq, hs₁.unlimited, hs₁.calls_eq, trivial⟩
  · cases h
    exact ⟨rfl, hs₁⟩

/-- Past the break, the log stands as Reset and a round after it. -/
theorem sinceReset_past {st : EblState} (hph : s.phase = .ebl st) (hpast : st.pastBreak = true) :
    SinceReset D kind s L = AfterReset L (RoundAt D kind s st) := by
  cases st <;> simp only [EblState.pastBreak, Bool.false_eq_true] at hpast <;>
    simp only [SinceReset, hph]

/-- A round after Reset goes on through calls that open nothing. -/
theorem AfterReset.extend {P Q : List (Millis × PortCall) → Prop} {M : List (Millis × PortCall)}
    (h : AfterReset L P) (hPQ : ∀ R, P R → Q (R ++ M)) (hM : opens (M.map Prod.snd) = []) :
    AfterReset (L ++ M) Q := by
  obtain ⟨pre, reset, R, hreset, hopens, rfl, hR⟩ := h
  refine ⟨pre, reset, R ++ M, hreset, ?_, by simp only [List.append_assoc], hPQ R hR⟩
  rw [List.map_append, opens_append, hopens, hM, List.append_nil]

/-- A round after Reset holds whatever its property implies. -/
theorem AfterReset.mono {P Q : List (Millis × PortCall) → Prop} (h : AfterReset L P)
    (hPQ : ∀ R, P R → Q R) : AfterReset L Q := by
  obtain ⟨pre, reset, R, hreset, hopens, rfl, hR⟩ := h
  exact ⟨pre, reset, R, hreset, hopens, rfl, hPQ R hR⟩

/-- Reads open nothing. -/
theorem opens_missed {wanted : UInt8} {calls : List PortCall} (h : ∀ c ∈ calls, Missed wanted c) :
    opens calls = [] := by
  refine List.filterMap_eq_nil_iff.mpr fun c hc => ?_
  rcases h c hc with rfl | ⟨b, -, rfl⟩ <;> rfl

end Since

/-! ## What each step does to the stamped log -/

section Steps

variable {D : Array UInt8} {kind : InstallKind} {s s' : Session LoggedPort}
  {L : List (Millis × PortCall)} {r : Except Error Step}

/-- A step that failed after calls on the link alone. -/
theorem carries_port_error {α : Type} (hs : Since D kind s L) (hph : ∃ st, s.phase = .ebl st)
    {p : LoggedPort} (calls : List PortCall) (hlog : p.log = s.target.port.log ++ calls)
    (hnow : p.now = s.target.port.now) (e : Error) :
    Carries D kind s L (.error e : Except Error α) { s with target := { s.target with port := p } } :=
  ⟨calls, hlog, hnow, since_settle_error (s := { s with target := { s.target with port := p } })
    hs.kind_eq hs.data_eq hs.unlimited (by simp [hlog, hs.calls_eq]) hph e⟩

/-- A step that waited on, with no call. -/
theorem carries_stay {α : Type} {a : α} (hs : Since D kind s L) : Carries D kind s L (.ok a) s :=
  ⟨[], by simp, rfl, by simpa using hs⟩

/-- HoldBreak: the break is released with CR for the menu, and the round begins. -/
theorem holdBreak_carries (hs : Since D kind s L) (hph : s.phase = .ebl .holdBreak)
    (h : (stepEbl .holdBreak).run s = (r, s')) : Carries D kind s L r s' := by
  have hround := hs.round
  simp only [SinceReset, hph] at hround
  obtain ⟨pre, reset, hreset, rfl⟩ := hround
  simp only [stepEbl] at h
  rw [run_get_bind] at h
  split at h
  · -- the break is held on
    obtain ⟨hport, hs'⟩ := fallback_since hs hph h
    exact ⟨[], by rw [hport, List.append_nil], by rw [hport], by simpa using hs'⟩
  · simp only [run_bind, onPort_run, LoggedPort.setBreak_run, LoggedPort.setFlowControl_run,
      LoggedPort.setRts_run, writeByte_eq] at h
    by_cases h0 : LoggedPort.taken s.target.port.writeChunk 1 = 0
    · -- the link took no CR
      simp only [h0, if_true, Prod.mk.injEq] at h
      obtain ⟨rfl, rfl⟩ := h
      refine carries_port_error hs ⟨_, hph⟩
        [.setBreak false, .flowControl true, .setRts true, .write [13] 0] ?_ ?_ _
      · simp [LoggedPort.wrote, h0]
      · rfl
    · simp only [h0, if_false, armTimer_run, gotoEbl_run, run_pure, Prod.mk.injEq] at h
      obtain ⟨rfl, rfl⟩ := h
      refine carries_ok hs breakCalls (by simp [LoggedPort.wrote, taken_one h0, breakCalls]) rfl rfl
        rfl rfl ?_
      rw [sinceReset_past rfl rfl]
      exact ⟨pre, reset, stamp s.target.port.now breakCalls, hreset, rfl, rfl,
        stamp s.target.port.now breakCalls, [], stamp_calls _ _,
        fun x hx => absurd hx List.not_mem_nil, by rw [List.append_nil]⟩

/-- A scan from a step past the break: the session after it, on its link alone. -/
theorem since_scanned {st : EblState} (hs : Since D kind s L) (hph : s.phase = .ebl st)
    (hpast : st.pastBreak = true) {p : LoggedPort} {calls : List PortCall}
    (hlog : p.log = s.target.port.log ++ calls) (hopens : opens calls = [])
    (hround : ∀ R, RoundAt D kind s st R →
      RoundAt D kind { s with target := { s.target with port := p } } st (R ++ stamp s.target.port.now calls)) :
    Since D kind { s with target := { s.target with port := p } } (L ++ stamp s.target.port.now calls) := by
  refine ⟨hs.kind_eq, hs.data_eq, hs.unlimited, ?_, ?_⟩
  · rw [List.map_append, hs.calls_eq, stamp_calls, hlog]
  · rw [sinceReset_past (s := { s with target := { s.target with port := p } }) hph hpast]
    have h₀ := hs.round
    rw [sinceReset_past hph hpast] at h₀
    exact h₀.extend hround (by rw [stamp_calls]; exact hopens)

/-- A scan that missed, from a step past the break: the misses join the round, and the shared
timeout decides. -/
theorem missed_carries {st : EblState} (hs : Since D kind s L) (hph : s.phase = .ebl st)
    (hpast : st.pastBreak = true) {p : LoggedPort} {calls : List PortCall}
    (hlog : p.log = s.target.port.log ++ calls) (hnow : p.now = s.target.port.now)
    (hopens : opens calls = [])
    (hround : ∀ R, RoundAt D kind s st R →
      RoundAt D kind { s with target := { s.target with port := p } } st (R ++ stamp s.target.port.now calls))
    (h : eblFallback.run { s with target := { s.target with port := p } } = (r, s')) :
    Carries D kind s L r s' := by
  obtain ⟨hport, hs'⟩ := fallback_since (since_scanned hs hph hpast hlog hopens hround) hph h
  exact ⟨calls, by rw [hport, hlog], by rw [hport, hnow], hs'⟩

/-- Prompt: the scan for `>` goes on until it comes, and the menu choice answers it. -/
theorem prompt_carries (hs : Since D kind s L) (hph : s.phase = .ebl .prompt)
    (h : (stepEbl .prompt).run s = (r, s')) : Carries D kind s L r s' := by
  simp only [stepEbl] at h
  rw [run_bind] at h
  obtain ⟨calls, p, found, hscan, hlog, hnow, hyes, hno⟩ := scanFor_run 62 s
  rw [hscan] at h
  cases found
  · -- no `>` yet
    simp only [Bool.not_false, if_true] at h
    refine missed_carries hs hph rfl hlog hnow (opens_missed (hno rfl)) (fun R hR => ?_) h
    obtain ⟨brk, misses, hbrk, hmiss, rfl⟩ := hR
    exact ⟨brk, misses ++ stamp s.target.port.now calls, hbrk, hmiss.append (Misses.stamp (hno rfl)),
      List.append_assoc _ _ _⟩
  · obtain ⟨misses, hmiss, rfl⟩ := hyes rfl
    simp only [Bool.not_true, Bool.false_eq_true, if_false, run_bind, say_run, run_get, onPort_run,
      writeByte_eq] at h
    by_cases h0 : LoggedPort.taken p.writeChunk 1 = 0
    · -- the link took no choice
      simp only [h0, if_true, Prod.mk.injEq] at h
      obtain ⟨rfl, rfl⟩ := h
      refine carries_port_error hs ⟨_, hph⟩
        (misses ++ [.read 1 [62]] ++ [.write [bootloaderCommand s.kind] 0]) ?_ ?_ _
      · simp [LoggedPort.wrote, hlog, h0]
      · exact hnow
    · simp only [h0, if_false, armTimer_run, gotoEbl_run, run_pure, Prod.mk.injEq] at h
      obtain ⟨rfl, rfl⟩ := h
      have hround := hs.round
      rw [sinceReset_past hph rfl] at hround
      refine carries_ok hs (misses ++ [.read 1 [62]] ++ [.write [bootloaderCommand kind] 1])
        (by simp [LoggedPort.wrote, hlog, taken_one h0, hs.kind_eq]) hnow rfl rfl rfl ?_
      rw [sinceReset_past rfl rfl]
      refine hround.extend ?_ ?_
      · rintro R ⟨brk, ms, hbrk, hms, rfl⟩
        refine ⟨_, [], ⟨brk, ms ++ stamp s.target.port.now (misses ++ [.read 1 [62]]),
          s.target.port.now, hbrk, ScannedTo.of_misses hms hmiss, ?_⟩,
          fun x hx => absurd hx List.not_mem_nil, (List.append_nil _).symm⟩
        simp [stamp]
      · simp only [stamp_calls, opens_append, opens_missed hmiss, List.nil_append]
        rfl

/-- The sender of an install once `C` came: CRC chosen, and packet 1 to be assembled. -/
def startedSender : Xmodem.Sender :=
  { Xmodem.Sender.new installFlags with check := some .crc, packetNum := 1, phase := .send }

/-- A fresh sender with CRC forced accepts `C`, and touches nothing else. -/
theorem acceptStart_started (buffer : Array UInt8) (source : Source) (port : LoggedPort) :
    (Xmodem.Transfer.acceptStart Xmodem.crcRequest).run
        ({ sender := Xmodem.Sender.new { forceCrc := true }, buffer, source, port } :
          Xmodem.Transfer LoggedPort) =
      (.ok true, { sender := startedSender, buffer, source, port }) := by
  rw [Xmodem.Transfer.acceptStart_run _ rfl]
  rfl

/-- XmodemWait: the scan for `C` goes on until it comes; then the image is rewound and a sender
started with CRC chosen, as if it had read the `C` itself. The sender starts where the monitor
stands after `C`: packet 1 next, or EOT for no image. -/
theorem xmodemWait_carries (hs : Since D kind s L) (hph : s.phase = .ebl .xmodemWait)
    (h : (stepEbl .xmodemWait).run s = (r, s')) : Carries D kind s L r s' := by
  simp only [stepEbl] at h
  rw [run_bind] at h
  obtain ⟨calls, p, found, hscan, hlog, hnow, hyes, hno⟩ := scanFor_run Xmodem.crcRequest s
  rw [hscan] at h
  cases found
  · -- no `C` yet
    simp only [Bool.not_false, if_true] at h
    refine missed_carries hs hph rfl hlog hnow (opens_missed (hno rfl)) (fun R hR => ?_) h
    obtain ⟨P, misses, hP, hmiss, rfl⟩ := hR
    exact ⟨P, misses ++ stamp s.target.port.now calls, hP, hmiss.append (Misses.stamp (hno rfl)),
      List.append_assoc _ _ _⟩
  · obtain ⟨misses, hmiss, rfl⟩ := hyes rfl
    simp only [Bool.not_true, Bool.false_eq_true, if_false, run_bind, onSource_run,
      Source.seek_run_of_le (o := 0) (Nat.zero_le _), run_modify, onTransfer, run_get, run_focus,
      acceptStart_started, gotoEbl_run, run_pure, Prod.mk.injEq] at h
    obtain ⟨rfl, rfl⟩ := h
    have hround := hs.round
    rw [sinceReset_past hph rfl] at hround
    refine carries_ok hs (misses ++ [.read 1 [Xmodem.crcRequest]]) hlog hnow rfl rfl rfl ?_
    rw [sinceReset_past rfl rfl]
    refine hround.extend ?_ (by rw [stamp_calls, opens_append, opens_missed hmiss]; rfl)
    rintro R ⟨P, ms, hP, hms, rfl⟩
    exact ⟨_, [], startedSender, Xmodem.Wire.next D installFlags .crc 1,
      ⟨P, ms ++ stamp s.target.port.now (misses ++ [.read 1 [Xmodem.crcRequest]]),
        hP, ScannedTo.of_misses hms hmiss, by rw [List.append_assoc]⟩, (List.append_nil _).symm, rfl, rfl,
      ⟨rfl, hs.data_eq, hs.unlimited⟩,
      Xmodem.Transfer.stage_next rfl rfl rfl (Nat.le_refl 1) (by simp [transferOf]), by decide⟩

/-- XmodemSend: the sender's tick, which the monitor follows on from where it stood; when the
sender is through, the round is sent, and the timer marks the ACK of EOT. -/
theorem xmodemSend_carries (hs : Since D kind s L) (hph : s.phase = .ebl .xmodemSend)
    (h : (stepEbl .xmodemSend).run s = (r, s')) : Carries D kind s L r s' := by
  have hround := hs.round
  rw [sinceReset_past hph rfl] at hround
  obtain ⟨pre, reset, R, hreset, hopens, rfl, S, xm, snd, st, hS, rfl, hsub, hwire, hframe, hstage,
    hlive⟩ := hround
  rcases htick : (Xmodem.Transfer.tick s.target.port.now).run (transferOf s snd) with ⟨r₁, t'⟩
  obtain ⟨calls, st', hlog, hrun, hframe', hstage'⟩ := Xmodem.Transfer.tick_follows hframe hstage htick
  have hnow : t'.port.now = s.target.port.now := by
    have := Xmodem.Transfer.tick_now s.target.port.now (transferOf s snd)
    rw [htick] at this
    exact this
  have hon : (onTransfer (Xmodem.Transfer.tick s.target.port.now)).run s = (r₁, withTransfer s t') := by
    rw [onTransfer_run hsub]
    simp only [show (⟨snd, s.scratch, s.source, s.target.port⟩ : Xmodem.Transfer LoggedPort) =
      transferOf s snd from rfl, htick]
    rfl
  simp only [stepEbl] at h
  rw [run_get_bind, now_eq] at h
  have hcalls : (pre ++ reset ++ (S ++ xm) ++ stamp s.target.port.now calls).map Prod.snd = t'.port.log := by
    rw [List.map_append, hs.calls_eq, stamp_calls, hlog]
    rfl
  have hopens' : opens ((S ++ xm ++ stamp s.target.port.now calls).map Prod.snd) = [] := by
    rw [List.map_append, opens_append, hopens, stamp_calls, Xmodem.Wire.opens_of_foldlM hrun]
    rfl
  rcases r₁ with e | a
  · -- the sender gave up
    rw [run_bind_error _ hon, Prod.mk.injEq] at h
    obtain ⟨rfl, rfl⟩ := h
    exact ⟨calls, hlog, hnow, since_settle_error (s := withTransfer s t') hs.kind_eq hframe'.data
      hframe'.limit hcalls ⟨_, hph⟩ e⟩
  rw [run_bind_ok _ hon] at h
  by_cases ha : a = .complete
  · -- through: the last call read the ACK of EOT
    have hst' : st' = .done :=
      hstage'.success_iff.mp ((Xmodem.Transfer.tick_complete_iff htick).mp ha)
    have hst : st ≠ .done := fun hd => hlive (hstage.success_iff.mpr hd)
    subst hst'
    obtain ⟨sent, rfl⟩ := Xmodem.Wire.foldlM_done hrun hst
    simp only [ha, if_true, run_bind, run_get, say_run, armTimer_run, gotoEbl_run, run_pure,
      Prod.mk.injEq] at h
    obtain ⟨rfl, rfl⟩ := h
    refine ⟨_, hlog, hnow, hs.kind_eq, hframe'.data, hframe'.limit, hcalls, ?_⟩
    rw [settle_ok, sinceReset_past rfl rfl]
    refine ⟨pre, reset, _, hreset, hopens', by simp only [List.append_assoc], S,
      xm ++ stamp s.target.port.now sent, hS, ?_, ?_⟩
    · have hw := Xmodem.wire_append hwire hrun
      simp only [List.map_append, stamp_calls, List.cons_append, List.append_assoc] at hw ⊢
      exact hw
    · simp [stamp, now_eq, hnow, List.append_assoc]
  · -- still going
    have hlive' : t'.sender.phase ≠ .success := fun hd => ha ((Xmodem.Transfer.tick_complete_iff htick).mpr hd)
    simp only [ha, if_false, run_pure, Prod.mk.injEq] at h
    obtain ⟨rfl, rfl⟩ := h
    refine ⟨calls, hlog, hnow, hs.kind_eq, hframe'.data, hframe'.limit, hcalls, ?_⟩
    rw [settle_ok, sinceReset_past (s := withTransfer s t') hph rfl]
    refine ⟨pre, reset, _, hreset, hopens', by simp only [List.append_assoc], S,
      xm ++ stamp s.target.port.now calls, t'.sender, st', hS, List.append_assoc _ _ _, rfl, ?_,
      hframe', hstage', hlive'⟩
    have hw := Xmodem.wire_append hwire hrun
    simp only [List.map_append, stamp_calls, List.cons_append] at hw ⊢
    exact hw

/-- XmodemDone: 3000 ms after the ACK of EOT, CR goes out, and the round is settled. -/
theorem xmodemDone_carries (hs : Since D kind s L) (hph : s.phase = .ebl .xmodemDone)
    (h : (stepEbl .xmodemDone).run s = (r, s')) : Carries D kind s L r s' := by
  simp only [stepEbl] at h
  rw [run_get_bind] at h
  split at h
  · -- still settling
    simp only [run_pure, Prod.mk.injEq] at h
    obtain ⟨rfl, rfl⟩ := h
    exact carries_stay hs
  next hw =>
    have hsettle : settleMs.toNat ≤ (s.target.port.now - s.timer).toNat := by
      have hw' : (Deadline.arm s.timer settleMs).elapsed s.target.port.now = true := by
        simpa [waited_eq] using hw
      exact ((Deadline.elapsed_arm_iff (by decide)).mp hw').1
    simp only [run_bind, onPort_run, writeByte_eq] at h
    by_cases h0 : LoggedPort.taken s.target.port.writeChunk 1 = 0
    · -- the link took no CR
      simp only [h0, if_true, Prod.mk.injEq] at h
      obtain ⟨rfl, rfl⟩ := h
      refine carries_port_error hs ⟨_, hph⟩ [.write [13] 0] ?_ ?_ _
      · simp [LoggedPort.wrote, h0]
      · rfl
    · simp only [h0, if_false, armTimer_run, gotoEbl_run, run_pure, Prod.mk.injEq] at h
      obtain ⟨rfl, rfl⟩ := h
      have hround := hs.round
      rw [sinceReset_past hph rfl] at hround
      refine carries_ok hs [.write [13] 1] (by simp [LoggedPort.wrote, taken_one h0]) rfl rfl rfl rfl ?_
      rw [sinceReset_past rfl rfl]
      exact hround.extend (fun R hR => ⟨R ++ stamp s.target.port.now [.write [13] 1], [],
        ⟨R, s.timer, s.target.port.now, hR, hsettle, rfl⟩, fun x hx => absurd hx List.not_mem_nil,
        fun _ => rfl, (List.append_nil _).symm⟩) rfl

/-- FinalPrompt: HCS08 is done; EBL scans for `>` and answers `2` to run the new firmware. -/
theorem finalPrompt_carries (hs : Since D kind s L) (hph : s.phase = .ebl .finalPrompt)
    (h : (stepEbl .finalPrompt).run s = (r, s')) : Carries D kind s L r s' := by
  have hround := hs.round
  rw [sinceReset_past hph rfl] at hround
  simp only [stepEbl] at h
  rw [run_get_bind] at h
  split at h
  · -- HCS08: the round was finished with CR
    next hk =>
    simp only [run_bind, gotoEbl_run, run_pure, Prod.mk.injEq] at h
    obtain ⟨rfl, rfl⟩ := h
    refine carries_ok hs [] (by simp) rfl rfl rfl rfl ?_
    rw [sinceReset_past rfl rfl, stamp_nil, List.append_nil]
    refine hround.mono fun R hR => ?_
    obtain ⟨T, misses, hT, -, hnone, rfl⟩ := hR
    have hk' : kind = .hcs08 := hs.kind_eq ▸ hk
    show Finished D kind _
    rw [Finished, if_pos hk', hnone hk', List.append_nil]
    exact hT
  next hk =>
  have hk' : kind ≠ .hcs08 := fun h' => hk (hs.kind_eq.trans h')
  rw [run_bind] at h
  obtain ⟨calls, p, found, hscan, hlog, hnow, hyes, hno⟩ := scanFor_run 62 s
  rw [hscan] at h
  cases found
  · -- no `>` yet
    simp only [Bool.not_false, if_true] at h
    refine missed_carries hs hph rfl hlog hnow (opens_missed (hno rfl)) (fun R hR => ?_) h
    obtain ⟨T, misses, hT, hmiss, -, rfl⟩ := hR
    exact ⟨T, misses ++ stamp s.target.port.now calls, hT, hmiss.append (Misses.stamp (hno rfl)),
      fun h' => absurd h' hk', List.append_assoc _ _ _⟩
  · obtain ⟨misses, hmiss, rfl⟩ := hyes rfl
    simp only [Bool.not_true, Bool.false_eq_true, if_false, run_bind, say_run, onPort_run,
      writeByte_eq] at h
    by_cases h0 : LoggedPort.taken p.writeChunk 1 = 0
    · -- the link took no `2`
      simp only [h0, if_true, Prod.mk.injEq] at h
      obtain ⟨rfl, rfl⟩ := h
      refine carries_port_error hs ⟨_, hph⟩
        (misses ++ [.read 1 [62]] ++ [.write [50] 0]) ?_ ?_ _
      · simp [LoggedPort.wrote, hlog, h0]
      · exact hnow
    · simp only [h0, if_false, armTimer_run, gotoEbl_run, run_pure, Prod.mk.injEq] at h
      obtain ⟨rfl, rfl⟩ := h
      refine carries_ok hs (misses ++ [.read 1 [62]] ++ [.write [50] 1])
        (by simp [LoggedPort.wrote, hlog, taken_one h0]) hnow rfl rfl rfl ?_
      rw [sinceReset_past rfl rfl]
      refine hround.extend ?_ ?_
      · rintro R ⟨T, ms, hT, hms, -, rfl⟩
        show Finished D kind _
        rw [Finished, if_neg hk']
        refine ⟨T, ms ++ stamp s.target.port.now (misses ++ [.read 1 [62]]), s.target.port.now, hT,
          ScannedTo.of_misses hms hmiss, ?_⟩
        simp [stamp]
      · simp only [stamp_calls, opens_append, opens_missed hmiss, List.nil_append]
        rfl

/-- Reset: the port reopened and the module reset under the break; a port that does not open
fails the session. -/
theorem reset_carries (hs : Since D kind s L) (hph : s.phase = .ebl .reset)
    (h : (stepEbl .reset).run s = (r, s')) : Carries D kind s L r s' := by
  simp only [stepEbl] at h
  rw [run_bind, onPort_run, LoggedPort.setReset_run] at h
  dsimp only at h
  rw [run_bind, onPort_run, LoggedPort.reopen_run] at h
  by_cases hf : (115200 : UInt32) ∈ s.target.port.failBauds
  · simp only [hf, if_true] at h
    cases h
    refine carries_port_error hs ⟨_, hph⟩ [.setReset false, .reopen 115200] ?_ ?_ _
    · simp
    · rfl
  · simp only [hf, if_false, run_bind, onPort_run, onTarget_run, LoggedPort.setFlowControl_run,
      LoggedPort.setRts_run, LoggedPort.setBreak_run, say_run, Target.resetModule_run, armTimer_run,
      gotoEbl_run, run_pure] at h
    cases h
    exact carries_ok hs resetCalls (by simp [resetCalls]) rfl rfl rfl rfl
      ⟨L, stamp s.target.port.now resetCalls, stamp_calls _ _, rfl⟩

/-- Every step of an install carries the stamped log along. -/
theorem stepAt_carries (hs : Since D kind s L) (h : (stepAt s.phase).run s = (r, s')) :
    Carries D kind s L r s' := by
  rcases hph : s.phase with st | st <;> rw [hph] at h
  · cases st
    case init =>
      rw [stepAt, stepEbl_init_run, Prod.mk.injEq] at h
      obtain ⟨rfl, rfl⟩ := h
      exact carries_ok hs [] (by simp) rfl rfl rfl rfl trivial
    case reset => exact reset_carries hs hph h
    case holdBreak => exact holdBreak_carries hs hph h
    case prompt => exact prompt_carries hs hph h
    case xmodemWait => exact xmodemWait_carries hs hph h
    case xmodemSend => exact xmodemSend_carries hs hph h
    case xmodemDone => exact xmodemDone_carries hs hph h
    case finalPrompt => exact finalPrompt_carries hs hph h
    case success =>
      cases h
      exact carries_stay hs
    case failure =>
      cases h
      exact ⟨[], by simp, rfl, since_settle_error hs.kind_eq hs.data_eq hs.unlimited
        (by simpa using hs.calls_eq) ⟨_, hph⟩ _⟩
  · -- the OEM procedure is no install of this kind
    have hround := hs.round
    simp only [SinceReset, hph] at hround

end Steps

/-! ## Ticks and runs -/

section Runs

variable {D : Array UInt8} {kind : InstallKind} {s : Session LoggedPort} {L : List (Millis × PortCall)}

/-- The steps of a tick carry the stamped log, all on the clock of the tick. Induction on the fuel,
along the steps that go on. -/
theorem runSteps_carries (n : Nat) (hs : Since D kind s L) :
    Carries D kind s L ((runSteps n).run s).1 ((runSteps n).run s).2 := by
  induction n generalizing s L with
  | zero => exact carries_stay hs
  | succ n ih =>
    rw [runSteps_succ_run]
    rcases hr : (stepAt s.phase).run s with ⟨_ | (_ | _), s₁⟩
    · exact stepAt_carries hs hr
    · obtain ⟨calls₁, hlog₁, hnow₁, hs₁⟩ := stepAt_carries hs hr
      rw [settle_ok] at hs₁
      obtain ⟨calls₂, hlog₂, hnow₂, hs₂⟩ := ih hs₁
      change Carries D kind s L ((runSteps n).run s₁).1 ((runSteps n).run s₁).2
      refine ⟨calls₁ ++ calls₂, by rw [hlog₂, hlog₁, List.append_assoc], hnow₂.trans hnow₁, ?_⟩
      rw [hnow₁] at hs₂
      simpa only [stamp_append, List.append_assoc] using hs₂
    · obtain ⟨calls, hlog, hnow, hs₁⟩ := stepAt_carries hs hr
      exact ⟨calls, hlog, hnow, hs₁⟩

/-- A tick carries the stamped log: the calls it made, stamped with its clock. -/
theorem since_advance (hs : Since D kind s L) :
    Since D kind (advance s) (L ++ stamp s.target.port.now (tickCalls s)) := by
  unfold tickCalls advance
  rw [tick_run]
  split
  · simpa using hs
  obtain ⟨calls, hlog, -, hs'⟩ := runSteps_carries 6 hs
  rcases hrun : (runSteps 6).run s with ⟨_ | a, s'⟩ <;> rw [hrun] at hlog hs' <;> dsimp only at hlog hs' <;>
    simpa [hlog] using hs'

/-- A change of surroundings keeps what the round holds. -/
theorem RoundAt.meet {st : EblState} {R : List (Millis × PortCall)} (w : Surroundings)
    (h : RoundAt D kind s st R) : RoundAt D kind (meetPort w s) st R := by
  cases st
  case xmodemSend =>
    obtain ⟨S, xm, sender, st, hS, hR, hsub, hwire, hf, hstage, hlive⟩ := h
    exact ⟨S, xm, sender, st, hS, hR, hsub, hwire, ⟨hf.flags, hf.data, hf.limit⟩, hstage.withPort _, hlive⟩
  all_goals exact h

/-- What comes in, the clock and the link's limits play no part in where the log stands. -/
theorem Since.meet (hs : Since D kind s L) (w : Surroundings) : Since D kind (meetPort w s) L := by
  refine ⟨hs.kind_eq, hs.data_eq, hs.unlimited, hs.calls_eq, ?_⟩
  have hround := hs.round
  rcases hph : s.phase with st | st
  · by_cases hpast : st.pastBreak = true
    · rw [sinceReset_past hph hpast] at hround
      rw [sinceReset_past (s := meetPort w s) hph hpast]
      exact hround.mono fun R => RoundAt.meet w
    · cases st <;> simp only [EblState.pastBreak, not_true_eq_false] at hpast <;>
        simp only [SinceReset, meetPort, hph] at hround ⊢ <;> exact hround
  · simp only [SinceReset, hph] at hround

/-- Steps answer `complete` only once they leave the session at success. -/
theorem runSteps_complete {n : Nat} (h : ((runSteps n).run s).1 = .ok .complete) :
    ((runSteps n).run s).2.isComplete = true := by
  induction n generalizing s with
  | zero => cases h
  | succ n ih =>
    rw [runSteps_succ_run] at h ⊢
    generalize (stepAt s.phase).run s = r at h ⊢
    rcases r with ⟨_ | (_ | _), s₁⟩
    · cases h
    · exact ih h
    · by_cases hc : s₁.isComplete = true
      · exact hc
      · simp [hc] at h

/-- A tick answers `complete` only once it leaves the session at success. -/
theorem advance_complete (hc : (tick.run s).1 = .ok .complete) : (advance s).isComplete = true := by
  unfold advance
  rw [tick_run] at hc ⊢
  by_cases hf : s.isFailed = true
  · rw [if_pos hf] at hc
    cases hc
  rw [if_neg hf] at hc ⊢
  have hsteps := runSteps_complete (n := 6) (s := s)
  revert hc hsteps
  rcases (runSteps 6).run s with ⟨_ | a, s'⟩ <;> intro hc hsteps
  · cases hc
  · exact hsteps hc

/-- At success, the log since the last Reset is a completed round. -/
theorem Since.completed (hs : Since D kind s L) (hc : s.isComplete = true) : CompletedRound D kind L := by
  have hround := hs.round
  unfold isComplete at hc
  split at hc
  · next hph => rwa [sinceReset_past hph rfl] at hround
  · next hph => simp only [SinceReset, hph] at hround
  · cases hc

/-- The stamped log of every run of an install from Init stands where the session does. Induction on
the run: each tick carries the log, and a change of surroundings keeps it. -/
theorem Timed.since {s₀ : Session LoggedPort} (hinit : s₀.phase = .ebl .init)
    (hlog : s₀.target.port.log = []) (hlimit : s₀.source.readLimit = none) (h : Timed s₀ L s) :
    Since s₀.source.data s₀.kind s L := by
  induction h with
  | start => exact ⟨rfl, rfl, hlimit, by rw [hlog]; rfl, by simp only [SinceReset, hinit]⟩
  | tick _ ih => exact since_advance ih
  | meet w _ ih => exact ih.meet w

end Runs

/-- An install from Init on a link with an empty log, whatever the far end sends, whenever it
sends it and whatever the link takes: a tick that answers `complete` closes a whole round after
the last Reset, its own calls included. The break was released with CR, `>` answered with the
menu choice, and from the receiver's `C` on the whole image went out as an XMODEM-CRC send from
packet 1, each packet and EOT acknowledged; CR came 3000 ms at least after the ACK of EOT, and
for EBL only a scan up to `>` and `2` last. -/
theorem complete_after_round {s₀ s : Session LoggedPort} {L : List (Millis × PortCall)}
    (hinit : s₀.phase = .ebl .init) (hlog : s₀.target.port.log = [])
    (hlimit : s₀.source.readLimit = none) (h : Timed s₀ L s) (hc : (tick.run s).1 = .ok .complete) :
    CompletedRound s₀.source.data s₀.kind (L ++ stamp s.target.port.now (tickCalls s)) :=
  (since_advance (h.since hinit hlog hlimit)).completed (advance_complete hc)

/-- `tinyEbl` through its transfer: packet 1 and EOT acknowledged, and `>` heard 3000 ms after
the ACK of EOT. -/
def tinyEblDone : Session LoggedPort :=
  meetPort (heardAt 3150 [62]) (advance (meetPort (heardAt 150 [6]) (advance (advance
    (meetPort (heardAt 150 [6]) tinyEblNext)))))

/-- The one-packet EBL session completes, its stamped log one completed round. -/
theorem tinyEbl_completes_round :
    tinyEbl.phase = .ebl .init ∧ tinyEbl.target.port.log = [] ∧ tinyEbl.source.readLimit = none ∧
      ∃ L, Timed tinyEbl L tinyEblDone ∧ (tick.run tinyEblDone).1 = .ok .complete ∧
        CompletedRound tinyEbl.source.data tinyEbl.kind
          (L ++ stamp tinyEblDone.target.port.now (tickCalls tinyEblDone)) := by
  have hrun : Timed tinyEbl _ tinyEblDone :=
    .meet _ (.tick (.meet _ (.tick (.tick (.meet _ (.tick (.meet _ (.tick (.meet _ (.tick (.meet _
      (.tick (.meet _ (.tick .start))))))))))))))
  have hc : (tick.run tinyEblDone).1 = .ok .complete := by
    have h : (tick.run tinyEblDone).1.toOption = some .complete := by decide +kernel
    generalize (tick.run tinyEblDone).1 = r at h ⊢
    cases r <;> simp_all [Except.toOption]
  exact ⟨rfl, rfl, rfl, _, hrun, hc, complete_after_round rfl rfl rfl hrun hc⟩

/-- What a sent round wrote from the `C` on: every packet of `D` from packet 1, each one to
three times, then EOT, attempt after attempt. The reads of `C` and of the last ACK write nothing. -/
theorem Sent.written {D : Array UInt8} {kind : InstallKind} {R : List (Millis × PortCall)}
    {done : Millis} (h : Sent D kind R done) :
    ∃ S xm, Started kind S ∧ R = S ++ xm ++ [(done, .read 1 [Xmodem.ack])] ∧
      ∃ c e, e ≤ Xmodem.attempts ∧
        Xmodem.Wire.EotsOut D installFlags c e (sentBytes (xm.map Prod.snd)) := by
  obtain ⟨S, xm, hS, hw, rfl⟩ := h
  refine ⟨S, xm, hS, rfl, ?_⟩
  simpa [PortCall.sent, Xmodem.Wire.Written] using Xmodem.Wire.written_of_wire hw

end Session

end RadioFlash
