import RadioFlash.Proofs.XmodemSend
import RadioFlash.Proofs.PortControl
/-!
# How an XMODEM send fails

A sender only reads and writes on its link: it never reopens it, nor touches the break, RTS or
the reset line (`Transfer.tick_quiet`). So a session that runs a sender inside one of its steps
knows what that step can do to the link without looking into the transfer.

`Transfer.Moves` says once what one step of a sender can do, whatever its image source, one
constructor for each way through the step (`Transfer.step_moves`); the invariants of later
modules are read off it.

A tick that fails leaves the sender failed, having offered CAN CAN to the link
(`Transfer.tick_error_aborts`), and a failed sender's tick answers `cancelled` and touches
nothing (`Transfer.tick_failure`). Two failures come from outside the exchange: a buffer too
small for a packet stops the tick before anything is done (`Transfer.tick_cramped`), and an image
source that hands out part of a block while more follows fails the tick with a protocol error
(`Transfer.tick_short`).
-/

namespace RadioFlash

open RadioFlash.Action

/-- A deadline `d` milliseconds after `t` has passed at `now` exactly when `now` lies `d` to
`d + 2^31` milliseconds past `t` on the wrapping clock. -/
theorem Deadline.elapsed_arm_iff {t d now : Millis} (hd : d.toNat < 2147483648) :
    (Deadline.arm t d).elapsed now = true ↔
      d.toNat ≤ (now - t).toNat ∧ (now - t).toNat < d.toNat + 2147483648 := by
  have ht := UInt32.toNat_lt t
  have hn := UInt32.toNat_lt now
  simp only [Deadline.elapsed, Deadline.arm, timeReached, decide_eq_true_eq, UInt32.toNat_sub,
    UInt32.toNat_add]
  omega

namespace LoggedPort

/-- What a one-byte read takes from the link: the oldest byte waiting, if any. -/
def heard (l : LoggedPort) : List UInt8 := (l.rx.take 1).1

/-- The link after a one-byte read. -/
def readOne (l : LoggedPort) : LoggedPort :=
  { l with rx := (l.rx.take 1).2, log := l.log ++ [.read 1 l.heard] }

/-- The link after a write of `bs`, of which it takes as much as one write may. -/
def wrote (l : LoggedPort) (bs : List UInt8) : LoggedPort :=
  { l with log := l.log ++ [.write bs (taken l.writeChunk bs.length)] }

/-- A one-byte read hands over nothing or one byte. -/
theorem heard_cases (l : LoggedPort) : l.heard = [] ∨ ∃ b, l.heard = [b] :=
  ByteQueue.take_one_cases l.rx

/-- Reading a byte on a logged link answers the byte heard, if any. -/
theorem readByte_heard (l : LoggedPort) :
    (SerialLink.readByte : Action LoggedPort _).run l = (.ok l.heard.head?, l.readOne) := rfl

/-- A write on a logged link answers what it took. -/
theorem write_wrote (l : LoggedPort) (bs : List UInt8) :
    (SerialLink.write bs : Action LoggedPort _).run l = (.ok (taken l.writeChunk bs.length), l.wrote bs) := rfl

end LoggedPort

namespace Xmodem

namespace Transfer

/-- The link of a transfer, which sees only reads and writes: its log grows by calls none of
which is a control call, on the same clock and failing rates. -/
def linkFrame : RadioFlash.Frame (Transfer LoggedPort) where
  rel t t' := LoggedPort.quietFrame.rel t.port t'.port
  refl t := LoggedPort.quietFrame.refl t.port
  trans := LoggedPort.quietFrame.trans

section Quiet

variable {α : Type}

/-- Reading a byte makes no control call. -/
theorem readByte_quiet : Keeps LoggedPort.quietFrame (SerialLink.readByte : Action LoggedPort _) :=
  Keeps.bind (LoggedPort.read_quiet 1) fun _ => Keeps.pure _

/-- Draining makes no control call: it only reads. -/
theorem drain_quiet : Keeps LoggedPort.quietFrame (SerialLink.drain : Action LoggedPort _) := by
  rw [keeps_iff]
  intro l
  obtain ⟨n, q, calls, hrun, hcalls⟩ := LoggedPort.drain_run l
  rw [hrun]
  refine ⟨calls, rfl, ?_, rfl, rfl⟩
  rw [controls, List.filter_eq_nil_iff]
  intro c hc
  obtain ⟨got, rfl⟩ := hcalls c hc
  simp [PortCall.isControl]

/-- A link action without control calls keeps the transfer's link frame. -/
theorem onPort_quiet {m : Action LoggedPort α} (hm : Keeps LoggedPort.quietFrame m) :
    Keeps linkFrame (onPort m) :=
  Keeps.focus hm fun _ _ h => h

/-- An image action keeps the link frame. -/
theorem onSource_quiet (m : Action Source α) : Keeps linkFrame (onSource m) :=
  keeps_iff.mpr fun t => linkFrame.refl t

/-- A note keeps the link frame. -/
theorem say_quiet (level : Level) (text : String) :
    Keeps linkFrame (say level text : Action (Transfer LoggedPort) _) :=
  keeps_iff.mpr fun t => linkFrame.refl t

/-- A change that leaves the link keeps the link frame. -/
theorem modify_quiet {f : Transfer LoggedPort → Transfer LoggedPort} (hf : ∀ t, (f t).port = t.port) :
    Keeps linkFrame (modify f) :=
  Keeps.modify fun t => by
    show LoggedPort.quietFrame.rel t.port (f t).port
    rw [hf]
    exact LoggedPort.quietFrame.refl t.port

/-- A change of the sender keeps the link frame. -/
theorem update_quiet (f : Sender → Sender) :
    Keeps linkFrame (update f : Action (Transfer LoggedPort) _) :=
  modify_quiet fun _ => rfl

/-- Taking a start request keeps the link frame. -/
theorem acceptStart_quiet (b : UInt8) : Keeps linkFrame (acceptStart b : Action (Transfer LoggedPort) _) := by
  unfold acceptStart
  repeat' first
    | with_reducible exact Keeps.pure _
    | with_reducible exact Keeps.get
    | with_reducible exact say_quiet _ _
    | with_reducible exact update_quiet _
    | with_reducible apply Keeps.bind
    | intro _
    | split
    | dsimp only

/-- Filling the buffer keeps the link frame. -/
theorem fill_quiet (start : Nat) (bytes : Array UInt8) :
    Keeps linkFrame (fill start bytes : Action (Transfer LoggedPort) _) :=
  modify_quiet fun _ => rfl

/-- Assembling a packet keeps the link frame. -/
theorem assemble_quiet : Keeps linkFrame (assemble : Action (Transfer LoggedPort) _) := by
  unfold assemble
  repeat' first
    | with_reducible exact Keeps.pure _
    | with_reducible exact Keeps.throw _
    | with_reducible exact Keeps.get
    | with_reducible exact onSource_quiet _
    | with_reducible exact fill_quiet _ _
    | with_reducible apply Keeps.bind
    | intro _
    | split

/-- One step of a sender makes no control call. -/
theorem step_quiet (now : Millis) : Keeps linkFrame (step now : Action (Transfer LoggedPort) _) := by
  unfold step
  repeat' first
    | with_reducible exact Keeps.pure _
    | with_reducible exact Keeps.throw _
    | with_reducible exact Keeps.get
    | with_reducible exact say_quiet _ _
    | with_reducible exact update_quiet _
    | with_reducible exact acceptStart_quiet _
    | with_reducible exact assemble_quiet
    | with_reducible exact onPort_quiet drain_quiet
    | with_reducible exact onPort_quiet readByte_quiet
    | with_reducible exact onPort_quiet (LoggedPort.write_quiet _)
    | with_reducible apply Keeps.bind
    | intro _
    | split
    | dsimp only

/-- Giving up makes no control call. -/
theorem abort_quiet : Keeps linkFrame (abort : Action (Transfer LoggedPort) _) :=
  Keeps.bind (update_quiet _) fun _ =>
    Keeps.tryCatch (Keeps.bind (onPort_quiet (LoggedPort.write_quiet _)) fun _ => Keeps.pure _)
      fun _ => say_quiet _ _

/-- A run of sender steps makes no control call. -/
theorem steps_quiet (now : Millis) : ∀ n, Keeps linkFrame (steps now n : Action (Transfer LoggedPort) _)
  | 0 => Keeps.pure _
  | n + 1 => by
    unfold steps
    refine Keeps.bind (step_quiet now) fun a => ?_
    cases a with
    | goOn => exact steps_quiet now n
    | pause => exact Keeps.bind Keeps.get fun _ => Keeps.pure _

/-- A tick of a sender makes no control call on its link, and leaves its clock alone. -/
theorem tick_quiet (now : Millis) : Keeps linkFrame (tick now : Action (Transfer LoggedPort) _) := by
  unfold tick
  repeat' first
    | with_reducible exact Keeps.pure _
    | with_reducible exact Keeps.throw _
    | with_reducible exact Keeps.get
    | with_reducible exact Keeps.tryCatch (steps_quiet now 6) fun _ => Keeps.bind abort_quiet fun _ => Keeps.throw _
    | with_reducible apply Keeps.bind
    | intro _
    | split
    | dsimp only

end Quiet

/-! ## What one step can do -/

section Moves

variable {t t' : Transfer LoggedPort} {now : Millis} {r : Except Error Step}

/-- The rest of the copy going out: the buffer from the sender's offset to the packet's end. -/
def chunk (t : Transfer LoggedPort) : List UInt8 :=
  (t.buffer.extract t.sender.offset t.sender.packetSize).toList

/-- The bytes of the chunk that the link takes in one write. -/
def takes (t : Transfer LoggedPort) : Nat :=
  LoggedPort.taken t.port.writeChunk t.chunk.length

/-- Assembling a packet leaves the sender and the link alone, and the buffer its size. -/
def fillFrame : RadioFlash.Frame (Transfer LoggedPort) where
  rel t t' := t'.sender = t.sender ∧ t'.port = t.port ∧ t'.buffer.size = t.buffer.size
  refl _ := ⟨rfl, rfl, rfl⟩
  trans h₁ h₂ := ⟨h₂.1.trans h₁.1, h₂.2.1.trans h₁.2.1, h₂.2.2.trans h₁.2.2⟩

/-- An image action keeps the fill frame. -/
theorem onSource_fillFrame {α : Type} (m : Action Source α) : Keeps fillFrame (onSource m) :=
  keeps_iff.mpr fun _ => ⟨rfl, rfl, rfl⟩

/-- Filling the buffer keeps the fill frame. -/
theorem fill_fillFrame (start : Nat) (bytes : Array UInt8) :
    Keeps fillFrame (fill start bytes : Action (Transfer LoggedPort) _) :=
  keeps_iff.mpr fun t => ⟨rfl, rfl, size_fold_setIfInBounds start t.buffer _⟩

/-- Assembling a packet keeps the fill frame. -/
theorem assemble_fillFrame : Keeps fillFrame (assemble : Action (Transfer LoggedPort) _) := by
  unfold assemble
  repeat' first
    | with_reducible exact Keeps.pure _
    | with_reducible exact Keeps.throw _
    | with_reducible exact Keeps.get
    | with_reducible exact onSource_fillFrame _
    | with_reducible exact fill_fillFrame _ _
    | with_reducible apply Keeps.bind
    | intro _
    | split

/-- `assemble` changes the buffer, keeping its size, and the image's cursor, and nothing else. -/
theorem assemble_cases (t : Transfer LoggedPort) :
    ∃ r buf src, assemble.run t = (r, { t with buffer := buf, source := src }) ∧
      buf.size = t.buffer.size := by
  obtain ⟨hs, hp, hsize⟩ := keeps_iff.mp assemble_fillFrame t
  rcases hrun : assemble.run t with ⟨r, ⟨s', buf, src, p⟩⟩
  rw [hrun] at hs hp hsize
  dsimp only at hs hp hsize
  subst hs hp
  exact ⟨r, buf, src, rfl, hsize⟩

/-- What one step of a sender can do, one constructor for each way through `step`: the phase it
starts in, what it reads or writes, and where it leaves the sender. -/
inductive Moves (now : Millis) (t : Transfer LoggedPort) :
    Except Error Step → Transfer LoggedPort → Prop where
  /-- Stale input is drained, and the start request awaited. -/
  | flush {q : ByteQueue} {calls : List PortCall} (hph : t.sender.phase = .flush)
      (hcalls : ∀ c ∈ calls, ∃ got, c = .read 64 got) :
      Moves now t (.ok .goOn) { t with
        sender := { t.sender with phase := .start }
        port := { t.port with rx := q, log := t.port.log ++ calls } }
  /-- No start request: nothing, or another byte, is heard. -/
  | idleStart (hph : t.sender.phase = .start)
      (hno : ∀ b, t.port.heard = [b] → Wire.opened t.sender.flags b = none) :
      Moves now t (.ok .pause) { t with port := t.port.readOne }
  /-- The start request picks the trailer, and packet 1 is next. -/
  | accept {b : UInt8} {c : Check} (hph : t.sender.phase = .start) (hb : t.port.heard = [b])
      (hc : Wire.opened t.sender.flags b = some c) :
      Moves now t (.ok .goOn) { t with
        sender := { t.sender with check := some c, packetNum := 1, phase := .send }
        port := t.port.readOne }
  /-- The image is through: EOT is next, with its own three attempts. -/
  | finish {buf : Array UInt8} {src : Source} (hph : t.sender.phase = .send)
      (hsize : buf.size = t.buffer.size) :
      Moves now t (.ok .goOn) { t with
        sender := { t.sender with tries := attempts, phase := .eof }, buffer := buf, source := src }
  /-- The next packet is in the buffer and stale input drained: its first copy is next. -/
  | load {buf : Array UInt8} {src : Source} {q : ByteQueue} {calls : List PortCall}
      (hph : t.sender.phase = .send) (hsize : buf.size = t.buffer.size)
      (hcalls : ∀ c ∈ calls, ∃ got, c = .read 64 got) :
      Moves now t (.ok .goOn) { t with
        sender := { t.sender with tries := attempts, phase := .resend }, buffer := buf, source := src
        port := { t.port with rx := q, log := t.port.log ++ calls } }
  /-- The image could not be read into a packet. -/
  | broken {e : Error} {buf : Array UInt8} {src : Source} (hph : t.sender.phase = .send)
      (hsize : buf.size = t.buffer.size) :
      Moves now t (.error e) { t with
        sender := { t.sender with tries := attempts }, buffer := buf, source := src }
  /-- A copy begins, from the packet's first byte. -/
  | resend (hph : t.sender.phase = .resend) :
      Moves now t (.ok .goOn) { t with sender := { t.sender with offset := 0, phase := .sending } }
  /-- The rest of the copy is offered, and the link takes part of it. -/
  | write (hph : t.sender.phase = .sending)
      (hpart : t.sender.offset + t.takes ≠ t.sender.packetSize) :
      Moves now t (.ok .pause) { t with
        sender := { t.sender with offset := t.sender.offset + t.takes }
        port := t.port.wrote t.chunk }
  /-- The copy is through, and its ACK awaited for ten seconds. -/
  | written (hph : t.sender.phase = .sending)
      (hfull : t.sender.offset + t.takes = t.sender.packetSize) :
      Moves now t (.ok .pause) { t with
        sender := { t.sender with
          offset := t.sender.offset + t.takes
          deadline := Deadline.arm now ackTimeoutMs
          phase := .waitAck }
        port := t.port.wrote t.chunk }
  /-- ACK: the next packet. -/
  | acked (hph : t.sender.phase = .waitAck) (hb : t.port.heard = [ack]) :
      Moves now t (.ok .pause) { t with
        sender := { t.sender with packetNum := t.sender.packetNum + 1, phase := .send }
        port := t.port.readOne }
  /-- Nothing heard before the deadline, for a packet or for EOT. -/
  | idle (hph : t.sender.phase = .waitAck ∨ t.sender.phase = .finalAck) (hb : t.port.heard = [])
      (hd : t.sender.deadline.elapsed now = false) :
      Moves now t (.ok .pause) { t with port := t.port.readOne }
  /-- A copy failed: something other than ACK came, or nothing by the deadline. -/
  | retry {r : Except Error Step} {s' : Sender} (hph : t.sender.phase = .waitAck)
      (hb : (t.port.heard = [] ∧ t.sender.deadline.elapsed now = true) ∨
        ∃ b, t.port.heard = [b] ∧ b ≠ ack)
      (hfail : FailedAttempt t.sender .resend r s') :
      Moves now t r { t with sender := s', port := t.port.readOne }
  /-- EOT is offered, and its ACK awaited for three seconds. -/
  | offerEot (hph : t.sender.phase = .eof) :
      Moves now t (.ok .pause) { t with
        sender := { t.sender with deadline := Deadline.arm now eotTimeoutMs, phase := .finalAck }
        port := t.port.wrote [eot] }
  /-- ACK of EOT: the transfer is complete. -/
  | done (hph : t.sender.phase = .finalAck) (hb : t.port.heard = [ack]) :
      Moves now t (.ok .pause) { t with
        sender := { t.sender with phase := .success }, port := t.port.readOne }
  /-- An attempt at EOT failed. -/
  | reclose {r : Except Error Step} {s' : Sender} (hph : t.sender.phase = .finalAck)
      (hb : (t.port.heard = [] ∧ t.sender.deadline.elapsed now = true) ∨
        ∃ b, t.port.heard = [b] ∧ b ≠ ack)
      (hfail : FailedAttempt t.sender .eof r s') :
      Moves now t r { t with sender := s', port := t.port.readOne }
  /-- A finished sender, or a failed one, stays as it is. -/
  | rest (hph : t.sender.phase = .success ∨ t.sender.phase = .failure) : Moves now t (.ok .pause) t

/-- A step at Flush is one of the moves `Moves` lists: the note on what was dropped changes
nothing. -/
theorem flush_moves (hph : t.sender.phase = .flush) (h : (step now).run t = (r, t')) :
    Moves now t r t' := by
  obtain ⟨n, q, calls, hrun, hcalls⟩ := LoggedPort.drain_run t.port
  simp only [step, run_bind, run_get, hph, onPort_run, hrun] at h
  split at h <;> simp only [run_bind, say_run, update_run, run_pure, Prod.mk.injEq] at h <;>
    obtain ⟨rfl, rfl⟩ := h <;> exact .flush hph hcalls

/-- A step at Start is one of the moves `Moves` lists: any byte but a start request is passed
over. -/
theorem start_moves (hph : t.sender.phase = .start) (h : (step now).run t = (r, t')) :
    Moves now t r t' := by
  simp only [step, run_bind, run_get, hph, onPort_run, LoggedPort.readByte_heard] at h
  rcases t.port.heard_cases with hnone | ⟨b, hb⟩
  · -- nothing heard
    simp only [hnone, List.head?_nil, run_pure, Prod.mk.injEq] at h
    obtain ⟨rfl, rfl⟩ := h
    exact .idleStart hph fun b hb => by rw [hnone] at hb; cases hb
  · simp only [hb, List.head?_cons, run_bind, acceptStart_run, hph] at h
    cases hopen : Wire.opened t.sender.flags b with
    | none =>
      simp only [hopen] at h
      obtain ⟨rfl, rfl⟩ := h
      exact .idleStart hph fun b' hb' => by rw [hb] at hb'; cases hb'; exact hopen
    | some c =>
      simp only [hopen] at h
      obtain ⟨rfl, rfl⟩ := h
      exact .accept hph hb hopen

/-- A step at Send is one of the moves `Moves` lists. -/
theorem send_moves (hph : t.sender.phase = .send) (h : (step now).run t = (r, t')) :
    Moves now t r t' := by
  simp only [step, run_bind, run_get, hph] at h
  simp only [update_run] at h
  obtain ⟨r₁, buf, src, hrun, hsize⟩ :=
    assemble_cases { t with sender := { t.sender with tries := attempts } }
  rw [hrun] at h
  rcases r₁ with e | (_ | _)
  · -- the image could not be read
    obtain ⟨rfl, rfl⟩ := Prod.mk.inj h
    exact .broken hph hsize
  · -- the image is through
    simp only [Bool.not_false, if_true, run_bind, update_run, run_pure, Prod.mk.injEq] at h
    obtain ⟨rfl, rfl⟩ := h
    exact .finish hph hsize
  · obtain ⟨n, q, calls, hdrain, hcalls⟩ := LoggedPort.drain_run t.port
    simp only [Bool.not_true, Bool.false_eq_true, if_false, run_bind, onPort_run, hdrain, update_run,
      run_pure, Prod.mk.injEq] at h
    obtain ⟨rfl, rfl⟩ := h
    exact .load hph hsize hcalls

/-- A step at Resend is one of the moves `Moves` lists. -/
theorem resend_moves (hph : t.sender.phase = .resend) (h : (step now).run t = (r, t')) :
    Moves now t r t' := by
  simp only [step, run_bind, run_get, hph, update_run, run_pure, Prod.mk.injEq] at h
  obtain ⟨rfl, rfl⟩ := h
  exact .resend hph

/-- A step at Sending is one of the moves `Moves` lists. -/
theorem sending_moves (hph : t.sender.phase = .sending) (h : (step now).run t = (r, t')) :
    Moves now t r t' := by
  rw [step, run_bind, run_get] at h
  dsimp only at h
  rw [hph] at h
  simp only [run_bind, run_get, onPort_run, LoggedPort.write_wrote, update_run] at h
  split at h
  · next hfull =>
    simp only [run_bind, say_run, update_run, run_pure, Prod.mk.injEq] at h
    obtain ⟨rfl, rfl⟩ := h
    exact .written hph hfull
  · next hpart =>
    simp only [run_pure, Prod.mk.injEq] at h
    obtain ⟨rfl, rfl⟩ := h
    exact .write hph hpart

/-- A step at WaitAck is one of the moves `Moves` lists: an ACK, a NAK, a timeout or any other
byte. -/
theorem waitAck_moves (hph : t.sender.phase = .waitAck) (h : (step now).run t = (r, t')) :
    Moves now t r t' := by
  simp only [step, run_bind, run_get, hph, onPort_run, LoggedPort.readByte_heard] at h
  rcases t.port.heard_cases with hnone | ⟨b, hb⟩
  · simp only [hnone, List.head?_nil] at h
    split at h
    · next hd =>
      simp only [run_pure, Prod.mk.injEq] at h
      obtain ⟨rfl, rfl⟩ := h
      exact .idle (.inl hph) hnone (by simpa using hd)
    · next hd =>
      simp only [run_bind, say_run, ↓failedAttempt_run] at h
      obtain ⟨s', hfail, rfl⟩ := failedAttempt_of h
      exact .retry hph (.inl ⟨hnone, by simpa using hd⟩) hfail
  · simp only [hb, List.head?_cons] at h
    split at h
    · next hack =>
      simp only [say_run, run_bind, update_run, run_pure, Prod.mk.injEq] at h
      obtain ⟨rfl, rfl⟩ := h
      exact .acked hph (by rw [hb, hack])
    · next hack =>
      simp only [run_bind, say_run, ↓failedAttempt_run] at h
      obtain ⟨s', hfail, rfl⟩ := failedAttempt_of h
      exact .retry hph (.inr ⟨b, hb, hack⟩) hfail

/-- A step at Eof is one of the moves `Moves` lists: whether or not the link took EOT, its ACK
is awaited. -/
theorem eof_moves (hph : t.sender.phase = .eof) (h : (step now).run t = (r, t')) :
    Moves now t r t' := by
  simp only [step, run_bind, run_get, hph, onPort_run, LoggedPort.write_wrote] at h
  split at h <;> simp only [run_bind, say_run, update_run, run_pure, Prod.mk.injEq] at h <;>
    obtain ⟨rfl, rfl⟩ := h <;> exact .offerEot hph

/-- A step at FinalAck is one of the moves `Moves` lists: an ACK, a NAK, a timeout or any other
byte. -/
theorem finalAck_moves (hph : t.sender.phase = .finalAck) (h : (step now).run t = (r, t')) :
    Moves now t r t' := by
  simp only [step, run_bind, run_get, hph, onPort_run, LoggedPort.readByte_heard] at h
  rcases t.port.heard_cases with hnone | ⟨b, hb⟩
  · simp only [hnone, List.head?_nil] at h
    split at h
    · next hd =>
      simp only [run_pure, Prod.mk.injEq] at h
      obtain ⟨rfl, rfl⟩ := h
      exact .idle (.inr hph) hnone (by simpa using hd)
    · next hd =>
      simp only [run_bind, say_run, ↓failedAttempt_run] at h
      obtain ⟨s', hfail, rfl⟩ := failedAttempt_of h
      exact .reclose hph (.inl ⟨hnone, by simpa using hd⟩) hfail
  · simp only [hb, List.head?_cons] at h
    split at h
    · next hack =>
      simp only [say_run, run_bind, update_run, run_pure, Prod.mk.injEq] at h
      obtain ⟨rfl, rfl⟩ := h
      exact .done hph (by rw [hb, hack])
    · next hack =>
      simp only [run_bind, say_run, ↓failedAttempt_run] at h
      obtain ⟨s', hfail, rfl⟩ := failedAttempt_of h
      exact .reclose hph (.inr ⟨b, hb, hack⟩) hfail

/-- Every step is one of the moves. -/
theorem step_moves (h : (step now).run t = (r, t')) : Moves now t r t' := by
  cases hph : t.sender.phase
  case flush => exact flush_moves hph h
  case start => exact start_moves hph h
  case send => exact send_moves hph h
  case resend => exact resend_moves hph h
  case sending => exact sending_moves hph h
  case waitAck => exact waitAck_moves hph h
  case eof => exact eof_moves hph h
  case finalAck => exact finalAck_moves hph h
  all_goals
    simp only [step, run_bind, run_get, hph, run_pure, Prod.mk.injEq] at h
    obtain ⟨rfl, rfl⟩ := h
    exact .rest (by simp [hph])

end Moves

/-! ## What a tick does when a step fails -/

section Ticks

variable {t t' : Transfer LoggedPort} {now : Millis}

/-- The transfer once it gave up: failed, with CAN CAN offered to the link. -/
def aborted (t : Transfer LoggedPort) : Transfer LoggedPort :=
  { t with sender := { t.sender with phase := .failure }, port := t.port.wrote [can, can] }

/-- Giving up fails the sender and offers CAN CAN. -/
theorem abort_run (t : Transfer LoggedPort) : abort.run t = (.ok (), aborted t) := by
  simp only [abort, run_bind, update_run, run_tryCatch, onPort_run, LoggedPort.write_wrote, run_pure]
  rfl

/-- A run of steps takes one step and goes on only after one that goes on. -/
theorem steps_succ_run {π : Type} [SerialLink π] (n : Nat) (t : Transfer π) :
    (steps now (n + 1)).run t = match (step now).run t with
      | (.ok .goOn, t₁) => (steps now n).run t₁
      | (.ok .pause, t₁) => (.ok (if t₁.sender.phase = .success then .complete else .pending), t₁)
      | (.error e, t₁) => (.error e, t₁) := by
  rw [steps, run_bind]
  rcases (step now).run t with ⟨_ | (_ | _), t₁⟩ <;> rfl

/-- A finished sender answers `complete` and touches nothing. -/
theorem tick_success (hph : t.sender.phase = .success) : (tick now).run t = (.ok .complete, t) := by
  simp only [tick, run_bind, run_get, hph]
  rfl

/-- A failed sender stays failed: its tick answers `cancelled` and touches nothing, neither the
link nor the image. -/
theorem tick_failure (hph : t.sender.phase = .failure) : (tick now).run t = (.error .cancelled, t) := by
  simp only [tick, run_bind, run_get, hph, run_throw]

/-- Whatever its surroundings do, a failed sender stays failed, and each of its ticks answers
`cancelled` and changes nothing. -/
theorem reachable_of_failure (h₁ : t.sender.phase = .failure) (h : Reachable t t') :
    t'.sender.phase = .failure ∧ ∀ now, (tick now).run t' = (.error .cancelled, t') := by
  have hfailed : t'.sender.phase = .failure := by
    induction h with
    | start => exact h₁
    | tick _ ih =>
      rw [advance, tick_failure ih]
      exact ih
    | meet w _ ih => exact ih
  exact ⟨hfailed, fun _ => tick_failure hfailed⟩

/-- A running sender whose buffer cannot hold a packet with a CRC refuses to go on, and touches
nothing. The phase is neither of the two that answer at once. -/
theorem tick_cramped (hs : t.sender.phase ≠ .success) (hf : t.sender.phase ≠ .failure)
    (hsmall : t.buffer.size < 3 + t.sender.blockBytes + 2) :
    (tick now).run t = (.error (.invalidState
      s!"XMODEM buffer of {t.buffer.size} bytes cannot hold a {t.sender.blockBytes}-byte block"), t) := by
  simp only [tick, run_bind, run_get]
  rw [if_pos hsmall]
  simp only [run_bind, run_throw]

/-- Whatever its surroundings do, a running sender without room for a packet keeps its state and
its buffer: every tick refuses as `tick_cramped` says. -/
theorem reachable_of_cramped (hs : t.sender.phase ≠ .success) (hf : t.sender.phase ≠ .failure)
    (hsmall : t.buffer.size < 3 + t.sender.blockBytes + 2) (h : Reachable t t') :
    t'.sender = t.sender ∧ t'.buffer = t.buffer := by
  induction h with
  | start => exact ⟨rfl, rfl⟩
  | @tick u _ ih =>
    have hs' : u.sender.phase ≠ .success := by rw [ih.1]; exact hs
    have hf' : u.sender.phase ≠ .failure := by rw [ih.1]; exact hf
    have hsmall' : u.buffer.size < 3 + u.sender.blockBytes + 2 := by rw [ih.1, ih.2]; exact hsmall
    rw [advance, tick_cramped hs' hf' hsmall']
    exact ih
  | meet w _ ih => exact ih

/-- A tick of a running sender with room for a packet runs its steps, and gives up if one of
them fails. -/
theorem tick_live (hs : t.sender.phase ≠ .success) (hf : t.sender.phase ≠ .failure)
    (hroom : 3 + t.sender.blockBytes + 2 ≤ t.buffer.size) :
    (tick now).run t = match (steps now 6).run t with
      | (.ok a, t₁) => (.ok a, t₁)
      | (.error e, t₁) => (.error e, aborted t₁) := by
  simp only [tick, run_bind, run_get]
  rw [if_neg (Nat.not_lt.mpr hroom), run_tryCatch]
  rcases (steps now 6).run t with ⟨_ | a, t₁⟩
  · simp only [run_bind, abort_run, run_throw]
  · rfl

/-- Every error of a tick leaves the sender failed. Either it had failed before, and the tick
changed nothing, or the tick made its calls and then offered CAN CAN to the link. -/
theorem tick_error_aborts {e : Error} (hroom : 3 + t.sender.blockBytes + 2 ≤ t.buffer.size)
    (h : (tick now).run t = (.error e, t')) :
    t'.sender.phase = .failure ∧
      ((t.sender.phase = .failure ∧ e = .cancelled ∧ t' = t) ∨
        ∃ calls, t'.port.log =
          t.port.log ++ calls ++ [.write [can, can] (LoggedPort.taken t'.port.writeChunk 2)]) := by
  by_cases hs : t.sender.phase = .success
  · rw [tick_success hs] at h
    cases h
  by_cases hf : t.sender.phase = .failure
  · rw [tick_failure hf, Prod.mk.injEq] at h
    obtain ⟨⟨⟩, rfl⟩ := h
    exact ⟨hf, .inl ⟨hf, rfl, rfl⟩⟩
  rw [tick_live hs hf hroom] at h
  obtain ⟨calls, hlog, -⟩ := keeps_iff.mp (steps_quiet now 6) t
  rcases hrun : (steps now 6).run t with ⟨_ | a, t₁⟩ <;> rw [hrun] at h hlog
  · -- a step failed: the sender gave up
    obtain ⟨⟨⟩, rfl⟩ := Prod.mk.inj h
    dsimp only at hlog
    exact ⟨rfl, .inr ⟨calls, by simp [aborted, LoggedPort.wrote, hlog]⟩⟩
  · cases h

end Ticks

/-! ## A short read -/

section ShortRead

variable {t : Transfer LoggedPort} {now : Millis}

/-- After a read that stopped short of what is left, a read of one more byte hands one out. -/
theorem Source.grant_one_after {s : Source} {n : Nat} (hpos : 0 < s.grant n)
    (hmore : s.grant n < s.remaining) : 0 < ({ s with pos := s.pos + s.grant n } : Source).grant 1 := by
  unfold Source.grant Source.remaining at *
  cases hlim : s.readLimit with
  | none => simp only [hlim, Option.elim] at hpos hmore ⊢; omega
  | some c => simp only [hlim, Option.elim] at hpos hmore ⊢; omega

/-- `assemble` on a cursor that hands out some bytes of a block, but not all, while more of the
image follows, fails with a protocol error that says how many came. The probe hands out a byte: the
image goes on. -/
theorem assemble_short (hpos : 0 < t.source.grant t.sender.blockBytes)
    (hshort : t.source.grant t.sender.blockBytes < t.sender.blockBytes)
    (hmore : t.source.grant t.sender.blockBytes < t.source.remaining) :
    ∃ u, assemble.run t = (.error (.protocol s!"firmware source returned {t.source.grant t.sender.blockBytes} of {t.sender.blockBytes} bytes before end of image"), u) := by
  have hsize : (t.source.data.extract t.source.pos
      (t.source.pos + t.source.grant t.sender.blockBytes)).size = t.source.grant t.sender.blockBytes := by
    have hle := Source.grant_le_remaining t.source t.sender.blockBytes
    unfold Source.remaining at hle
    rw [Array.size_extract]
    omega
  have hprobe := Source.grant_one_after hpos hmore
  simp only [assemble, run_bind, run_get, onSource_run, Source.read_run, hsize]
  rw [if_neg (Nat.pos_iff_ne_zero.mp hpos), run_bind, fill_run]
  dsimp only
  rw [if_pos hshort, run_bind, onSource_run, Source.read_run]
  dsimp only
  have hle := Source.grant_le_remaining
    ({ t.source with pos := t.source.pos + t.source.grant t.sender.blockBytes } : Source) 1
  unfold Source.remaining at hle
  rw [if_pos (by rw [Array.size_extract]; dsimp only at hle hprobe ⊢; omega), run_bind, run_throw]
  exact ⟨_, rfl⟩

/-- A tick that assembles a packet from a short read, while the image goes on, fails with a
protocol error that says how many bytes came, and the sender gives up. -/
theorem tick_short (hph : t.sender.phase = .send) (hroom : 3 + t.sender.blockBytes + 2 ≤ t.buffer.size)
    (hpos : 0 < t.source.grant t.sender.blockBytes)
    (hshort : t.source.grant t.sender.blockBytes < t.sender.blockBytes)
    (hmore : t.source.grant t.sender.blockBytes < t.source.remaining) :
    ∃ u, (tick now).run t = (.error (.protocol s!"firmware source returned {t.source.grant t.sender.blockBytes} of {t.sender.blockBytes} bytes before end of image"), aborted u) := by
  obtain ⟨u, hu⟩ :=
    assemble_short (t := { t with sender := { t.sender with tries := attempts } }) hpos hshort hmore
  dsimp only at hu
  have hstep : (step now).run t = (.error (.protocol s!"firmware source returned {t.source.grant t.sender.blockBytes} of {t.sender.blockBytes} bytes before end of image"), u) := by
    simp only [step, run_bind, run_get, hph]
    simp only [update_run]
    rw [hu]
    rfl
  refine ⟨u, ?_⟩
  rw [tick_live (by rw [hph]; decide) (by rw [hph]; decide) hroom, show (6 : Nat) = 5 + 1 from rfl,
    steps_succ_run, hstep]

end ShortRead

end Transfer

end Xmodem

end RadioFlash
