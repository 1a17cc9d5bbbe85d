import RadioFlash.Proofs.XmodemWire
import RadioFlash.Install.Session
/-!
# The logged link answers as the bench link does

The proofs watch an engine through `LoggedPort`, which keeps a log of every call; the program's
own scripted link is `BenchPort`. Both are seen here through what their far end shows, a
`LinkView`: the bytes waiting, the clock, the room in the transmitter, how much one write takes,
the rates that fail to open and the rate in use, with the bytes sent and the rates tried so far.
Every call on either link answers as `LinkCall.step` says on its view and leaves the view that
step gives (`LoggedPort.run_view`, `BenchPort.run_view`), so two links that show the same view
answer every call alike and go on showing the same view (`LoggedPort.answers_as_bench`).

`Action.Alike R m₁ m₂` says that from states related by `R` the two actions give the same answer
and leave related states. It is closed under the monad's operations, so it is carried from the
link calls through each engine by following the engine's own code: a relation between two links
that every call respects (`LinkSim`) is respected by every step of the command-mode engine, of the
XMODEM sender and of an install session. For the log and the bench that makes an install session
tick the same on both, answer for answer (`Session.tick_as_bench`). Every bench link has a logged
twin that shows its view (`BenchPort.logged`), so whatever the proofs show of a session on the
logged link holds of the answers the same session gives on the bench link
(`Session.tick_answers_as_logged_twin`).
-/

namespace RadioFlash

namespace Action

variable {σ τ σ' τ' α β : Type}

/-- From states related by `R`, `m₁` and `m₂` give the same answer and leave related states. -/
@[irreducible] def Alike (R : σ → τ → Prop) (m₁ : Action σ α) (m₂ : Action τ α) : Prop :=
  ∀ s₁ s₂, R s₁ s₂ → (m₁.run s₁).1 = (m₂.run s₂).1 ∧ R (m₁.run s₁).2 (m₂.run s₂).2

/-- `Alike` read as what it says of the two runs. -/
theorem alike_iff {R : σ → τ → Prop} {m₁ : Action σ α} {m₂ : Action τ α} :
    Alike R m₁ m₂ ↔
      ∀ s₁ s₂, R s₁ s₂ → (m₁.run s₁).1 = (m₂.run s₂).1 ∧ R (m₁.run s₁).2 (m₂.run s₂).2 := by
  unfold Alike
  exact Iff.rfl

namespace Alike

variable {R : σ → τ → Prop}

/-- Answering a value changes nothing. -/
theorem pure (a : α) : Alike R (Pure.pure a) (Pure.pure a) := alike_iff.mpr fun _ _ h => ⟨rfl, h⟩

/-- Failing with an error changes nothing. -/
theorem throw (e : Error) : Alike R (MonadExcept.throw e : Action σ α) (MonadExcept.throw e) :=
  alike_iff.mpr fun _ _ h => ⟨rfl, h⟩

/-- Failing stops a sequence, whatever would have followed. -/
theorem throw_bind (e : Error) (k₁ : α → Action σ β) (k₂ : α → Action τ β) :
    Alike R (MonadExcept.throw e >>= k₁) (MonadExcept.throw e >>= k₂) :=
  alike_iff.mpr fun _ _ h => ⟨rfl, h⟩

/-- Any action is alike to itself under equality. -/
theorem refl (m : Action σ α) : Alike Eq m m :=
  alike_iff.mpr fun _ _ h => h ▸ ⟨rfl, rfl⟩

/-- Sequencing alike actions with continuations alike at every answer. -/
theorem bind {m₁ : Action σ α} {m₂ : Action τ α} {f₁ : α → Action σ β} {f₂ : α → Action τ β}
    (hm : Alike R m₁ m₂) (hf : ∀ a, Alike R (f₁ a) (f₂ a)) : Alike R (m₁ >>= f₁) (m₂ >>= f₂) := by
  rw [alike_iff] at hm ⊢
  intro s₁ s₂ hs
  have hstep := hm s₁ s₂ hs
  rw [run_bind, run_bind]
  rcases h₁ : m₁.run s₁ with ⟨r, s₁'⟩
  rcases h₂ : m₂.run s₂ with ⟨r', s₂'⟩
  rw [h₁, h₂] at hstep
  obtain ⟨rfl, hs'⟩ := hstep
  cases r with
  | error e => exact ⟨rfl, hs'⟩
  | ok a => exact alike_iff.mp (hf a) s₁' s₂' hs'

/-- Reading the state: the continuations need only be alike from the related states read. -/
theorem get_bind {f₁ : σ → Action σ β} {f₂ : τ → Action τ β}
    (h : ∀ s₁ s₂, R s₁ s₂ → Alike R (f₁ s₁) (f₂ s₂)) : Alike R (get >>= f₁) (get >>= f₂) := by
  rw [alike_iff]
  intro s₁ s₂ hs
  rw [run_bind, run_bind]
  exact alike_iff.mp (h s₁ s₂ hs) s₁ s₂ hs

/-- Changing the states by maps that keep them related. -/
theorem modify {f₁ : σ → σ} {f₂ : τ → τ} (h : ∀ s₁ s₂, R s₁ s₂ → R (f₁ s₁) (f₂ s₂)) :
    Alike R (modify f₁ : Action σ PUnit) (modify f₂) :=
  alike_iff.mpr fun s₁ s₂ hs => ⟨rfl, h s₁ s₂ hs⟩

/-- Branching on one condition into alike branches. -/
theorem ite {c : Prop} [Decidable c] {a₁ b₁ : Action σ α} {a₂ b₂ : Action τ α}
    (ha : c → Alike R a₁ a₂) (hb : ¬ c → Alike R b₁ b₂) :
    Alike R (if c then a₁ else b₁) (if c then a₂ else b₂) := by
  by_cases h : c
  · rw [if_pos h, if_pos h]
    exact ha h
  · rw [if_neg h, if_neg h]
    exact hb h

/-- Catching the errors of alike actions with alike handlers. -/
theorem tryCatch {m₁ : Action σ α} {m₂ : Action τ α} {h₁ : Error → Action σ α}
    {h₂ : Error → Action τ α} (hm : Alike R m₁ m₂) (hh : ∀ e, Alike R (h₁ e) (h₂ e)) :
    Alike R (MonadExcept.tryCatch m₁ h₁) (MonadExcept.tryCatch m₂ h₂) := by
  rw [alike_iff] at hm ⊢
  intro s₁ s₂ hs
  have hstep := hm s₁ s₂ hs
  rw [run_tryCatch, run_tryCatch]
  rcases e₁ : m₁.run s₁ with ⟨r, s₁'⟩
  rcases e₂ : m₂.run s₂ with ⟨r', s₂'⟩
  rw [e₁, e₂] at hstep
  obtain ⟨rfl, hs'⟩ := hstep
  cases r with
  | error e => exact alike_iff.mp (hh e) s₁' s₂' hs'
  | ok a => exact ⟨rfl, hs'⟩

/-- Running alike actions on related parts of related states, put back related. -/
theorem focus {R' : σ' → τ' → Prop} {g₁ : σ → σ'} {p₁ : σ' → σ → σ} {g₂ : τ → τ'}
    {p₂ : τ' → τ → τ} {m₁ : Action σ' α} {m₂ : Action τ' α} (hm : Alike R' m₁ m₂)
    (hg : ∀ s₁ s₂, R s₁ s₂ → R' (g₁ s₁) (g₂ s₂))
    (hp : ∀ s₁ s₂ t₁ t₂, R s₁ s₂ → R' t₁ t₂ → R (p₁ t₁ s₁) (p₂ t₂ s₂)) :
    Alike R (Action.focus g₁ p₁ m₁) (Action.focus g₂ p₂ m₂) := by
  rw [alike_iff]
  intro s₁ s₂ hs
  obtain ⟨hr, hs'⟩ := alike_iff.mp hm _ _ (hg s₁ s₂ hs)
  exact ⟨hr, hp _ _ _ _ hs hs'⟩

end Alike

end Action

open RadioFlash.Action

namespace PortCall

/-- The rate a call tried to open at. -/
def openRate : PortCall → Option UInt32
  | .reopen b => some b
  | _ => none

end PortCall

/-- The rates of every open a log tried, in order. -/
def openRates (log : List PortCall) : List UInt32 := log.filterMap PortCall.openRate

/-- An empty log tried no rate. -/
@[simp] theorem openRates_nil : openRates [] = [] := rfl

/-- A log's rates are those of its first call, then those of the rest. -/
@[simp] theorem openRates_cons (c : PortCall) (log : List PortCall) :
    openRates (c :: log) = c.openRate.toList ++ openRates log := by
  cases h : c.openRate <;> simp [openRates, h]

/-- The rates of two logs run one after the other. -/
@[simp] theorem openRates_append (l m : List PortCall) :
    openRates (l ++ m) = openRates l ++ openRates m :=
  List.filterMap_append

/-- What a link shows its far end: the bytes waiting, the clock, the room in the transmitter,
how much one write takes, the rates that fail to open and the rate in use; and what it keeps of
its own calls: the bytes it sent and the rates it tried to open. -/
structure LinkView where
  rx : List UInt8
  now : Millis
  txCapacity : Nat
  writeChunk : Option Nat
  failBauds : List UInt32
  baud : UInt32
  sent : List UInt8
  opened : List UInt32

/-- What a logged link shows, its log read for the bytes sent and the rates tried. -/
def LoggedPort.view (l : LoggedPort) : LinkView :=
  ⟨l.rx.toList, l.now, l.txCapacity, l.writeChunk, l.failBauds, l.baud, sentBytes l.log,
    openRates l.log⟩

/-- What a bench link shows, with the bytes it collected and the rates it was opened at. -/
def BenchPort.view (p : BenchPort) : LinkView :=
  ⟨p.rx.toList, p.now, p.txCapacity, p.writeChunk, p.failBauds, p.baud, p.written, p.opens.toList⟩

/-- A call on a serial link, with its arguments. -/
inductive LinkCall where
  | read (n : Nat)
  | write (bs : List UInt8)
  | reopen (baud : UInt32)
  | flowControl (on : Bool)
  | setBreak (on : Bool)
  | setRts (on : Bool)
  | setReset (asserted : Bool)
  | flushRx
  | rxAvailable
  | txFree
  | close

namespace LinkCall

/-- What a call answers. -/
@[reducible] def Answer : LinkCall → Type
  | read _ => List UInt8
  | write _ | rxAvailable | txFree => Nat
  | _ => Unit

/-- Make the call on a link. -/
def run {π : Type} [SerialLink π] : (c : LinkCall) → Action π c.Answer
  | read n => SerialLink.read n
  | write bs => SerialLink.write bs
  | reopen b => SerialLink.reopen b
  | flowControl on => SerialLink.setFlowControl on
  | setBreak on => SerialLink.setBreak on
  | setRts on => SerialLink.setRts on
  | setReset a => SerialLink.setReset a
  | flushRx => SerialLink.flushRx
  | rxAvailable => SerialLink.rxAvailable
  | txFree => SerialLink.txFree
  | close => SerialLink.close

/-- The call as the far end sees it: its answer and the view it leaves. -/
def step : (c : LinkCall) → LinkView → Except Error c.Answer × LinkView
  | read n, v => (.ok (v.rx.take n), { v with rx := v.rx.drop n })
  | write bs, v =>
    (.ok (LoggedPort.taken v.writeChunk bs.length),
      { v with sent := v.sent ++ bs.take (LoggedPort.taken v.writeChunk bs.length) })
  | reopen b, v =>
    if b ∈ v.failBauds then (.error (.io s!"cannot open at {b}"), { v with opened := v.opened ++ [b] })
    else (.ok (), { v with baud := b, opened := v.opened ++ [b] })
  | flowControl _, v | setBreak _, v | setRts _, v | setReset _, v | close, v => (.ok (), v)
  | flushRx, v => (.ok (), { v with rx := [] })
  | rxAvailable, v => (.ok v.rx.length, v)
  | txFree, v => (.ok v.txCapacity, v)

end LinkCall

namespace BenchPort

variable (p : BenchPort)

/-- A bench read hands over the first `n` bytes waiting. -/
@[simp] theorem read_run (n : Nat) :
    (SerialLink.read n : Action BenchPort _).run p =
      (.ok (p.rx.take n).1, { p with rx := (p.rx.take n).2 }) :=
  rfl

/-- A bench write takes what one write allows and collects it. -/
@[simp] theorem write_run (bs : List UInt8) :
    (SerialLink.write bs : Action BenchPort _).run p =
      (.ok (LoggedPort.taken p.writeChunk bs.length),
        { p with txNewestFirst :=
            (bs.take (LoggedPort.taken p.writeChunk bs.length)).reverse ++ p.txNewestFirst }) :=
  rfl

/-- Opening records the rate, then fails at a listed rate; otherwise it drops the break and flow
control. -/
theorem reopen_run (b : UInt32) :
    (SerialLink.reopen b : Action BenchPort _).run p =
      if b ∈ p.failBauds then (.error (.io s!"cannot open at {b}"), { p with opens := p.opens.push b })
      else (.ok (), { p with opens := p.opens.push b, baud := b, breakOn := false, flow := false }) := by
  show (openAt b).run p = _
  by_cases h : b ∈ p.failBauds <;> simp [openAt, Action.run_bind, h]

/-- Flow control on a bench link is a flag. -/
@[simp] theorem setFlowControl_run (on : Bool) :
    (SerialLink.setFlowControl on : Action BenchPort _).run p = (.ok (), { p with flow := on }) :=
  rfl

/-- Raising the break counts a rising edge. -/
@[simp] theorem setBreak_run (on : Bool) :
    (SerialLink.setBreak on : Action BenchPort _).run p =
      (.ok (), { p with breaks := if on && !p.breakOn then p.breaks + 1 else p.breaks, breakOn := on }) :=
  rfl

/-- RTS on a bench link is a flag. -/
@[simp] theorem setRts_run (on : Bool) :
    (SerialLink.setRts on : Action BenchPort _).run p = (.ok (), { p with rts := on }) := rfl

/-- Releasing an asserted reset line counts a pulse. -/
@[simp] theorem setReset_run (a : Bool) :
    (SerialLink.setReset a : Action BenchPort _).run p =
      (.ok (), { p with
        resetPulses := if p.resetAsserted && !a then p.resetPulses + 1 else p.resetPulses,
        resetAsserted := a }) :=
  rfl

/-- Flushing drops every byte waiting. -/
@[simp] theorem flushRx_run :
    (SerialLink.flushRx : Action BenchPort _).run p = (.ok (), { p with rx := {} }) := rfl

/-- A bench link reports the bytes waiting. -/
@[simp] theorem rxAvailable_run :
    (SerialLink.rxAvailable : Action BenchPort _).run p = (.ok p.rx.size, p) := rfl

/-- A bench link reports the room in its transmitter. -/
@[simp] theorem txFree_run :
    (SerialLink.txFree : Action BenchPort _).run p = (.ok p.txCapacity, p) := rfl

/-- Closing a bench link changes nothing. -/
@[simp] theorem close_run : (SerialLink.close : Action BenchPort _).run p = (.ok (), p) := rfl

/-- Every call on a bench link answers as its far end sees it and leaves the view it says. -/
theorem run_view (c : LinkCall) :
    ((c.run : Action BenchPort c.Answer).run p).1 = (c.step p.view).1 ∧
      ((c.run : Action BenchPort c.Answer).run p).2.view = (c.step p.view).2 := by
  cases c with
  | reopen b =>
    simp only [LinkCall.run, LinkCall.step, reopen_run]
    by_cases hb : b ∈ p.failBauds <;> simp [view, written, hb]
  | read n => simp [LinkCall.run, LinkCall.step, view, written, ByteQueue.take_fst, ByteQueue.take_snd]
  | _ => simp [LinkCall.run, LinkCall.step, view, written, ByteQueue.size_eq_length, ByteQueue.toList]

end BenchPort

namespace LoggedPort

/-- Closing a logged link only logs the close. -/
@[simp] theorem close_run (l : LoggedPort) :
    (SerialLink.close : Action LoggedPort _).run l = (.ok (), { l with log := l.log ++ [.close] }) :=
  rfl

/-- Every call on a logged link answers as its far end sees it and leaves the view it says. -/
theorem run_view (c : LinkCall) (l : LoggedPort) :
    ((c.run : Action LoggedPort c.Answer).run l).1 = (c.step l.view).1 ∧
      ((c.run : Action LoggedPort c.Answer).run l).2.view = (c.step l.view).2 := by
  cases c with
  | reopen b =>
    simp only [LinkCall.run, LinkCall.step, reopen_run]
    by_cases hb : b ∈ l.failBauds <;> simp [view, hb, PortCall.sent, PortCall.openRate]
  | read n =>
    simp [LinkCall.run, LinkCall.step, view, ByteQueue.take_fst, ByteQueue.take_snd, PortCall.sent,
      PortCall.openRate]
  | _ =>
    simp [LinkCall.run, LinkCall.step, view, ByteQueue.size_eq_length, ByteQueue.toList,
      PortCall.sent, PortCall.openRate]

/-- A logged link and a bench link that show the same view. -/
def Mirrors (l : LoggedPort) (p : BenchPort) : Prop := l.view = p.view

/-- A logged link answers every call as a bench link showing the same view, and the two go on
showing the same view. -/
theorem answers_as_bench (c : LinkCall) :
    Alike Mirrors (c.run : Action LoggedPort c.Answer) (c.run : Action BenchPort c.Answer) := by
  rw [alike_iff]
  intro l p h
  obtain ⟨hl₁, hl₂⟩ := run_view c l
  obtain ⟨hp₁, hp₂⟩ := BenchPort.run_view p c
  unfold Mirrors at h ⊢
  rw [hl₁, hp₁, hl₂, hp₂, h]
  exact ⟨rfl, rfl⟩

end LoggedPort

/-- The logged link that shows what a bench link shows: its log holds the bench link's opens,
then one write of every byte the bench link collected. -/
def BenchPort.logged (p : BenchPort) : LoggedPort :=
  { rx := p.rx, now := p.now, txCapacity := p.txCapacity, writeChunk := p.writeChunk,
    failBauds := p.failBauds, baud := p.baud,
    log := p.opens.toList.map .reopen ++ [.write p.written p.written.length] }

/-- Every bench link has a logged twin that mirrors it. -/
theorem BenchPort.logged_mirrors (p : BenchPort) : LoggedPort.Mirrors p.logged p := by
  have hsent : sentBytes (p.opens.toList.map .reopen) = [] := by
    induction p.opens.toList with
    | nil => rfl
    | cons b bs ih => simpa [PortCall.sent] using ih
  have hopened : openRates (p.opens.toList.map .reopen) = p.opens.toList := by
    induction p.opens.toList with
    | nil => rfl
    | cons b bs ih => simpa [PortCall.openRate] using ih
  simp only [LoggedPort.Mirrors, LoggedPort.view, BenchPort.view, BenchPort.logged, sentBytes_append,
    hsent, openRates_append, hopened]
  simp [PortCall.sent, PortCall.openRate]

/-- A relation between the states of two links that every call respects: related links answer
every call alike and stay related, keep related through a note, and show the same clock and the
same count of bytes waiting. -/
structure LinkSim {π π₂ : Type} [SerialLink π] [SerialLink π₂] (R : π → π₂ → Prop) : Prop where
  call : ∀ c : LinkCall, Alike R (c.run : Action π c.Answer) (c.run : Action π₂ c.Answer)
  note : ∀ n l p, R l p → R (SerialLink.note n l) (SerialLink.note n p)
  millis : ∀ l p, R l p → SerialLink.millis p = SerialLink.millis l
  pending : ∀ l p, R l p → SerialLink.pending p = SerialLink.pending l

/-- Showing the same view is a relation that every call respects. -/
theorem LoggedPort.mirrors_linkSim : LinkSim LoggedPort.Mirrors where
  call := LoggedPort.answers_as_bench
  note _ _ _ h := h
  millis _ _ h := (congrArg LinkView.now h).symm
  pending l p h := by
    show p.rx.size = l.rx.size
    rw [ByteQueue.size_eq_length, ByteQueue.size_eq_length]
    exact (congrArg (fun v => v.rx.length) h).symm

namespace LinkSim

variable {π π₂ : Type} [SerialLink π] [SerialLink π₂] {R : π → π₂ → Prop} (hR : LinkSim R)
include hR

/-- Reads answer alike on related links. -/
theorem read (n : Nat) : Alike R (SerialLink.read n : Action π _) (SerialLink.read n) :=
  hR.call (.read n)

/-- Writes answer alike on related links. -/
theorem write (bs : List UInt8) : Alike R (SerialLink.write bs : Action π _) (SerialLink.write bs) :=
  hR.call (.write bs)

/-- Opens answer alike on related links. -/
theorem reopen (b : UInt32) : Alike R (SerialLink.reopen b : Action π _) (SerialLink.reopen b) :=
  hR.call (.reopen b)

/-- Flow control answers alike on related links. -/
theorem setFlowControl (on : Bool) :
    Alike R (SerialLink.setFlowControl on : Action π _) (SerialLink.setFlowControl on) :=
  hR.call (.flowControl on)

/-- The break answers alike on related links. -/
theorem setBreak (on : Bool) : Alike R (SerialLink.setBreak on : Action π _) (SerialLink.setBreak on) :=
  hR.call (.setBreak on)

/-- RTS answers alike on related links. -/
theorem setRts (on : Bool) : Alike R (SerialLink.setRts on : Action π _) (SerialLink.setRts on) :=
  hR.call (.setRts on)

/-- The reset line answers alike on related links. -/
theorem setReset (a : Bool) : Alike R (SerialLink.setReset a : Action π _) (SerialLink.setReset a) :=
  hR.call (.setReset a)

/-- Flushing answers alike on related links. -/
theorem flushRx : Alike R (SerialLink.flushRx : Action π _) SerialLink.flushRx := hR.call .flushRx

/-- The count of bytes waiting answers alike on related links. -/
theorem rxAvailable : Alike R (SerialLink.rxAvailable : Action π _) SerialLink.rxAvailable :=
  hR.call .rxAvailable

/-- The room in the transmitter answers alike on related links. -/
theorem txFree : Alike R (SerialLink.txFree : Action π _) SerialLink.txFree := hR.call .txFree

/-- Recording a note keeps related links related. -/
theorem say (level : Level) (origin text : String) :
    Alike R (SerialLink.say level origin text : Action π _) (SerialLink.say level origin text) :=
  Alike.modify fun l p h => hR.note _ l p h

/-- Reading one byte answers alike. -/
theorem readByte : Alike R (SerialLink.readByte : Action π _) SerialLink.readByte :=
  Alike.bind (hR.read 1) fun _ => Alike.pure _

/-- Writing one byte answers alike, failing alike when the link takes nothing. -/
theorem writeByte (b : UInt8) : Alike R (SerialLink.writeByte b : Action π _) (SerialLink.writeByte b) :=
  Alike.bind (hR.write _) fun _ => Alike.ite (fun _ => Alike.throw _) fun _ => Alike.pure _

/-- Reading in pieces until a read comes back empty answers alike, for any bound on the pieces. -/
theorem drainWith : ∀ fuel total,
    Alike R (SerialLink.drainWith fuel total : Action π _) (SerialLink.drainWith fuel total)
  | 0, _ => Alike.pure _
  | fuel + 1, _ =>
    Alike.bind (hR.read 64) fun _ => Alike.ite (fun _ => Alike.pure _) fun _ => drainWith fuel _

/-- Draining answers alike: related links hold the same count of bytes to bound it. -/
theorem drain : Alike R (SerialLink.drain : Action π _) SerialLink.drain := by
  unfold SerialLink.drain
  refine Alike.get_bind fun l p h => ?_
  rw [hR.pending l p h]
  exact hR.drainWith _ _

/-- Pulsing the reset line answers alike. -/
theorem pulseReset : Alike R (SerialLink.pulseReset : Action π _) SerialLink.pulseReset :=
  Alike.bind (hR.setReset true) fun _ => hR.setReset false

end LinkSim

namespace Target

variable {π π₂ : Type}

/-- The same target on another link. -/
def withPort (t : Target π) (p : π₂) : Target π₂ :=
  { port := p, config := t.config, mode := t.mode, modeTimer := t.modeTimer }

/-- A target moved to another link runs on that link. -/
@[simp] theorem withPort_port (t : Target π) (p : π₂) : (t.withPort p).port = p := rfl

/-- A target moved to another link keeps its settings. -/
@[simp] theorem withPort_config (t : Target π) (p : π₂) : (t.withPort p).config = t.config := rfl

/-- A target moved to another link keeps its mode. -/
@[simp] theorem withPort_mode (t : Target π) (p : π₂) : (t.withPort p).mode = t.mode := rfl

/-- A target's mode timer does not depend on its link. -/
@[simp] theorem waited_withPort (t : Target π) (p : π₂) : (t.withPort p).waited = t.waited := rfl

/-- Two targets alike but for their links, which are related by `R`. -/
def Along (R : π → π₂ → Prop) (t₁ : Target π) (t₂ : Target π₂) : Prop :=
  ∃ p, t₂ = t₁.withPort p ∧ R t₁.port p

variable {R : π → π₂ → Prop} {α : Type}

/-- A link action on the targets' links. -/
theorem onPort_alike {m₁ : Action π α} {m₂ : Action π₂ α} (h : Alike R m₁ m₂) :
    Alike (Along R) (onPort m₁) (onPort m₂) :=
  Alike.focus h (by rintro t₁ _ ⟨p, rfl, hp⟩; exact hp)
    (by rintro t₁ _ l' p' ⟨p, rfl, hp⟩ hl; exact ⟨p', rfl, hl⟩)

variable [SerialLink π] [SerialLink π₂] (hR : LinkSim R)
include hR

/-- A target's note keeps related links related. -/
theorem say_alike (level : Level) (text : String) :
    Alike (Along R) (say level text : Action (Target π) _) (say level text) :=
  onPort_alike (hR.say _ _ _)

/-- Changing mode restarts the mode timer at the link's clock, which related links agree on. -/
theorem enterMode_alike (m : Mode) :
    Alike (Along R) (enterMode m : Action (Target π) _) (enterMode m) := by
  unfold enterMode now
  refine Alike.get_bind ?_
  rintro t₁ _ ⟨p, rfl, hp⟩
  rw [withPort_mode]
  refine Alike.bind (say_alike hR _ _) fun _ => Alike.get_bind ?_
  rintro u₁ _ ⟨q, rfl, hq⟩
  rw [withPort_port, hR.millis _ _ hq]
  refine Alike.modify ?_
  rintro v₁ _ ⟨r, rfl, hr⟩
  exact ⟨r, rfl, hr⟩

/-- A command-mode tick answers alike on targets alike but for related links. -/
theorem tick_alike : Alike (Along R) (tick : Action (Target π) _) tick := by
  unfold tick
  refine Alike.get_bind ?_
  rintro t₁ _ ⟨p, rfl, hp⟩
  simp only [withPort_mode, withPort_config, waited_withPort, withPort_port, hR.millis _ _ hp]
  generalize t₁.mode = m
  cases m <;> dsimp only <;>
  repeat' first
    | with_reducible exact Alike.pure _
    | with_reducible exact Alike.throw _
    | with_reducible exact say_alike hR _ _
    | with_reducible exact enterMode_alike hR _
    | with_reducible exact onPort_alike (hR.write _)
    | with_reducible exact onPort_alike (hR.read _)
    | with_reducible exact onPort_alike hR.flushRx
    | with_reducible exact onPort_alike hR.rxAvailable
    | ((with_reducible apply Alike.modify); rintro u₁ _ ⟨q, rfl, hq⟩; exact ⟨q, rfl, hq⟩)
    | ((with_reducible apply Alike.get_bind); rintro u₁ _ ⟨q, rfl, hq⟩; simp only [withPort_mode])
    | with_reducible apply Alike.bind
    | with_reducible apply Alike.ite
    | intro _

/-- A request answers alike: the room asked for and each write agree on related links. -/
theorem sendRequest_alike (command : List UInt8) :
    Alike (Along R) (sendRequest command : Action (Target π) _) (sendRequest command) := by
  unfold sendRequest
  repeat' first
    | with_reducible exact Alike.throw _
    | with_reducible exact say_alike hR _ _
    | with_reducible exact enterMode_alike hR _
    | with_reducible exact onPort_alike (hR.write _)
    | with_reducible exact onPort_alike hR.txFree
    | with_reducible apply Alike.bind
    | with_reducible apply Alike.ite
    | intro _

/-- Asking for command mode answers alike. -/
theorem enter_alike : Alike (Along R) (enter : Action (Target π) _) enter := by
  unfold enter
  refine Alike.bind (tick_alike hR) fun m => ?_
  cases m <;> dsimp only <;>
  repeat' first
    | with_reducible exact say_alike hR _ _
    | with_reducible exact enterMode_alike hR _
    | ((with_reducible apply Alike.get_bind); rintro u₁ _ ⟨q, rfl, hq⟩;
        simp only [withPort_mode, withPort_config])
    | with_reducible apply Alike.bind
    | intro _

/-- Leaving command mode answers alike. -/
theorem exit_alike : Alike (Along R) (exit : Action (Target π) _) exit := by
  unfold exit
  refine Alike.bind (tick_alike hR) fun m => ?_
  cases m <;> dsimp only <;>
  repeat' first
    | with_reducible exact Alike.throw _
    | with_reducible exact say_alike hR _ _
    | with_reducible exact enterMode_alike hR _
    | with_reducible exact sendRequest_alike hR _
    | ((with_reducible apply Alike.modify); rintro u₁ _ ⟨q, rfl, hq⟩; exact ⟨q, rfl, hq⟩)
    | with_reducible apply Alike.bind
    | intro _

/-- Resetting the module answers alike. -/
theorem resetModule_alike : Alike (Along R) (resetModule : Action (Target π) _) resetModule := by
  unfold resetModule now
  refine Alike.bind (onPort_alike hR.pulseReset) fun _ => Alike.get_bind ?_
  rintro t₁ _ ⟨p, rfl, hp⟩
  rw [withPort_port, hR.millis _ _ hp]
  refine Alike.modify ?_
  rintro u₁ _ ⟨q, rfl, hq⟩
  exact ⟨q, rfl, hq⟩

/-- Two targets with their line buffers, alike but for their links, which are related by `R`. -/
def LineAlong (R : π → π₂ → Prop) (a : Target π × LineBuffer) (b : Target π₂ × LineBuffer) : Prop :=
  ∃ p, b = (a.1.withPort p, a.2) ∧ R a.1.port p

omit [SerialLink π] [SerialLink π₂] hR in
/-- A target action beside alike line buffers. -/
theorem withLine_alike {m₁ : Action (Target π) α} {m₂ : Action (Target π₂) α}
    (h : Alike (Along R) m₁ m₂) : Alike (LineAlong R) (withLine m₁) (withLine m₂) :=
  Alike.focus h (by rintro ⟨t₁, b₁⟩ _ ⟨p, rfl, hp⟩; exact ⟨p, rfl, hp⟩)
    (by rintro ⟨t₁, b₁⟩ _ u₁ _ ⟨p, rfl, hp⟩ ⟨q, rfl, hq⟩; exact ⟨q, rfl, hq⟩)

/-- Scanning a response line answers alike for every bound on the bytes read. -/
theorem scanLine_alike : ∀ fuel,
    Alike (LineAlong R) (scanLine fuel : Action (Target π × LineBuffer) _) (scanLine fuel)
  | 0 => Alike.pure _
  | fuel + 1 => by
    unfold scanLine
    refine Alike.get_bind ?_
    rintro ⟨t₁, b₁⟩ _ ⟨p, rfl, hp⟩
    dsimp only
    refine Alike.ite (fun _ => Alike.throw_bind _ _ _) fun _ => ?_
    refine Alike.bind (withLine_alike (onPort_alike hR.readByte)) fun r => ?_
    rcases r with _ | b
    · refine Alike.get_bind ?_
      rintro ⟨u₁, c₁⟩ _ ⟨q, rfl, hq⟩
      simp only [waited_withPort, withPort_port, hR.millis _ _ hq]
      exact Alike.ite (fun _ => Alike.pure _) fun _ => Alike.pure _
    · by_cases hb : b = 13
      · simp only [hb]
        exact Alike.pure _
      · simp only
        refine Alike.bind (Alike.modify ?_) fun _ => scanLine_alike fuel
        rintro ⟨u₁, c₁⟩ _ ⟨q, rfl, hq⟩
        exact ⟨q, rfl, hq⟩

/-- Reading a command response answers alike, with the same line collected. -/
theorem readResponse_alike :
    Alike (LineAlong R) (readResponse : Action (Target π × LineBuffer) _) readResponse := by
  unfold readResponse
  refine Alike.get_bind ?_
  rintro ⟨t₁, b₁⟩ _ ⟨p, rfl, hp⟩
  simp only [withPort_mode]
  repeat' first
    | with_reducible exact Alike.pure _
    | with_reducible exact Alike.throw _
    | with_reducible exact withLine_alike (say_alike hR _ _)
    | with_reducible exact scanLine_alike hR _
    | ((with_reducible apply Alike.modify); rintro ⟨u₁, c₁⟩ _ ⟨q, rfl, hq⟩; exact ⟨q, rfl, hq⟩)
    | ((with_reducible apply Alike.get_bind); rintro ⟨u₁, c₁⟩ _ ⟨q, rfl, hq⟩; dsimp only)
    | with_reducible apply Alike.bind
    | apply Alike.ite
    | (intro r; cases r <;> try dsimp only)
    | intro _

end Target

namespace Xmodem.Transfer

variable {π π₂ : Type}

/-- The same transfer on another link. -/
def withPort (t : Transfer π) (p : π₂) : Transfer π₂ :=
  { sender := t.sender, buffer := t.buffer, source := t.source, port := p }

/-- A transfer moved to another link keeps its sender. -/
@[simp] theorem withPort_sender (t : Transfer π) (p : π₂) : (t.withPort p).sender = t.sender := rfl

/-- A transfer moved to another link keeps its packet buffer. -/
@[simp] theorem withPort_buffer (t : Transfer π) (p : π₂) : (t.withPort p).buffer = t.buffer := rfl

/-- Two transfers alike but for their links, which are related by `R`. -/
def Along (R : π → π₂ → Prop) (t₁ : Transfer π) (t₂ : Transfer π₂) : Prop :=
  ∃ p, t₂ = t₁.withPort p ∧ R t₁.port p

variable {R : π → π₂ → Prop} {α : Type}

/-- A link action on the transfers' links. -/
theorem onPort_alike {m₁ : Action π α} {m₂ : Action π₂ α} (h : Alike R m₁ m₂) :
    Alike (Along R) (onPort m₁) (onPort m₂) :=
  Alike.focus h (by rintro t₁ _ ⟨p, rfl, hp⟩; exact hp)
    (by rintro t₁ _ l' p' ⟨p, rfl, hp⟩ hl; exact ⟨p', rfl, hl⟩)

/-- An image action on the transfers' common image. -/
theorem onSource_alike (m : Action Source α) : Alike (Along R) (onSource m) (onSource m) :=
  Alike.focus (Alike.refl m) (by rintro t₁ _ ⟨p, rfl, hp⟩; rfl)
    (by rintro t₁ _ u _ ⟨p, rfl, hp⟩ rfl; exact ⟨p, rfl, hp⟩)

/-- A change of the sender. -/
theorem update_alike (f : Sender → Sender) : Alike (Along R) (update f : Action (Transfer π) _) (update f) :=
  Alike.modify (by rintro t₁ _ ⟨p, rfl, hp⟩; exact ⟨p, rfl, hp⟩)

/-- Bytes written into the packet buffer. -/
theorem fill_alike (start : Nat) (bytes : Array UInt8) :
    Alike (Along R) (fill start bytes : Action (Transfer π) _) (fill start bytes) :=
  Alike.modify (by rintro t₁ _ ⟨p, rfl, hp⟩; exact ⟨p, rfl, hp⟩)

variable [SerialLink π] [SerialLink π₂] (hR : LinkSim R)
include hR

/-- A sender's note keeps related links related. -/
theorem say_alike (level : Level) (text : String) :
    Alike (Along R) (say level text : Action (Transfer π) _) (say level text) :=
  onPort_alike (hR.say _ _ _)

/-- Taking the receiver's start request answers alike. -/
theorem acceptStart_alike (b : UInt8) :
    Alike (Along R) (acceptStart b : Action (Transfer π) _) (acceptStart b) := by
  unfold acceptStart
  refine Alike.get_bind ?_
  rintro t₁ _ ⟨p, rfl, hp⟩
  dsimp only [withPort_sender]
  refine Alike.ite (fun _ => Alike.pure _) fun _ => ?_
  split
  · exact Alike.pure _
  · exact Alike.bind (say_alike hR _ _) fun _ => Alike.bind (update_alike _) fun _ => Alike.pure _

omit [SerialLink π] [SerialLink π₂] hR in
/-- Assembling a packet reads the common image into the common buffer. -/
theorem assemble_alike : Alike (Along R) (assemble : Action (Transfer π) _) assemble := by
  unfold assemble
  refine Alike.get_bind ?_
  rintro t₁ _ ⟨p, rfl, hp⟩
  dsimp only [withPort_sender]
  repeat' first
    | with_reducible exact Alike.pure _
    | with_reducible exact Alike.throw_bind _ _ _
    | with_reducible exact onSource_alike _
    | with_reducible exact fill_alike _ _
    | ((with_reducible apply Alike.get_bind); rintro u₁ _ ⟨q, rfl, hq⟩; dsimp only [withPort_buffer])
    | with_reducible apply Alike.bind
    | apply Alike.ite
    | intro _

/-- One step of the sender answers alike, whatever its phase. -/
theorem step_alike (now : Millis) : Alike (Along R) (step now : Action (Transfer π) _) (step now) := by
  unfold step
  refine Alike.get_bind ?_
  rintro t₁ _ ⟨p, rfl, hp⟩
  dsimp only [withPort_sender]
  generalize t₁.sender.phase = ph
  cases ph <;> dsimp only <;>
  repeat' first
    | with_reducible exact Alike.pure _
    | with_reducible exact Alike.throw_bind _ _ _
    | with_reducible exact say_alike hR _ _
    | with_reducible exact update_alike _
    | with_reducible exact acceptStart_alike hR _
    | with_reducible exact assemble_alike
    | with_reducible exact onPort_alike hR.drain
    | with_reducible exact onPort_alike hR.readByte
    | with_reducible exact onPort_alike (hR.write _)
    | ((with_reducible apply Alike.get_bind); rintro u₁ _ ⟨q, rfl, hq⟩; dsimp only [withPort_buffer])
    | with_reducible apply Alike.bind
    | apply Alike.ite
    | (intro r; cases r <;> try dsimp only)
    | intro _

/-- Giving up offers CAN CAN on both links and notes a refused offer alike. -/
theorem abort_alike : Alike (Along R) (abort : Action (Transfer π) _) abort := by
  unfold abort
  refine Alike.bind (update_alike _) fun _ => Alike.tryCatch ?_ fun _ => say_alike hR _ _
  exact Alike.bind (onPort_alike (hR.write _)) fun _ => Alike.pure _

/-- Running state steps answers alike for every bound on the steps. -/
theorem steps_alike (now : Millis) : ∀ fuel,
    Alike (Along R) (steps now fuel : Action (Transfer π) _) (steps now fuel)
  | 0 => Alike.pure _
  | fuel + 1 => by
    unfold steps
    refine Alike.bind (step_alike hR now) fun st => ?_
    cases st
    · exact steps_alike now fuel
    · refine Alike.get_bind ?_
      rintro u₁ _ ⟨q, rfl, hq⟩
      exact Alike.pure _

/-- A tick of the sender answers alike, and so does its giving up on a failure. -/
theorem tick_alike (now : Millis) : Alike (Along R) (tick now : Action (Transfer π) _) (tick now) := by
  unfold tick
  refine Alike.get_bind ?_
  rintro t₁ _ ⟨p, rfl, hp⟩
  dsimp only [withPort_sender, withPort_buffer]
  generalize t₁.sender.phase = ph
  cases ph <;> dsimp only <;>
  repeat' first
    | with_reducible exact Alike.pure _
    | with_reducible exact Alike.throw _
    | with_reducible exact steps_alike hR _ _
    | with_reducible exact abort_alike hR
    | with_reducible apply Alike.tryCatch
    | with_reducible apply Alike.bind
    | apply Alike.ite
    | intro _

end Xmodem.Transfer

namespace Session

variable {π π₂ : Type}

/-- The same session on another link. -/
@[reducible] def withPort (s : Session π) (p : π₂) : Session π₂ :=
  { target := s.target.withPort p, source := s.source, kind := s.kind, force := s.force,
    phase := s.phase, nextState := s.nextState, tries := s.tries, timer := s.timer,
    scratch := s.scratch, responseLen := s.responseLen, sub := s.sub }

/-- Two sessions alike but for their links, which are related by `R`. -/
def Along (R : π → π₂ → Prop) (s₁ : Session π) (s₂ : Session π₂) : Prop :=
  ∃ p, s₂ = s₁.withPort p ∧ R s₁.target.port p

section Fields

variable (s : Session π) (p : π₂)

/-- A session moved to another link keeps its kind of image. -/
@[simp] theorem withPort_kind : (s.withPort p).kind = s.kind := rfl

/-- A session moved to another link keeps its force flag. -/
@[simp] theorem withPort_force : (s.withPort p).force = s.force := rfl

/-- A session moved to another link keeps its step. -/
@[simp] theorem withPort_phase : (s.withPort p).phase = s.phase := rfl

/-- A session moved to another link keeps the step awaiting a response. -/
@[simp] theorem withPort_nextState : (s.withPort p).nextState = s.nextState := rfl

/-- A session moved to another link keeps its count of tries. -/
@[simp] theorem withPort_tries : (s.withPort p).tries = s.tries := rfl

/-- A session moved to another link keeps its transfer in flight. -/
@[simp] theorem withPort_sub : (s.withPort p).sub = s.sub := rfl

/-- A session moved to another link keeps its block-echo progress. -/
@[simp] theorem progress_withPort : (s.withPort p).progress = s.progress := rfl

/-- A session moved to another link keeps the response collected. -/
@[simp] theorem response_withPort : (s.withPort p).response = s.response := rfl

/-- A session moved to another link has failed exactly when it had. -/
@[simp] theorem isFailed_withPort : (s.withPort p).isFailed = s.isFailed := rfl

/-- A session moved to another link runs on that link. -/
@[simp] theorem withPort_target_port : (s.withPort p).target.port = p := rfl

end Fields

section Clock

variable [SerialLink π] [SerialLink π₂] {s : Session π} {p : π₂}

/-- A session reads the same clock on a link that shows the same time. -/
theorem now_withPort (h : SerialLink.millis p = SerialLink.millis s.target.port) :
    (s.withPort p).now = s.now := h

/-- A session's timer runs out alike on a link that shows the same time. -/
theorem waited_withPort (h : SerialLink.millis p = SerialLink.millis s.target.port) :
    (s.withPort p).waited = s.waited := by
  funext ms
  unfold waited
  rw [now_withPort h]

end Clock

variable {R : π → π₂ → Prop} {α : Type}

/-- A target action on the sessions' targets. -/
theorem onTarget_alike {m₁ : Action (Target π) α} {m₂ : Action (Target π₂) α}
    (h : Alike (Target.Along R) m₁ m₂) : Alike (Along R) (onTarget m₁) (onTarget m₂) :=
  Alike.focus h (by rintro s₁ _ ⟨p, rfl, hp⟩; exact ⟨p, rfl, hp⟩)
    (by rintro s₁ _ t₁ _ ⟨p, rfl, hp⟩ ⟨q, rfl, hq⟩; exact ⟨q, rfl, hq⟩)

/-- A link action on the sessions' links. -/
theorem onPort_alike {m₁ : Action π α} {m₂ : Action π₂ α} (h : Alike R m₁ m₂) :
    Alike (Along R) (onPort m₁) (onPort m₂) :=
  onTarget_alike (Target.onPort_alike h)

/-- An image action on the sessions' common image. -/
theorem onSource_alike (m : Action Source α) : Alike (Along R) (onSource m) (onSource m) :=
  Alike.focus (Alike.refl m) (by rintro s₁ _ ⟨p, rfl, hp⟩; rfl)
    (by rintro s₁ _ u _ ⟨p, rfl, hp⟩ rfl; exact ⟨p, rfl, hp⟩)

/-- Checking the image reads the common image into the common scratch buffer. -/
theorem verify_alike :
    Alike (Along R)
      (Action.focus (fun s : Session π => (s.source, s.scratch))
        (fun p s => { s with source := p.1, scratch := p.2 }) verify)
      (Action.focus (fun s : Session π₂ => (s.source, s.scratch))
        (fun p s => { s with source := p.1, scratch := p.2 }) verify) :=
  Alike.focus (Alike.refl verify) (by rintro s₁ _ ⟨p, rfl, hp⟩; rfl)
    (by rintro s₁ _ u _ ⟨p, rfl, hp⟩ rfl; exact ⟨p, rfl, hp⟩)

/-- A byte of the common image. -/
theorem imageByte_alike (offset : Nat) :
    Alike (Along R) (imageByte offset : Action (Session π) _) (imageByte offset) :=
  onSource_alike _

/-- A pure check's result, answered alike on any states. -/
theorem ofExcept_alike {σ τ : Type} {S : Session σ → Session τ → Prop} [SerialLink σ] [SerialLink τ]
    (e : Except Error α) : Alike S (ofExcept e : Action (Session σ) α) (ofExcept e) := by
  cases e with
  | error e => exact Alike.throw e
  | ok a => exact Alike.pure a

/-- Running the XMODEM sender on alike transfers, made of the sessions' parts. -/
theorem onTransfer_alike [SerialLink π] [SerialLink π₂] {m₁ : Action (Xmodem.Transfer π) α}
    {m₂ : Action (Xmodem.Transfer π₂) α} (h : Alike (Xmodem.Transfer.Along R) m₁ m₂) :
    Alike (Along R) (onTransfer m₁) (onTransfer m₂) := by
  unfold onTransfer
  refine Alike.get_bind ?_
  rintro s₁ _ ⟨p, rfl, hp⟩
  dsimp only [withPort_sub]
  generalize s₁.sub = sb
  cases sb with
  | xmodem sender =>
    exact Alike.focus h (by rintro u₁ _ ⟨q, rfl, hq⟩; exact ⟨q, rfl, hq⟩)
      (by rintro u₁ _ t₁ _ ⟨q, rfl, hq⟩ ⟨r, rfl, hr⟩; exact ⟨r, rfl, hr⟩)
  | _ => exact Alike.throw _

variable [SerialLink π] [SerialLink π₂] (hR : LinkSim R)
include hR

/-- A session's note keeps related links related. -/
theorem say_alike (origin : String) (level : Level) (text : String) :
    Alike (Along R) (say origin level text : Action (Session π) _) (say origin level text) :=
  onPort_alike (hR.say _ _ _)

/-- Arming the timer reads the clock, which related links agree on. -/
theorem armTimer_alike : Alike (Along R) (armTimer : Action (Session π) _) armTimer := by
  unfold armTimer
  refine Alike.modify ?_
  rintro s₁ _ ⟨p, rfl, hp⟩
  refine ⟨p, ?_, hp⟩
  rw [now_withPort (hR.millis _ _ hp)]

/-- Moving to another OEM step answers alike. -/
theorem gotoOem_alike (st : OemState) :
    Alike (Along R) (gotoOem st : Action (Session π) _) (gotoOem st) := by
  unfold gotoOem
  refine Alike.get_bind ?_
  rintro s₁ _ ⟨p, rfl, hp⟩
  refine Alike.bind (say_alike hR _ _ _) fun _ => Alike.modify ?_
  rintro u₁ _ ⟨q, rfl, hq⟩
  exact ⟨q, rfl, hq⟩

/-- Moving to another EBL step answers alike. -/
theorem gotoEbl_alike (st : EblState) :
    Alike (Along R) (gotoEbl st : Action (Session π) _) (gotoEbl st) := by
  unfold gotoEbl
  refine Alike.get_bind ?_
  rintro s₁ _ ⟨p, rfl, hp⟩
  refine Alike.bind (say_alike hR _ _ _) fun _ => Alike.modify ?_
  rintro u₁ _ ⟨q, rfl, hq⟩
  exact ⟨q, rfl, hq⟩

/-- Sending a command and waiting for its response answers alike. -/
theorem request_alike (command : List UInt8) (next : OemState) :
    Alike (Along R) (request command next : Action (Session π) _) (request command next) :=
  Alike.bind (Alike.modify (by rintro s₁ _ ⟨p, rfl, hp⟩; exact ⟨p, rfl, hp⟩)) fun _ =>
    Alike.bind (onTarget_alike (Target.sendRequest_alike hR command)) fun _ =>
      Alike.bind (Alike.modify (by rintro s₁ _ ⟨p, rfl, hp⟩; exact ⟨p, rfl, hp⟩)) fun _ =>
        Alike.bind (gotoOem_alike hR _) fun _ => Alike.pure _

/-- Collecting a command response into the scratch buffer answers alike. -/
theorem collectResponse_alike :
    Alike (Along R) (collectResponse : Action (Session π) _) collectResponse :=
  Alike.focus (Target.readResponse_alike hR) (by rintro s₁ _ ⟨p, rfl, hp⟩; exact ⟨p, rfl, hp⟩)
    (by rintro s₁ _ ⟨t₁, b₁⟩ _ ⟨p, rfl, hp⟩ ⟨q, rfl, hq⟩; exact ⟨q, rfl, hq⟩)

/-- Moving on after a matched echo answers alike. -/
theorem echoMatched_alike (p : OemProgress) :
    Alike (Along R) (echoMatched p : Action (Session π) _) (echoMatched p) :=
  Alike.bind (Alike.modify (by rintro s₁ _ ⟨p, rfl, hp⟩; exact ⟨p, rfl, hp⟩)) fun _ =>
    Alike.bind (gotoOem_alike hR _) fun _ => Alike.pure _

/-- Opening the echo block after an outbound block answers alike. -/
theorem expectEcho_alike (p : OemProgress) :
    Alike (Along R) (expectEcho p : Action (Session π) _) (expectEcho p) := by
  unfold expectEcho
  repeat' first
    | with_reducible exact Alike.pure _
    | with_reducible exact say_alike hR _ _ _
    | with_reducible exact armTimer_alike hR
    | with_reducible exact gotoOem_alike hR _
    | with_reducible exact onSource_alike _
    | with_reducible exact ofExcept_alike _
    | ((with_reducible apply Alike.modify); rintro u₁ _ ⟨q, rfl, hq⟩; exact ⟨q, rfl, hq⟩)
    | with_reducible apply Alike.bind
    | intro _

/-- Streaming the outbound block answers alike: both links report the same room. -/
theorem sendBlock_alike : Alike (Along R) (sendBlock : Action (Session π) _) sendBlock := by
  unfold sendBlock
  repeat' first
    | with_reducible exact Alike.pure _
    | with_reducible exact onSource_alike _
    | with_reducible exact onPort_alike hR.txFree
    | with_reducible exact onPort_alike (hR.write _)
    | ((with_reducible apply Alike.modify); rintro u₁ _ ⟨q, rfl, hq⟩; exact ⟨q, rfl, hq⟩)
    | ((with_reducible apply Alike.get_bind); rintro u₁ _ ⟨q, rfl, hq⟩;
        dsimp -failIfUnchanged only [progress_withPort])
    | with_reducible apply Alike.bind
    | apply Alike.ite
    | intro _
    | with_reducible exact expectEcho_alike hR _

/-- Comparing a piece of echo with the image answers alike. -/
theorem checkEcho_alike (p : OemProgress) (received : List UInt8) :
    Alike (Along R) (checkEcho p received : Action (Session π) _) (checkEcho p received) := by
  unfold checkEcho
  repeat' first
    | with_reducible exact Alike.pure _
    | with_reducible exact say_alike hR _ _ _
    | with_reducible exact gotoOem_alike hR _
    | with_reducible exact onSource_alike _
    | ((with_reducible apply Alike.modify); rintro u₁ _ ⟨q, rfl, hq⟩; exact ⟨q, rfl, hq⟩)
    | with_reducible apply Alike.bind
    | apply Alike.ite
    | intro _
    | with_reducible exact echoMatched_alike hR _

/-- Reading and comparing the echo answers alike, its timeout read on the common clock. -/
theorem compareEcho_alike : Alike (Along R) (compareEcho : Action (Session π) _) compareEcho := by
  unfold compareEcho
  repeat' first
    | with_reducible exact Alike.pure _
    | with_reducible exact say_alike hR _ _ _
    | with_reducible exact gotoOem_alike hR _
    | with_reducible exact onPort_alike (hR.read _)
    | ((with_reducible apply Alike.get_bind); rintro u₁ _ ⟨q, rfl, hq⟩;
        dsimp -failIfUnchanged only [progress_withPort])
    | rw [waited_withPort (hR.millis _ _ hq)]
    | with_reducible apply Alike.bind
    | apply Alike.ite
    | intro _
    | with_reducible exact echoMatched_alike hR _
    | with_reducible exact checkEcho_alike hR _ _

/-- Every OEM step answers alike. -/
theorem stepOem_alike (st : OemState) :
    Alike (Along R) (stepOem st : Action (Session π) _) (stepOem st) := by
  unfold stepOem
  cases st <;> dsimp only <;>
  repeat' first
    | with_reducible exact Alike.pure _
    | with_reducible exact Alike.throw _
    | with_reducible exact say_alike hR _ _ _
    | with_reducible exact armTimer_alike hR
    | with_reducible exact gotoOem_alike hR _
    | with_reducible exact request_alike hR _ _
    | with_reducible exact collectResponse_alike hR
    | with_reducible exact sendBlock_alike hR
    | with_reducible exact compareEcho_alike hR
    | with_reducible exact verify_alike
    | with_reducible exact imageByte_alike _
    | with_reducible exact onSource_alike _
    | with_reducible exact ofExcept_alike _
    | with_reducible exact onTarget_alike (Target.tick_alike hR)
    | with_reducible exact onTarget_alike (Target.enter_alike hR)
    | with_reducible exact onTarget_alike (Target.exit_alike hR)
    | with_reducible exact onTarget_alike (Target.resetModule_alike hR)
    | with_reducible exact onPort_alike (hR.reopen _)
    | with_reducible exact onPort_alike (hR.setFlowControl _)
    | with_reducible exact onPort_alike (hR.setRts _)
    | with_reducible exact onPort_alike (hR.setBreak _)
    | with_reducible exact onPort_alike (hR.writeByte _)
    | with_reducible exact onPort_alike hR.readByte
    | with_reducible exact onPort_alike hR.flushRx
    | ((with_reducible apply Alike.modify); rintro u₁ _ ⟨q, rfl, hq⟩; exact ⟨q, rfl, hq⟩)
    | ((with_reducible apply Alike.get_bind); rintro u₁ _ ⟨q, rfl, hq⟩;
        dsimp -failIfUnchanged only [withPort_tries, withPort_force, withPort_nextState,
          response_withPort, progress_withPort])
    | rw [waited_withPort (hR.millis _ _ hq)]
    | with_reducible apply Alike.bind
    | apply Alike.ite
    | (intro r; cases r <;> try dsimp only)
    | intro _

/-- Scanning for a byte answers alike for every bound on the bytes read. -/
theorem scanWith_alike (wanted : UInt8) : ∀ fuel,
    Alike (Along R) (scanWith wanted fuel : Action (Session π) _) (scanWith wanted fuel)
  | 0 => Alike.pure _
  | fuel + 1 => by
    unfold scanWith
    refine Alike.bind (onPort_alike hR.readByte) fun r => ?_
    rcases r with _ | b
    · exact Alike.pure _
    · exact Alike.ite (fun _ => Alike.pure _) fun _ => scanWith_alike wanted fuel

/-- Scanning for a byte answers alike: related links hold the same count of bytes to bound it. -/
theorem scanFor_alike (wanted : UInt8) :
    Alike (Along R) (scanFor wanted : Action (Session π) _) (scanFor wanted) := by
  unfold scanFor
  refine Alike.get_bind ?_
  rintro s₁ _ ⟨p, rfl, hp⟩
  rw [withPort_target_port, hR.pending _ _ hp]
  exact scanWith_alike hR wanted _

/-- The shared timeout of the EBL waiting steps answers alike. -/
theorem eblFallback_alike : Alike (Along R) (eblFallback : Action (Session π) _) eblFallback := by
  unfold eblFallback
  refine Alike.get_bind ?_
  rintro s₁ _ ⟨p, rfl, hp⟩
  rw [waited_withPort (hR.millis _ _ hp)]
  dsimp only [withPort_tries]
  repeat' first
    | with_reducible exact Alike.pure _
    | with_reducible exact Alike.throw_bind _ _ _
    | with_reducible exact say_alike hR _ _ _
    | with_reducible exact armTimer_alike hR
    | with_reducible exact gotoEbl_alike hR _
    | ((with_reducible apply Alike.modify); rintro u₁ _ ⟨q, rfl, hq⟩; exact ⟨q, rfl, hq⟩)
    | with_reducible apply Alike.bind
    | apply Alike.ite
    | intro _

/-- Every EBL step answers alike, the XMODEM transfer run on alike transfers. -/
theorem stepEbl_alike (st : EblState) :
    Alike (Along R) (stepEbl st : Action (Session π) _) (stepEbl st) := by
  unfold stepEbl
  cases st <;> dsimp only <;>
  repeat' first
    | with_reducible exact Alike.pure _
    | with_reducible exact Alike.throw _
    | with_reducible exact say_alike hR _ _ _
    | with_reducible exact armTimer_alike hR
    | with_reducible exact gotoEbl_alike hR _
    | with_reducible exact eblFallback_alike hR
    | with_reducible exact scanFor_alike hR _
    | with_reducible exact onSource_alike _
    | with_reducible exact onTransfer_alike (Xmodem.Transfer.acceptStart_alike hR _)
    | with_reducible exact onTransfer_alike (Xmodem.Transfer.tick_alike hR _)
    | with_reducible exact onTarget_alike (Target.resetModule_alike hR)
    | with_reducible exact onPort_alike (hR.reopen _)
    | with_reducible exact onPort_alike (hR.setReset _)
    | with_reducible exact onPort_alike (hR.setFlowControl _)
    | with_reducible exact onPort_alike (hR.setRts _)
    | with_reducible exact onPort_alike (hR.setBreak _)
    | with_reducible exact onPort_alike (hR.writeByte _)
    | ((with_reducible apply Alike.modify); rintro u₁ _ ⟨q, rfl, hq⟩; exact ⟨q, rfl, hq⟩)
    | ((with_reducible apply Alike.get_bind); rintro u₁ _ ⟨q, rfl, hq⟩;
        dsimp -failIfUnchanged only [withPort_kind, withPort_sub])
    | rw [waited_withPort (hR.millis _ _ hq)]
    | rw [now_withPort (hR.millis _ _ hq)]
    | with_reducible apply Alike.bind
    | apply Alike.ite
    | intro _

/-- Running steps answers alike for every bound on the steps. -/
theorem runSteps_alike : ∀ fuel,
    Alike (Along R) (runSteps fuel : Action (Session π) _) (runSteps fuel)
  | 0 => Alike.pure _
  | fuel + 1 => by
    unfold runSteps
    refine Alike.get_bind ?_
    rintro s₁ _ ⟨p, rfl, hp⟩
    dsimp only [withPort_phase]
    generalize s₁.phase = ph
    cases ph <;> refine Alike.bind ?_ fun r => ?_ <;> first
      | with_reducible exact stepEbl_alike hR _
      | with_reducible exact stepOem_alike hR _
      | (cases r
         · exact runSteps_alike fuel
         · refine Alike.get_bind ?_
           rintro u₁ _ ⟨q, rfl, hq⟩
           exact Alike.pure _)

/-- An install session's tick answers alike, its failure rule included. -/
theorem tick_alike : Alike (Along R) (tick : Action (Session π) _) tick := by
  unfold tick
  refine Alike.get_bind ?_
  rintro s₁ _ ⟨p, rfl, hp⟩
  rw [isFailed_withPort]
  repeat' first
    | with_reducible exact Alike.pure _
    | with_reducible exact Alike.throw _
    | with_reducible exact say_alike hR _ _ _
    | with_reducible exact runSteps_alike hR _
    | ((with_reducible apply Alike.modify); rintro u₁ _ ⟨q, rfl, hq⟩; exact ⟨q, rfl, hq⟩)
    | ((with_reducible apply Alike.get_bind); rintro u₁ _ ⟨q, rfl, hq⟩; rw [withPort_kind])
    | with_reducible apply Alike.tryCatch
    | with_reducible apply Alike.bind
    | apply Alike.ite
    | intro _

end Session

/-- An install session ticks on a logged link as on a bench link that shows the same view: the
same answer, and sessions alike but for links that still show the same view. -/
theorem Session.tick_as_bench :
    Alike (Session.Along LoggedPort.Mirrors) (Session.tick : Action (Session LoggedPort) _)
      Session.tick :=
  Session.tick_alike LoggedPort.mirrors_linkSim

/-- A bench session's tick answers as the same session's tick on the bench link's logged twin. -/
theorem Session.tick_answers_as_logged_twin (s : Session BenchPort) :
    (Session.tick.run (s.withPort s.target.port.logged)).1 = (Session.tick.run s).1 :=
  (alike_iff.mp Session.tick_as_bench _ s ⟨s.target.port, rfl, s.target.port.logged_mirrors⟩).1

end RadioFlash
