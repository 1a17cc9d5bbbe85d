import RadioFlash.Link.Bench
/-!
# A link that keeps its traffic, and the runs of an engine on it

The engines only ever see their link through `SerialLink`, and a claim about what an engine does
on the wire is a claim about the calls it makes there. `LoggedPort` answers as the bench link of
`Link.Bench` does and appends every call, with its arguments and the link's answer, to a log.
The log is only observed: nothing the port answers depends on it. `Proofs.BenchAgreement` proves
that the two links answer every call alike, and that an install session ticks alike on both.

Between two ticks the far end may change what the engine will meet: the bytes waiting to be
read, the clock, the room in the transmitter, how much one write takes and which baud rates fail
to open (`Surroundings`). `Reaches` is the set of states an engine reaches from a start by any
interleaving of its ticks with such changes, and `Reaches.induct_on` turns "a start state has a
property, each tick and each change keeps it" into "every reachable state has it".

The run laws of `Action` at the top let every step of an engine be computed from the state it
starts in, without unfolding the monad in each proof.
-/

namespace RadioFlash

namespace Action

variable {σ τ α β : Type}

/-- A sequence runs its first action, then the continuation on its answer, unless it failed. -/
theorem run_bind (m : Action σ α) (f : α → Action σ β) (s : σ) :
    (m >>= f).run s = match m.run s with
      | (.ok a, s') => (f a).run s'
      | (.error e, s') => (.error e, s') := by
  simp only [run, bind, ExceptT.bind, ExceptT.run, ExceptT.mk, ExceptT.bindCont, StateT.run,
    StateT.bind]
  rcases m s with ⟨_ | _, _⟩ <;> rfl

/-- A bind whose first action succeeds continues from its answer and state. -/
theorem run_bind_ok {m : Action σ α} {s s' : σ} {a : α} (f : α → Action σ β)
    (h : m.run s = (.ok a, s')) : (m >>= f).run s = (f a).run s' := by
  rw [run_bind, h]

/-- A bind whose first action fails fails with the same error and state. -/
theorem run_bind_error {m : Action σ α} {s s' : σ} {e : Error} (f : α → Action σ β)
    (h : m.run s = (.error e, s')) : (m >>= f).run s = (.error e, s') := by
  rw [run_bind, h]

/-- Reading the state answers it. -/
@[simp] theorem run_get (s : σ) : (get : Action σ σ).run s = (.ok s, s) := rfl

/-- Setting the state replaces it. -/
@[simp] theorem run_set (s t : σ) : (set t : Action σ PUnit).run s = (.ok ⟨⟩, t) := rfl

/-- Changing the state applies the change. -/
@[simp] theorem run_modify (f : σ → σ) (s : σ) :
    (modify f : Action σ PUnit).run s = (.ok ⟨⟩, f s) := rfl

/-- Changing the state with an answer applies the change and answers. -/
@[simp] theorem run_modifyGet (f : σ → α × σ) (s : σ) :
    (modifyGet f : Action σ α).run s = (.ok (f s).1, (f s).2) := rfl

/-- An action on a part runs on that part and puts it back. -/
@[simp] theorem run_focus (g : σ → τ) (p : τ → σ → σ) (m : Action τ α) (s : σ) :
    (focus g p m).run s = ((m.run (g s)).1, p (m.run (g s)).2 s) := rfl

/-- A handled action runs the handler on the state an error left. -/
theorem run_tryCatch (m : Action σ α) (h : Error → Action σ α) (s : σ) :
    (tryCatch m h).run s = match m.run s with
      | (.ok a, s') => (.ok a, s')
      | (.error e, s') => (h e).run s' := by
  simp only [run, tryCatch, tryCatchThe, MonadExceptOf.tryCatch, ExceptT.tryCatch, ExceptT.run,
    ExceptT.mk, StateT.run, bind, StateT.bind]
  rcases m s with ⟨_ | _, _⟩ <;> rfl

/-- Mapping an answer maps the result. -/
@[simp] theorem run_map (f : α → β) (m : Action σ α) (s : σ) :
    (f <$> m).run s = ((m.run s).1.map f, (m.run s).2) := by
  simp only [run, Functor.map, ExceptT.map, ExceptT.run, ExceptT.mk, StateT.run, bind,
    StateT.bind]
  rcases m s with ⟨_ | _, _⟩ <;> rfl

attribute [simp] run_pure run_throw Except.map

end Action

/-- One call an engine made on its link, with what the link answered. -/
inductive PortCall where
  /-- A read of at most `asked` bytes that handed over `got`. -/
  | read (asked : Nat) (got : List UInt8)
  /-- A write of `offered` of which the link took the first `taken` bytes. -/
  | write (offered : List UInt8) (taken : Nat)
  /-- An attempt to (re)open at a baud rate. -/
  | reopen (baud : UInt32)
  | flowControl (on : Bool)
  | setBreak (on : Bool)
  | setRts (on : Bool)
  | setReset (asserted : Bool)
  | flushRx
  /-- A query of the bytes waiting, with the answer. -/
  | rxAvailable (n : Nat)
  /-- A query of the room in the transmitter, with the answer. -/
  | txFree (n : Nat)
  | close
deriving DecidableEq, Repr

/-- A link whose far end is played by the surroundings, keeping, oldest first, every call made on
it. It answers as the bench link does: reads take from a queue of received bytes, a write takes
at most `writeChunk` bytes when that is set, and opening fails at the listed rates. -/
structure LoggedPort where
  /-- The bytes waiting to be read. -/
  rx : ByteQueue := {}
  now : Millis := 0
  /-- The room the transmitter reports. -/
  txCapacity : Nat := 4096
  /-- The most bytes one write takes, if writes are limited. -/
  writeChunk : Option Nat := none
  /-- Baud rates that fail to open. -/
  failBauds : List UInt32 := []
  baud : UInt32 := 0
  log : List PortCall := []

/-- What the far end and the link may change between two ticks. -/
structure Surroundings where
  rx : ByteQueue
  now : Millis
  txCapacity : Nat
  writeChunk : Option Nat
  failBauds : List UInt32

namespace LoggedPort

/-- Bytes a write of `n` bytes hands over when one write takes at most `chunk`, if set. -/
def taken (chunk : Option Nat) (n : Nat) : Nat :=
  chunk.elim n (min n)

/-- A write takes at most what it offers. -/
theorem taken_le (chunk : Option Nat) (n : Nat) : taken chunk n ≤ n := by
  cases chunk with
  | none => exact Nat.le_refl n
  | some c => exact Nat.min_le_left n c

/-- The logged link: it answers as the bench link does and appends every call to its log. -/
instance : SerialLink LoggedPort where
  name _ := "mock"
  baudRate l := l.baud
  millis l := l.now
  pending l := l.rx.size
  note _ l := l
  read n := modifyGet fun l =>
    ((l.rx.take n).1, { l with rx := (l.rx.take n).2, log := l.log ++ [.read n (l.rx.take n).1] })
  write bs := modifyGet fun l =>
    (taken l.writeChunk bs.length, { l with log := l.log ++ [.write bs (taken l.writeChunk bs.length)] })
  reopen b := do
    let l ← get
    set { l with log := l.log ++ [PortCall.reopen b] }
    if b ∈ l.failBauds then
      throw (.io s!"cannot open at {b}")
    modify fun l => { l with baud := b }
  setFlowControl on := modify fun l => { l with log := l.log ++ [.flowControl on] }
  setBreak on := modify fun l => { l with log := l.log ++ [.setBreak on] }
  setRts on := modify fun l => { l with log := l.log ++ [.setRts on] }
  setReset a := modify fun l => { l with log := l.log ++ [.setReset a] }
  flushRx := modify fun l => { l with rx := default, log := l.log ++ [.flushRx] }
  rxAvailable := modifyGet fun l => (l.rx.size, { l with log := l.log ++ [.rxAvailable l.rx.size] })
  txFree := modifyGet fun l => (l.txCapacity, { l with log := l.log ++ [.txFree l.txCapacity] })
  close := modify fun l => { l with log := l.log ++ [.close] }

/-- The port after its surroundings changed; the engine's side, its log included, stays. -/
def meet (l : LoggedPort) (w : Surroundings) : LoggedPort :=
  { l with
    rx := w.rx, now := w.now, txCapacity := w.txCapacity, writeChunk := w.writeChunk,
    failBauds := w.failBauds }

/-- A change of surroundings keeps the log. -/
@[simp] theorem meet_log (l : LoggedPort) (w : Surroundings) : (l.meet w).log = l.log := rfl

/-- A change of surroundings sets the clock. -/
@[simp] theorem meet_now (l : LoggedPort) (w : Surroundings) : (l.meet w).now = w.now := rfl

variable (l : LoggedPort)

/-- The logged link's clock. -/
@[simp] theorem millis_eq : SerialLink.millis l = l.now := rfl

/-- The logged link's count of bytes waiting. -/
@[simp] theorem pending_eq : SerialLink.pending l = l.rx.size := rfl

/-- A note leaves the logged link. -/
@[simp] theorem note_eq (n : Note) : SerialLink.note n l = l := rfl

/-- A read hands over the first `n` bytes waiting and logs them. -/
@[simp] theorem read_run (n : Nat) :
    (SerialLink.read n : Action LoggedPort _).run l =
      (.ok (l.rx.take n).1,
        { l with rx := (l.rx.take n).2, log := l.log ++ [.read n (l.rx.take n).1] }) := rfl

/-- A write takes what one write allows and logs it. -/
@[simp] theorem write_run (bs : List UInt8) :
    (SerialLink.write bs : Action LoggedPort _).run l =
      (.ok (taken l.writeChunk bs.length),
        { l with log := l.log ++ [.write bs (taken l.writeChunk bs.length)] }) := rfl

/-- An open is logged, then fails at a listed rate or sets the rate. -/
@[simp] theorem reopen_run (b : UInt32) :
    (SerialLink.reopen b : Action LoggedPort _).run l =
      if b ∈ l.failBauds then
        (.error (.io s!"cannot open at {b}"), { l with log := l.log ++ [.reopen b] })
      else (.ok (), { l with baud := b, log := l.log ++ [.reopen b] }) := by
  show ((do
    let l ← get
    set { l with log := l.log ++ [PortCall.reopen b] }
    if b ∈ l.failBauds then
      throw (.io s!"cannot open at {b}")
    modify fun l => { l with baud := b }) : Action LoggedPort Unit).run l = _
  by_cases h : b ∈ l.failBauds <;> simp [Action.run_bind, h]

/-- Flow control is only logged. -/
@[simp] theorem setFlowControl_run (on : Bool) :
    (SerialLink.setFlowControl on : Action LoggedPort _).run l =
      (.ok (), { l with log := l.log ++ [.flowControl on] }) := rfl

/-- The break is only logged. -/
@[simp] theorem setBreak_run (on : Bool) :
    (SerialLink.setBreak on : Action LoggedPort _).run l =
      (.ok (), { l with log := l.log ++ [.setBreak on] }) := rfl

/-- RTS is only logged. -/
@[simp] theorem setRts_run (on : Bool) :
    (SerialLink.setRts on : Action LoggedPort _).run l =
      (.ok (), { l with log := l.log ++ [.setRts on] }) := rfl

/-- The reset line is only logged. -/
@[simp] theorem setReset_run (a : Bool) :
    (SerialLink.setReset a : Action LoggedPort _).run l =
      (.ok (), { l with log := l.log ++ [.setReset a] }) := rfl

/-- Flushing drops the bytes waiting and is logged. -/
@[simp] theorem flushRx_run :
    (SerialLink.flushRx : Action LoggedPort _).run l =
      (.ok (), { l with rx := {}, log := l.log ++ [.flushRx] }) := rfl

/-- The count of bytes waiting is answered and logged. -/
@[simp] theorem rxAvailable_run :
    (SerialLink.rxAvailable : Action LoggedPort _).run l =
      (.ok l.rx.size, { l with log := l.log ++ [.rxAvailable l.rx.size] }) := rfl

/-- The room in the transmitter is answered and logged. -/
@[simp] theorem txFree_run :
    (SerialLink.txFree : Action LoggedPort _).run l =
      (.ok l.txCapacity, { l with log := l.log ++ [.txFree l.txCapacity] }) := rfl

end LoggedPort

/-- Taking one byte hands over nothing or one byte. -/
theorem ByteQueue.take_one_cases (q : ByteQueue) : (q.take 1).1 = [] ∨ ∃ x, (q.take 1).1 = [x] := by
  rw [ByteQueue.take_fst]
  cases q.toList with
  | nil => exact .inl rfl
  | cons x rest => exact .inr ⟨x, rfl⟩

/-! ## Reading the log

What a log says about a conversation: the bytes the reads handed over, and the reply to a request,
which is the line read after the request's first write. A reply, once its carriage return is in,
stays what it is whatever the log goes on with (`replyTo_append`).
-/

namespace PortCall

/-- The bytes a call brought in: what a read handed over. -/
def heard : PortCall → List UInt8
  | .read _ got => got
  | _ => []

/-- The call is a write that offered exactly `bs`. -/
def offers (bs : List UInt8) : PortCall → Bool
  | .write offered _ => decide (offered = bs)
  | _ => false

end PortCall

/-- The calls after the first write that offered `bs`, if there was one. -/
def afterWrite (bs : List UInt8) : List PortCall → Option (List PortCall)
  | [] => none
  | c :: rest => if c.offers bs then some rest else afterWrite bs rest

/-- The line in received bytes: those before the first carriage return (13), once it came. -/
def lineOf (heard : List UInt8) : Option (List UInt8) :=
  if 13 ∈ heard then some (heard.takeWhile (· != 13)) else none

/-- The reply to the request `cmd` in a log: the line read after the first write of `cmd`. -/
def replyTo (cmd : List UInt8) (log : List PortCall) : Option (List UInt8) :=
  (afterWrite cmd log).bind fun post => lineOf (post.flatMap PortCall.heard)

section Log

variable {bs : List UInt8} {l m post : List PortCall}

/-- Once a write came, more calls only add to what follows it. -/
theorem afterWrite_append_of_some (h : afterWrite bs l = some post) :
    afterWrite bs (l ++ m) = some (post ++ m) := by
  induction l with
  | nil => cases h
  | cons c rest ih =>
    by_cases hc : c.offers bs = true
    · simp only [afterWrite, hc, if_true, Option.some.injEq] at h
      simp only [List.cons_append, afterWrite, hc, if_true, h]
    · simp only [afterWrite, hc, Bool.false_eq_true, if_false] at h
      simp only [List.cons_append, afterWrite, hc, Bool.false_eq_true, if_false]
      exact ih h

/-- Before a write came, the first one is sought in the calls after. -/
theorem afterWrite_append_of_none (h : afterWrite bs l = none) :
    afterWrite bs (l ++ m) = afterWrite bs m := by
  induction l with
  | nil => rfl
  | cons c rest ih =>
    by_cases hc : c.offers bs = true
    · simp [afterWrite, hc] at h
    · simp only [afterWrite, hc, Bool.false_eq_true, if_false] at h
      simp only [List.cons_append, afterWrite, hc, Bool.false_eq_true, if_false]
      exact ih h

/-- A log with no write offering `bs` has nothing after one. -/
theorem afterWrite_eq_none (h : ∀ c ∈ l, c.offers bs = false) : afterWrite bs l = none := by
  induction l with
  | nil => rfl
  | cons c rest ih =>
    simp only [List.mem_cons, forall_eq_or_imp] at h
    simp only [afterWrite, h.1, Bool.false_eq_true, if_false]
    exact ih h.2

/-- A line that ended stays the line when more bytes come. The carriage return in `h₁` stops the
line before `h₂` starts. -/
theorem lineOf_append {h₁ : List UInt8} (h₂ : List UInt8) {r : List UInt8}
    (h : lineOf h₁ = some r) : lineOf (h₁ ++ h₂) = some r := by
  unfold lineOf at h ⊢
  split at h
  · rename_i hm
    simp only [Option.some.injEq] at h
    have hshort : (h₁.takeWhile (· != 13)).length ≠ h₁.length := by
      intro hlen
      have hfull := (List.takeWhile_prefix (· != 13)).eq_of_length hlen
      have hall := List.all_eq_true.mp (hfull ▸ List.all_takeWhile (p := (· != 13)))
      simpa using hall 13 hm
    rw [if_pos (List.mem_append_left _ hm), List.takeWhile_append, if_neg hshort, h]
  · cases h

/-- Bytes up to a carriage return are the line. -/
theorem lineOf_line {line : List UInt8} (h : 13 ∉ line) (rest : List UInt8) :
    lineOf (line ++ 13 :: rest) = some line := by
  have hall : ∀ b ∈ line, (b != 13) = true := by
    intro b hb
    have : b ≠ 13 := fun hb13 => h (hb13 ▸ hb)
    simpa using this
  simp [lineOf, List.takeWhile_append_of_pos hall]

/-- A reply that came stays the reply when more calls come. -/
theorem replyTo_append {cmd r : List UInt8} (h : replyTo cmd l = some r) :
    replyTo cmd (l ++ m) = some r := by
  unfold replyTo at h ⊢
  obtain ⟨post, hpost, hline⟩ := Option.bind_eq_some_iff.mp h
  rw [afterWrite_append_of_some hpost, Option.bind_some, List.flatMap_append]
  exact lineOf_append _ hline

end Log

/-- The states an engine reaches from `s₀`: by its ticks, and by any change of its surroundings
between them. -/
inductive Reaches {σ : Type} (tick : σ → σ) (meet : Surroundings → σ → σ) (s₀ : σ) : σ → Prop
  | start : Reaches tick meet s₀ s₀
  | tick {s : σ} : Reaches tick meet s₀ s → Reaches tick meet s₀ (tick s)
  | meet {s : σ} (w : Surroundings) : Reaches tick meet s₀ s → Reaches tick meet s₀ (meet w s)

namespace Reaches

variable {σ : Type} {tick : σ → σ} {meet : Surroundings → σ → σ} {s₀ s : σ}

/-- A property of the start that every tick and every change of surroundings keeps holds of
every reachable state. -/
theorem induct_on (P : σ → Prop) (h₀ : P s₀) (htick : ∀ s, Reaches tick meet s₀ s → P s → P (tick s))
    (hmeet : ∀ w s, Reaches tick meet s₀ s → P s → P (meet w s)) (h : Reaches tick meet s₀ s) :
    P s := by
  induction h with
  | start => exact h₀
  | tick hs ih => exact htick _ hs ih
  | meet w hs ih => exact hmeet w _ hs ih

/-- Reaching is transitive: a state reached from a reachable state is reachable. -/
theorem trans {s₁ : σ} (h₁ : Reaches tick meet s₀ s₁) (h : Reaches tick meet s₁ s) :
    Reaches tick meet s₀ s := by
  induction h with
  | start => exact h₁
  | tick _ ih => exact ih.tick
  | meet w _ ih => exact ih.meet w

end Reaches

end RadioFlash
