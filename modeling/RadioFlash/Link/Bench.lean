import RadioFlash.Link.Basic
/-!
# A bench link

A link whose far end is played by a script: bytes "received" are queued by hand, bytes written
are collected, and the clock moves only when told. Every operation succeeds except opening at a
baud rate listed as failing; writes take at most `writeChunk` bytes when that is set. The bench
keeps a record of every open, break edge and reset pulse, so a run can be inspected afterwards.
It discards notes.

Received bytes wait in a `ByteQueue`, whose list view `toList` is what the lemmas speak of:
`push` appends to it and `take` splits it. Written bytes are kept newest first until they are
handed over, so that a long transfer costs only the bytes it writes.
-/

namespace RadioFlash

/-- Bytes waiting to be read. The oldest are in `front`, oldest first, and the newest in `back`,
newest first, so that adding bytes and taking them costs only the bytes moved. -/
structure ByteQueue where
  front : List UInt8 := []
  back : List UInt8 := []
  /-- How many bytes wait, kept so that counting them costs nothing. -/
  size : Nat := 0
  size_eq : size = front.length + back.length := by rfl

/-- The empty queue. -/
instance : Inhabited ByteQueue := ⟨{}⟩

namespace ByteQueue

/-- The waiting bytes, oldest first. -/
def toList (q : ByteQueue) : List UInt8 :=
  q.front ++ q.back.reverse

/-- Add bytes after those waiting. -/
def push (bs : List UInt8) (q : ByteQueue) : ByteQueue where
  front := q.front
  back := bs.reverse ++ q.back
  size := q.size + bs.length
  size_eq := by simp [q.size_eq]; omega

/-- Take up to `n` of the oldest bytes. -/
def take (n : Nat) (q : ByteQueue) : List UInt8 × ByteQueue :=
  let got := q.front.take n
  if h : got.length = n then
    (got, { front := q.front.drop n, back := q.back, size := q.size - n,
            size_eq := by simp [got] at h; simp [q.size_eq]; omega })
  else
    let all := q.toList
    (all.take n, { front := all.drop n, back := [], size := q.size - n,
                   size_eq := by simp [all, toList, q.size_eq] })

/-- A queue's size is the count of its bytes. -/
theorem size_eq_length (q : ByteQueue) : q.size = q.toList.length := by
  simp [toList, q.size_eq]

/-- Pushed bytes come after those waiting. -/
@[simp] theorem toList_push (bs : List UInt8) (q : ByteQueue) :
    (q.push bs).toList = q.toList ++ bs := by
  simp [push, toList]

/-- Taking hands over the first `n` bytes. -/
theorem take_fst (n : Nat) (q : ByteQueue) : (q.take n).1 = q.toList.take n := by
  unfold take
  dsimp only
  split
  · rename_i h
    simp only [List.length_take] at h
    simp only [toList]
    rw [List.take_append_of_le_length (by omega)]
  · rfl

/-- Taking leaves the bytes after the first `n`. -/
theorem take_snd (n : Nat) (q : ByteQueue) : (q.take n).2.toList = q.toList.drop n := by
  unfold take
  dsimp only
  split
  · rename_i h
    simp only [List.length_take] at h
    simp only [toList]
    rw [List.drop_append_of_le_length (by omega)]
  · simp [toList]

end ByteQueue

/-- The state of a bench link. -/
structure BenchPort where
  /-- Bytes waiting to be read. -/
  rx : ByteQueue := {}
  /-- Bytes written since they were last handed over, newest first, so that a write adds only its
  own bytes. -/
  txNewestFirst : List UInt8 := []
  now : Millis := 0
  baud : UInt32 := 0
  /-- Every baud rate passed to an open, failed ones included. -/
  opens : Array UInt32 := #[]
  failBauds : List UInt32 := []
  breakOn : Bool := false
  /-- Rising edges of the break condition. -/
  breaks : Nat := 0
  rts : Bool := false
  flow : Bool := false
  resetAsserted : Bool := false
  /-- Releases of an asserted reset line. -/
  resetPulses : Nat := 0
  txCapacity : Nat := 4096
  writeChunk : Option Nat := none
deriving Inhabited

namespace BenchPort

/-- Read up to `n` queued bytes. -/
def takeRx (n : Nat) : Action BenchPort (List UInt8) :=
  modifyGet fun p =>
    let (bs, q) := p.rx.take n
    (bs, { p with rx := q })

/-- Collect bytes, as many as one write takes. -/
def putTx (bs : List UInt8) : Action BenchPort Nat := do
  modifyGet fun p =>
    let n := p.writeChunk.elim bs.length (min bs.length)
    (n, { p with txNewestFirst := (bs.take n).reverse ++ p.txNewestFirst })

/-- Record an open; fails for the listed rates. -/
def openAt (b : UInt32) : Action BenchPort Unit := do
  let p ← get
  set { p with opens := p.opens.push b }
  if p.failBauds.contains b then
    throw (.io s!"cannot open at {b}")
  modify fun p => { p with baud := b, breakOn := false, flow := false }

/-- Set the break condition, counting rising edges. -/
def breakTo (on : Bool) : Action BenchPort Unit :=
  modify fun p => { p with breaks := if on && !p.breakOn then p.breaks + 1 else p.breaks, breakOn := on }

/-- Set the reset line, counting releases. -/
def resetTo (asserted : Bool) : Action BenchPort Unit :=
  modify fun p => { p with
    resetPulses := if p.resetAsserted && !asserted then p.resetPulses + 1 else p.resetPulses,
    resetAsserted := asserted }

/-- The bench link: its far end is a script, and it keeps every byte written and every open. -/
instance : SerialLink BenchPort where
  name _ := "mock"
  baudRate p := p.baud
  millis p := p.now
  pending p := p.rx.size
  note _ p := p
  read := takeRx
  write := putTx
  reopen := openAt
  setFlowControl on := modify fun p => { p with flow := on }
  setBreak := breakTo
  setRts on := modify fun p => { p with rts := on }
  setReset := resetTo
  flushRx := modify fun p => { p with rx := {} }
  rxAvailable := do pure (← get).rx.size
  txFree := do pure (← get).txCapacity
  close := pure ()

/-- Bytes written since they were last handed over, oldest first. -/
def written (p : BenchPort) : List UInt8 :=
  p.txNewestFirst.reverse

/-- Hand over the bytes written since the last call. -/
def takeTx (p : BenchPort) : Array UInt8 × BenchPort :=
  (p.written.toArray, { p with txNewestFirst := [] })

/-- Adding bytes newest first puts them after those already written. -/
theorem written_prepend (p : BenchPort) (bs : List UInt8) :
    ({ p with txNewestFirst := bs.reverse ++ p.txNewestFirst } : BenchPort).written = p.written ++ bs := by
  simp [written]

end BenchPort

end RadioFlash
