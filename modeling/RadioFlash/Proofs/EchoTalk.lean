import RadioFlash.Proofs.ImageReading
/-!
# The block-echo talk

What a correct block-echo transfer looks like on the link, said without the session: a monitor
that reads the calls made after the bootloader's knock, one at a time, and refuses the first one
a correct transfer would not make. Outbound blocks go out in order, as their payload bytes
without the length word, each write at most the room just reported and at most 128 bytes, and
each copy in full before anything else. The reads that follow a copy are held against the echo
block; only a complete echo moves on to the next block, and a wrong echo sends the same block
again after a flush, four copies at most. Past the last block come the module's reset pulse and
its reopening at 9600 baud.

`talk data ps` runs the monitor over a log for the pairs `ps` of the image `data`.
-/

namespace RadioFlash

namespace EchoPair

/-- The outbound payload, its length word left out. -/
def payload (data : Array UInt8) (p : EchoPair) : List UInt8 :=
  (data.extract (p.start + 2) p.echoStart).toList

/-- The echo the bootloader has to send back. -/
def echo (data : Array UInt8) (p : EchoPair) : List UInt8 :=
  (data.extract (p.echoStart + 2) p.next).toList

end EchoPair

/-- A run of bytes inside a slice of the image is the image there. -/
theorem extract_slice (data : Array UInt8) {a b i n : Nat} (h : a + i + n ≤ b) :
    ((data.extract a b).toList.drop i).take n = (data.extract (a + i) (a + i + n)).toList := by
  simp only [Array.toList_extract, List.extract_eq_take_drop, List.drop_take, List.take_take,
    List.drop_drop]
  congr 1
  omega

/-- Where a block-echo transfer stands, as the calls on the link since the knock show it. -/
inductive Talk where
  /-- Waiting for the bootloader to answer the knock. -/
  | prompt
  /-- Copy `copy` of outbound block `k` is going out, `sent` payload bytes of it so far; `room`
  is the transmit room last reported and not yet written into. -/
  | sending (k copy sent : Nat) (room : Option Nat)
  /-- Copy `copy` of block `k` is out, and the first `heard` bytes of its echo came back. -/
  | echoing (k copy heard : Nat)
  /-- The echo of copy `copy` of block `k` came back wrong. -/
  | failed (k copy : Nat)
  /-- Every block is through and the first `n` calls of the final reset are made. -/
  | closing (n : Nat)
  /-- The bootloader answered the knock with something else. -/
  | refused
deriving DecidableEq, Repr

namespace Talk

/-- The calls that end a transfer: the reset pulse, and the module reopened at 9600 baud with
flow control. -/
def closingCalls : List PortCall :=
  [.setReset true, .setReset false, .reopen 9600, .flowControl true]

section Monitor

variable (data : Array UInt8) (ps : List EchoPair)

/-- Copy `copy` of block `k` about to go out, or the final reset once every block is through. -/
def toSend (k copy : Nat) : Talk :=
  if k < ps.length then .sending k copy 0 none else .closing 0

/-- The monitor's step: where the transfer stands after one more call, or `none` for a call a
correct transfer does not make. A write must be a non-empty piece of what is left of the payload,
within the room and 128 bytes. -/
def step : Talk → PortCall → Option Talk
  | .prompt, .read 1 [] => some .prompt
  | .prompt, .read 1 [b] => some (if b = 85 ∨ b = 17 then toSend ps 0 1 else .refused)
  | .sending k c sent _, .txFree room => some (.sending k c sent (some room))
  | .sending k c sent (some room), .write bs n =>
    match ps[k]? with
    | none => none
    | some p =>
      if 0 < bs.length ∧ bs.length ≤ min room 128 ∧
          bs = ((p.payload data).drop sent).take bs.length ∧ n ≤ bs.length then
        some (if sent + n = p.out then
            (if p.back = 0 then toSend ps (k + 1) 1 else .echoing k c 0)
          else .sending k c (sent + n) none)
      else none
  | .echoing k c heard, .read _ got =>
    match ps[k]? with
    | none => none
    | some p =>
      if got = ((p.echo data).drop heard).take got.length then
        some (if heard + got.length = p.back then toSend ps (k + 1) 1
          else .echoing k c (heard + got.length))
      else some (.failed k c)
  | .echoing k c _, .flushRx => if c < 4 then some (toSend ps k (c + 1)) else none
  | .failed k c, .flushRx => if c < 4 then some (toSend ps k (c + 1)) else none
  | .closing n, call => if closingCalls[n]? = some call then some (.closing (n + 1)) else none
  | _, _ => none

end Monitor

end Talk

/-- The monitor run over the calls since the knock, from the wait for the bootloader's answer. -/
def talk (data : Array UInt8) (ps : List EchoPair) (calls : List PortCall) : Option Talk :=
  calls.foldlM (Talk.step data ps) .prompt

namespace Talk

variable {data : Array UInt8} {ps : List EchoPair}

/-- Following a longer log goes on from where the shorter one left the talk. -/
theorem talk_append {L : List PortCall} {st : Talk} (h : talk data ps L = some st)
    (M : List PortCall) : talk data ps (L ++ M) = M.foldlM (step data ps) st := by
  rw [talk, List.foldlM_append]
  exact congrArg (· >>= _) h

/-- Before the last pair, copy `c` of pair `k` is about to go out. -/
theorem toSend_of_lt {k : Nat} (c : Nat) (hk : k < ps.length) : toSend ps k c = .sending k c 0 none :=
  if_pos hk

/-- Past the last pair, the final reset is next. -/
theorem toSend_length (c : Nat) : toSend ps ps.length c = .closing 0 :=
  if_neg (Nat.lt_irrefl _)

/-- A write of the next piece of the payload, within the room just reported. -/
theorem step_write {k c sent room n : Nat} {bs : List UInt8} {p : EchoPair} (hp : ps[k]? = some p)
    (hpos : 0 < bs.length) (hroom : bs.length ≤ min room 128)
    (hbs : bs = ((p.payload data).drop sent).take bs.length) (hn : n ≤ bs.length) :
    step data ps (.sending k c sent (some room)) (.write bs n) =
      some (if sent + n = p.out then (if p.back = 0 then toSend ps (k + 1) 1 else .echoing k c 0)
        else .sending k c (sent + n) none) := by
  simp only [step, hp]
  rw [if_pos ⟨hpos, hroom, hbs, hn⟩]

/-- A read while the echo comes back: it goes on matching the echo, or it fails. -/
theorem step_read_echo {k c heard asked : Nat} {got : List UInt8} {p : EchoPair}
    (hp : ps[k]? = some p) :
    step data ps (.echoing k c heard) (.read asked got) =
      if got = ((p.echo data).drop heard).take got.length then
        some (if heard + got.length = p.back then toSend ps (k + 1) 1
          else .echoing k c (heard + got.length))
      else some (.failed k c) := by
  simp only [step, hp]

end Talk

namespace EchoPair

variable {data : Array UInt8} {p : EchoPair}

/-- The bytes the transfer reads for the next `n` bytes of a payload, `sent` of it already out,
are that piece of the payload. -/
theorem payload_piece {sent n : Nat} (h : sent + n ≤ p.out) :
    (data.extract (p.start + 2 + sent) (p.start + 2 + sent + n)).toList =
      ((p.payload data).drop sent).take n := by
  have hb : p.start + 2 + sent + n ≤ p.echoStart := by
    simp only [echoStart]
    omega
  rw [payload, extract_slice data hb]

/-- The bytes the transfer compares against the next `n` bytes of an echo, `heard` of it
already matched, are that piece of the echo. -/
theorem echo_piece {heard n : Nat} (h : heard + n ≤ p.back) :
    (data.extract (p.echoStart + 2 + heard) (p.echoStart + 2 + heard + n)).toList =
      ((p.echo data).drop heard).take n := by
  have hb : p.echoStart + 2 + heard + n ≤ p.next := by
    simp only [next]
    omega
  rw [echo, extract_slice data hb]

/-- Bytes read back match the image at the echo's next position exactly when they are the next
piece of the echo. -/
theorem matches_echo_iff {heard : Nat} {got : List UInt8} (h : heard + got.length ≤ p.back) :
    got.toArray = data.extract (p.echoStart + 2 + heard) (p.echoStart + 2 + heard + got.length) ↔
      got = ((p.echo data).drop heard).take got.length := by
  rw [← echo_piece h]
  constructor
  · intro he
    rw [← he, List.toList_toArray]
  · intro he
    exact (congrArg List.toArray he).trans Array.toArray_toList

end EchoPair

end RadioFlash
