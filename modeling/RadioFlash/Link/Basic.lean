import RadioFlash.Action
import RadioFlash.Clock
import RadioFlash.Journal
import RadioFlash.Text.Ascii
import RadioFlash.Text.Hex
/-!
# Serial links

The engines steer a radio module through a serial link: non-blocking reads and writes that may
move fewer bytes than asked (none at all included), re-opening at a baud rate, a serial break,
the RTS line, hardware flow control, the module's reset line, buffer levels and a free-running
millisecond counter. `SerialLink` collects these operations; a link also receives the notes the
engines write.

Reads never wait. `drain` reads until a read comes back empty, which happens after at most
`pending` bytes, since a link delivers only what it holds.
-/

namespace RadioFlash

/-- Which host output drives the module's reset pin. -/
inductive ResetLine where
  /-- DTR is wired to reset; asserted DTR holds the module in reset. -/
  | dtr
  /-- Reset is not wired; the user resets the module by hand. -/
  | unwired
deriving DecidableEq, Inhabited, Repr

namespace ResetLine

/-- Read a reset line name: `dtr`, or `none` and `manual` in any case. -/
def ofName? (name : String) : Option ResetLine :=
  match Text.asciiLower name with
  | "dtr" => some dtr
  | "none" | "manual" => some unwired
  | _ => none

end ResetLine

/-- The operations of a serial link whose state is `π`. -/
class SerialLink (π : Type) where
  /-- The device path or name. -/
  name : π → String
  /-- The current baud rate. -/
  baudRate : π → UInt32
  /-- The millisecond counter. -/
  millis : π → Millis
  /-- Bytes the link holds for reading. -/
  pending : π → Nat
  /-- Record a diagnostic note. -/
  note : Note → π → π
  /-- Read what is available, up to the given count. -/
  read : Nat → Action π (List UInt8)
  /-- Queue bytes for sending; answers how many were taken. -/
  write : List UInt8 → Action π Nat
  /-- (Re)open at a baud rate; drops a break and turns flow control off. -/
  reopen : UInt32 → Action π Unit
  setFlowControl : Bool → Action π Unit
  setBreak : Bool → Action π Unit
  setRts : Bool → Action π Unit
  /-- Assert or release the module's reset line. -/
  setReset : Bool → Action π Unit
  /-- Discard everything received so far. -/
  flushRx : Action π Unit
  rxAvailable : Action π Nat
  txFree : Action π Nat
  close : Action π Unit

namespace SerialLink

variable {π : Type} [SerialLink π]

/-- Record a note from `origin` at `level`. -/
def say (level : Level) (origin text : String) : Action π Unit :=
  modify (note { level, origin, text })

/-- Read one byte if one is available. -/
def readByte : Action π (Option UInt8) := do
  let bs ← read 1
  pure bs.head?

/-- Write one byte; a link that takes nothing is full. -/
def writeByte (b : UInt8) : Action π Unit := do
  if (← write [b]) = 0 then
    let t := Text.hexUpper 2 b.toNat
    throw (.resourceExhausted s!"transmit buffer full writing 0x{t}")

/-- Read in pieces of 64 until a read comes back empty, at most `fuel` times; answers the count. -/
def drainWith : Nat → Nat → Action π Nat
  | 0, total => pure total
  | fuel + 1, total => do
    let bs ← read 64
    if bs.isEmpty then pure total else drainWith fuel (total + bs.length)

/-- Discard everything currently readable; answers how many bytes were dropped. -/
def drain : Action π Nat := do
  drainWith (pending (← get) + 1) 0

/-- Assert the reset line, then release it. -/
def pulseReset : Action π Unit := do
  setReset true
  setReset false

end SerialLink

end RadioFlash
