import RadioFlash.Link.Basic
import RadioFlash.Host.Terminal
/-!
# Native serial ports

A native port opens a device path of the host. What the path leads to decides what the port can
do: a pseudo-terminal moves bytes to and from the device on its other end but has no modem
lines, an on-board serial controller with nothing attached takes every write and never answers,
and anything else cannot be opened. Opening again releases the old handle first, so a failed
open leaves the port closed. Every operation other than `name` and `baudRate` fails on a closed
port.

Reads never wait: only the bytes the terminal shows are read. The transmit buffer is reported as
4096 bytes, all free, since a terminal keeps nothing back on the port's side. The port keeps its
notes, for a command line to print.
-/

namespace RadioFlash

/-- What a device path leads to on the host. -/
inductive Endpoint where
  /-- A pseudo-terminal whose other end a device holds. -/
  | terminal (t : Terminal)
  /-- A serial controller with nothing attached: writes go out, nothing comes back. -/
  | idleUart
  /-- A regular file. -/
  | file
  | directory
  /-- Nothing exists at the path. -/
  | missing
  /-- The path cannot be opened, for the reason the driver gives. -/
  | refused (why : String)
deriving Inhabited

/-- How a native port is set up. -/
structure PortConfig where
  name : String
  baud : UInt32 := 115200
  resetLine : ResetLine := .dtr
deriving Inhabited, Repr

/-- The transmit buffer size a native port reports. -/
def nativeTxBuffer : Nat := 4096

/-- The state of a native port. -/
structure NativePort where
  name : String
  endpoint : Endpoint
  isOpen : Bool := false
  baud : UInt32
  resetLine : ResetLine
  resetAsserted : Bool := false
  /-- Milliseconds since the port was created. -/
  clock : Millis := 0
  /-- Notes written so far, oldest first. -/
  journal : Array Note := #[]
deriving Inhabited

namespace NativePort

/-- A port set up but not yet opened. -/
def unopened (c : PortConfig) (e : Endpoint) : NativePort :=
  { name := c.name, endpoint := e, baud := c.baud, resetLine := c.resetLine }

/-- Where this part's notes come from. -/
def origin : String := "xbflash::port::native"

/-- Record a note. -/
def note (n : Note) (p : NativePort) : NativePort :=
  { p with journal := p.journal.push n }

/-- Record a note of this part. -/
def say (level : Level) (text : String) : Action NativePort Unit :=
  modify (note { level, origin, text })

/-- The endpoint, provided the port is open. -/
def live : Action NativePort Endpoint := do
  let p ← get
  unless p.isOpen do
    throw (.invalidState s!"port {p.name} is closed")
  pure p.endpoint

/-- The terminal's error for a hung-up line. -/
def ioFailure : Error := .serial "I/O error"

/-- Fail on a hung-up terminal. -/
def ensureLine : Action NativePort Unit := do
  match ← live with
  | .terminal t => if t.hungUp then throw ioFailure
  | _ => pure ()

/-- Change the terminal behind the port. -/
def onTerminal (f : Terminal → Terminal) (p : NativePort) : NativePort :=
  match p.endpoint with
  | .terminal t => { p with endpoint := .terminal (f t) }
  | _ => p

/-- Read up to `n` of the bytes the line shows. -/
def read (n : Nat) : Action NativePort (List UInt8) := do
  match ← live with
  | .terminal t =>
    if t.hungUp then throw ioFailure
    if t.available = 0 ∨ n = 0 then pure []
    else
      let (bs, t') := t.take n
      modify (onTerminal fun _ => t')
      pure bs
  | _ => pure []

/-- Write what the line takes: a terminal what fits, a controller everything. -/
def write (bs : List UInt8) : Action NativePort Nat := do
  match ← live with
  | .terminal t =>
    if t.hungUp then throw (.io "Broken pipe")
    let (k, t') := t.put bs
    modify (onTerminal fun _ => t')
    pure k
  | _ => pure bs.length

/-- The modem lines: a controller has them, a terminal has none. -/
def modemLine : Action NativePort Unit := do
  match ← live with
  | .terminal t => throw (if t.hungUp then ioFailure else .serial "Not a typewriter")
  | _ => pure ()

/-- Assert or release the reset line; an unwired line only asks for a manual reset. -/
def setReset (asserted : Bool) : Action NativePort Unit := do
  modify fun p => { p with resetAsserted := asserted }
  match (← get).resetLine with
  | .dtr =>
    say .trace s!"Setting reset (DTR) to {asserted}"
    modemLine
  | .unwired =>
    if asserted then say .warn "Reset line not wired, reset the module manually"

/-- The error opening a path gives, if any. -/
def openFailure : Endpoint → Option Error
  | .terminal t => if t.hungUp then some (.serial "No such file or directory") else none
  | .idleUart => none
  | .file => some (.serial "Not a typewriter")
  | .directory => some (.serial "Is a directory")
  | .missing => some (.serial "No such file or directory")
  | .refused why => some (.serial why)

/-- Release the handle and open the path again at a baud rate, then restore the reset line. -/
def reopen (baud : UInt32) : Action NativePort Unit := do
  let p ← get
  say .debug s!"Opening {p.name} at {baud} baud"
  modify fun p => { p with isOpen := false }
  match openFailure p.endpoint with
  | some e => throw e
  | none =>
    modify fun p => { p with isOpen := true, baud }
    setReset p.resetAsserted

/-- The native link over a pseudo-terminal of the machine. -/
instance : SerialLink NativePort where
  name p := p.name
  baudRate p := p.baud
  millis p := p.clock
  pending p := match p.endpoint with
    | .terminal t => t.available
    | _ => 0
  note := note
  read := read
  write := write
  reopen := reopen
  setFlowControl on := do
    say .trace s!"Setting flow control to {on}"
    ensureLine
  setBreak on := do
    say .trace s!"Setting break to {on}"
    ensureLine
  setRts level := do
    say .trace s!"Setting RTS to {level}"
    modemLine
  setReset := setReset
  flushRx := do
    ensureLine
    modify (onTerminal Terminal.flush)
  rxAvailable := do
    match ← live with
    | .terminal t => if t.hungUp then throw ioFailure else pure t.available
    | _ => pure 0
  txFree := do
    ensureLine
    pure nativeTxBuffer
  close := modify fun p => { p with isOpen := false }

/-- Set up a port and open it. -/
def start (c : PortConfig) (e : Endpoint) : Except Error Unit × NativePort :=
  (reopen c.baud).run (unopened c e)

/-- The device on the far end sends bytes. -/
def deviceSend (bs : List UInt8) (p : NativePort) : NativePort :=
  onTerminal (Terminal.send bs) p

/-- The device on the far end reads up to `n` bytes. -/
def deviceReceive (n : Nat) (p : NativePort) : List UInt8 × NativePort :=
  match p.endpoint with
  | .terminal t =>
    let (bs, t') := t.receive n
    (bs, { p with endpoint := .terminal t' })
  | _ => ([], p)

/-- The device on the far end closes its end. -/
def hangUp (p : NativePort) : NativePort :=
  onTerminal Terminal.hangUp p

/-- Move the clock on. -/
def advance (ms : Millis) (p : NativePort) : NativePort :=
  { p with clock := p.clock + ms }

/-- Hand over the notes written so far and forget them. -/
def takeJournal (p : NativePort) : Array Note × NativePort :=
  (p.journal, { p with journal := #[] })

end NativePort

end RadioFlash
