import RadioFlash.Link.Basic
import RadioFlash.Text.Quote
import RadioFlash.Text.Utf8
/-!
# Command mode

A radio module passes data through transparently until it sees the escape sequence: three
escape characters framed by guard times of silence. It then answers `OK\r` and takes
line-oriented `AT` requests until it has been idle for its command timeout, or until `ATCN`.

A `Target` wraps the link to a module and tracks the module's mode. Every call returns at once;
after `enter`, keep calling `tick` until it reports `command` (entered) or `idle` (failed).
Waits compare the clock with the time of the last mode change: the guard window is the guard
time plus 200 ms, saturating, the idle window is the command timeout times 100 ms, saturating,
and a response is awaited 2000 ms.
-/

namespace RadioFlash

/-- The driver's view of the module's mode. -/
inductive Mode where
  /-- No transition has happened yet. -/
  | unknown
  /-- Transparent data mode. -/
  | idle
  /-- Waiting out the guard time before the escape sequence. -/
  | preEscape
  /-- Escape sent; waiting for `OK\r`. -/
  | postEscape
  /-- In command mode, ready for a request. -/
  | command
  /-- A request was sent; waiting for its response line. -/
  | waitResponse
  /-- `ATCN` was sent; waiting to be back in data mode. -/
  | waitIdle
deriving DecidableEq, Inhabited, Repr

namespace Mode

/-- The name of a mode, as diagnostics print it. -/
def name : Mode → String
  | unknown => "Unknown"
  | idle => "Idle"
  | preEscape => "PreEscape"
  | postEscape => "PostEscape"
  | command => "Command"
  | waitResponse => "WaitResponse"
  | waitIdle => "WaitIdle"

end Mode

/-- Command mode timing, as the module's registers hold it. -/
structure AtConfig where
  /-- Guard time in milliseconds. -/
  guardTimeMs : UInt32 := 1000
  /-- Command mode timeout in units of 100 ms. -/
  idleTimeout : UInt32 := 100
  /-- The escape character. -/
  escapeChar : UInt8 := 43
deriving DecidableEq, Inhabited, Repr

namespace AtConfig

/-- Silence before and after the escape: the guard time and 200 ms more, saturating. -/
def guardWindow (c : AtConfig) : UInt32 :=
  if c.guardTimeMs.toNat + 200 ≥ 4294967296 then 0xFFFFFFFF else c.guardTimeMs + 200

/-- How long command mode lasts without a request: the timeout times 100 ms, saturating. -/
def idleWindow (c : AtConfig) : UInt32 :=
  if c.idleTimeout.toNat * 100 ≥ 4294967296 then 0xFFFFFFFF else c.idleTimeout * 100

end AtConfig

/-- How long a response line is awaited, and how long `ATCN` takes. -/
def responseTimeoutMs : UInt32 := 2000

/-- A radio module behind a link, with the mode the driver believes it is in. -/
structure Target (π : Type) where
  port : π
  config : AtConfig := {}
  mode : Mode := .unknown
  /-- Time of the last mode change or request. -/
  modeTimer : Millis := 0

/-- A response buffer and the position where the next byte goes. -/
structure LineBuffer where
  bytes : Array UInt8
  cursor : Nat := 0
deriving Inhabited

namespace Target

variable {π : Type} [SerialLink π]

/-- Wrap a link; the mode timer starts at the link's clock. -/
def make (port : π) (config : AtConfig := {}) : Target π :=
  { port, config, modeTimer := SerialLink.millis port }

/-- Run a link operation on the target's link. -/
def onPort {α : Type} (m : Action π α) : Action (Target π) α :=
  Action.focus (·.port) (fun p t => { t with port := p }) m

/-- Where this part's notes come from. -/
def origin : String := "xbflash::target::atmode"

/-- Record a note. -/
def say (level : Level) (text : String) : Action (Target π) Unit :=
  onPort (SerialLink.say level origin text)

/-- The link's clock. -/
def now : Action (Target π) Millis := do
  pure (SerialLink.millis (← get).port)

/-- `ms` milliseconds have passed since the last mode change. -/
def waited (t : Target π) (now : Millis) (ms : UInt32) : Bool :=
  (Deadline.arm t.modeTimer ms).elapsed now

/-- Change mode and restart the mode timer. -/
def enterMode (m : Mode) : Action (Target π) Unit := do
  let t ← get
  say .debug s!"AT mode {t.mode.name} -> {m.name}"
  let now ← now
  modify fun t => { t with mode := m, modeTimer := now }

/-- Advance the timers and answer the current mode. -/
def tick : Action (Target π) Mode := do
  let t ← get
  let now := SerialLink.millis t.port
  match t.mode with
  | .preEscape =>
    if t.waited now t.config.guardWindow then
      say .debug "Guard time elapsed, sending escape sequence"
      let e := t.config.escapeChar
      let written ← onPort (SerialLink.write [e, e, e])
      if written < 3 then
        throw (.resourceExhausted "escape sequence did not fit the transmit buffer")
      enterMode .postEscape
      onPort SerialLink.flushRx
  | .postEscape =>
    if (← onPort SerialLink.rxAvailable) ≥ 3 then
      let reply ← onPort (SerialLink.read 3)
      let shown := Text.quoteText (Text.utf8Lossy reply)
      say .trace s!"Escape reply {shown}"
      if reply = [79, 75, 13] then enterMode .command else enterMode .idle
    else if t.waited now t.config.guardWindow then
      say .debug "Guard time expired before 'OK'"
      enterMode .idle
  | .waitResponse =>
    if t.waited now responseTimeoutMs then
      say .debug "Timed out waiting for response"
      modify fun t => { t with mode := .command }
  | .waitIdle =>
    if t.waited now responseTimeoutMs then
      modify fun t => { t with mode := .idle }
  | .command =>
    if t.waited now t.config.idleWindow then
      say .debug "Command mode timed out, module is idle again"
      modify fun t => { t with mode := .idle }
  | .unknown | .idle => pure ()
  pure (← get).mode

/-- Send `AT`, the command and a carriage return, then wait for the response; refused when the
transmit buffer cannot take the whole request. -/
def sendRequest (command : List UInt8) : Action (Target π) Unit := do
  let needed := command.length + 3
  let shown := Text.utf8Lossy command
  if (← onPort SerialLink.txFree) < needed then
    throw (.resourceExhausted s!"no room for AT{shown} ({needed} bytes)")
  say .debug s!"Sending AT{shown}"
  let _ ← onPort (SerialLink.write [65, 84])
  let _ ← onPort (SerialLink.write command)
  let _ ← onPort (SerialLink.write [13])
  enterMode .waitResponse

/-- Start entering command mode; nothing happens while a transition is under way or the module
is already in command mode. -/
def enter : Action (Target π) Unit := do
  match ← tick with
  | .unknown | .idle =>
    let c := (← get).config
    let g := c.guardTimeMs.toNat
    let e := Text.quoteChar (Char.ofNat c.escapeChar.toNat)
    say .debug s!"Entering command mode (guard={g} ms, escape={e})"
    enterMode .preEscape
  | _ =>
    let m := (← get).mode.name
    say .trace s!"Ignoring command mode request, already in {m}"

/-- Leave command mode; refused while the escape or a request still waits for its reply. -/
def exit : Action (Target π) Unit := do
  match ← tick with
  | .preEscape =>
    say .debug "Aborting wait to enter command mode"
    enterMode .idle
  | .postEscape | .waitResponse => throw .busy
  | .command =>
    say .debug "Sending ATCN"
    sendRequest [67, 78]
    modify fun t => { t with mode := .waitIdle }
  | other => say .trace s!"Mode unchanged ({other.name})"

/-- Pulse the reset line; the module comes back in an unknown mode. -/
def resetModule : Action (Target π) Unit := do
  onPort SerialLink.pulseReset
  let now ← now
  modify fun t => { t with mode := .unknown, modeTimer := now }

/-- How far a response line has come. -/
inductive LineScan where
  /-- The carriage return arrived after this many bytes. -/
  | ended (len : Nat)
  /-- Nothing more to read yet. -/
  | waiting
  /-- Nothing more arrived within the response time. -/
  | timedOut

/-- Run a target action beside a line buffer. -/
def withLine {α : Type} (m : Action (Target π) α) : Action (Target π × LineBuffer) α :=
  Action.focus Prod.fst (fun t p => (t, p.2)) m

/-- Move received bytes into the buffer until the carriage return, storing each at the cursor.
Each stored byte moves the cursor, so `fuel` one more than the free room is never exhausted: the
buffer is full before that. -/
def scanLine : Nat → Action (Target π × LineBuffer) LineScan
  | 0 => pure .waiting
  | fuel + 1 => do
    let b := (← get).2
    if b.cursor ≥ b.bytes.size then
      throw .insufficientSpace
    match ← withLine (onPort SerialLink.readByte) with
    | some 13 => pure (.ended b.cursor)
    | some byte =>
      modify fun (t, b) => (t, { bytes := b.bytes.setIfInBounds b.cursor byte, cursor := b.cursor + 1 })
      scanLine fuel
    | none =>
      let t := (← get).1
      if t.waited (SerialLink.millis t.port) responseTimeoutMs then pure .timedOut
      else pure .waiting

/-- Collect the response to the last request into the buffer, from its cursor on: the line's
length once its carriage return (not stored) is in, `none` while it is not. A line or a timeout
ends the wait: the module is back in command mode, or idle after `ATCN`. -/
def readResponse : Action (Target π × LineBuffer) (Option Nat) := do
  let mode := (← get).1.mode
  unless mode = .waitIdle ∨ mode = .waitResponse do
    throw (.invalidState s!"not waiting for a response (mode {mode.name})")
  let b := (← get).2
  let scan ← scanLine (b.bytes.size - b.cursor + 1)
  match scan with
  | .waiting => pure none
  | .ended len =>
    let next := if mode = .waitIdle then Mode.idle else Mode.command
    modify fun p => ({ p.1 with mode := next }, p.2)
    withLine (say .debug s!"Success waiting for response, now in {next.name} mode")
    let shown := Text.quoteText (Text.utf8Lossy ((← get).2.bytes.extract 0 len).toList)
    withLine (say .trace s!"Response {shown}")
    pure (some len)
  | .timedOut =>
    let next := if mode = .waitIdle then Mode.idle else Mode.command
    modify fun p => ({ p.1 with mode := next }, p.2)
    withLine (say .debug s!"Timeout waiting for response, now in {next.name} mode")
    throw (.timeout "no response to AT request")

end Target

end RadioFlash
