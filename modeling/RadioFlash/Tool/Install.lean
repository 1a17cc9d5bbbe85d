import RadioFlash.Install.Session
import RadioFlash.Tool.Console
import RadioFlash.Tool.Settings
import RadioFlash.Host.Workspace
import RadioFlash.Host.Responder
/-!
# The install command

Installing an image: read it, settle the install procedure (given, or told by the image), read
the command-mode settings, choose the port, open it at 115200 baud, then tick the session until
it completes or fails, 5 ms apart. Between ticks the device on the far end of the port hears
what was written and answers by its rules.

The port is the one given on the command line or in the environment, else the one in the
settings, else one found on the machine: in non-interactive mode only when it is the only one,
otherwise the best candidate. A session that has not ended after ten seconds of port time is
waiting for an answer that never comes.
-/

namespace RadioFlash.Tool

open Run

/-- Where the program's own notes come from. -/
def programOrigin : String := "xbflash"

/-- Where the install command's notes come from. -/
def installOrigin : String := "xbflash::commands::install"

/-- Time between two ticks of a session. -/
def pollInterval : Millis := 5

/-- Port time after which a session that has not ended is taken to wait forever. -/
def patience : Millis := 10000

/-- What the install command is asked to do. -/
structure InstallRequest where
  firmware : String
  kind : Option InstallKind
  force : Bool
  port : Option String
  nonInteractive : Bool
  quiet : Bool

/-- The message for a missing port. -/
def noPortMessage : String := "No serial port found; pass --port or set XBFLASH_PORT"

/-- Read a firmware image, failing as the loader does. -/
def loadFirmware (ws : Workspace) (path : String) : Run ByteArray :=
  match ws.readFile path with
  | .bytes b => pure b
  | .blocks => throw .stalled
  | .fault f => fail ("Failed to load firmware " ++ path ++ ": I/O error: " ++ f.text ++ ": " ++ f.text)

/-- The install procedure: the one asked for, else the one the image calls for. -/
def resolveKind (path : String) (bytes : Array UInt8) : Option InstallKind → Run InstallKind
  | some k => pure k
  | none =>
    match ImageKind.detect (some path) bytes with
    | some k => pure (InstallKind.ofImageKind k)
    | none => refuse ("Cannot tell whether " ++ path ++ " is an .ebl or .oem image; pass --kind")

/-- Choose the port: given, else from the settings, else found on the machine. -/
def choosePort (m : Machine) (req : InstallRequest) (s : Settings) : Run String := do
  match req.port with
  | some p => pure p
  | none =>
  match s.port with
  | some p =>
    say .debug programOrigin ("Using port " ++ p ++ " from config")
    pure p
  | none =>
  if req.nonInteractive then
    match m.discoverPorts with
    | [only] => pure only.name
    | [] => refuse noPortMessage
    | ports => refuse ("Found multiple serial ports (" ++ ", ".intercalate (ports.map (·.name)) ++
        "); pass --port or set XBFLASH_PORT")
  else
    let (found, notes) := m.autoDetect
    logAll notes
    match found with
    | .ok p => pure p.name
    | .error .deviceNotFound => refuse noPortMessage
    | .error e => fail e.chain

/-- Log what the port has noted since the last look, and forget it. -/
def drainPort (p : NativePort) : Run NativePort := do
  let (notes, p) := p.takeJournal
  logAll notes.toList
  pure p

/-- Put a port back into a session. -/
def replacePort (s : Session NativePort) (port : NativePort) : Session NativePort :=
  { s with target := { s.target with port } }

/-- Tick the session until it ends, at most `fuel` times, with the device answering between
ticks; `last` is the progress token already reported. -/
def tickUntilDone (path : String) (quiet : Bool) :
    Nat → Responder → Option UInt32 → Session NativePort → Run Unit
  | 0, _, _, _ => throw .stalled
  | fuel + 1, device, last, s => do
    let (result, s) := Session.tick.run s
    let s := replacePort s (← drainPort s.target.port)
    let token := s.progressToken
    if last != some token then say .debug installOrigin s.status
    match result with
    | .ok .complete =>
      say .info installOrigin s.status
      unless quiet do eprintln "✓ Install complete"
    | .ok .pending =>
      let port := s.target.port.advance pollInterval
      if port.clock ≥ patience then throw .stalled
      let (device, port) := device.react port
      tickUntilDone path quiet fuel device (some token) (replacePort s port)
    | .error e => fail ("Install of " ++ path ++ " failed: " ++ e.chain)

/-- Enough ticks to reach the patience limit. -/
def tickBudget : Nat := patience.toNat / pollInterval.toNat + 1

/-- The install command. -/
def install (ws : Workspace) (device : Responder) (s : Settings) (req : InstallRequest) :
    Run Unit := do
  let bytes := (← loadFirmware ws req.firmware).toList.toArray
  let kind ← resolveKind req.firmware bytes req.kind
  let config ← match s.atConfig with
    | .ok c => pure c
    | .error e => fail e
  let name ← choosePort ws.machine req s
  let cfg : PortConfig := { name, baud := 115200, resetLine := s.resetLine.getD .dtr }
  let (opened, port) := NativePort.start cfg (ws.endpoint name default)
  let port ← drainPort port
  match opened with
  | .error e => fail ("Failed to open port " ++ name ++ ": " ++ e.chain)
  | .ok () =>
    unless req.quiet do
      eprintln ("⚡ Installing " ++ req.firmware ++ " (" ++ kind.name ++ ") on " ++ name ++
        (if req.force then " [forced]" else ""))
    let session := Session.make (Target.make port config) (Source.ofBytes bytes) kind req.force
    tickUntilDone req.firmware req.quiet tickBudget device none session

end RadioFlash.Tool
