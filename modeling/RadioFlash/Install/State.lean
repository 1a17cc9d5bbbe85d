import RadioFlash.Install.Kind
import RadioFlash.Target.CommandMode
import RadioFlash.Xmodem.Sender
/-!
# Install sessions: their state

A session replaces the firmware of the module behind a `Target`. It remembers the procedure,
the step it is at, a retry counter, the time its timer was last armed, a scratch buffer (one
1K XMODEM packet with CRC, which also receives command responses and echo blocks), and the
progress of the transfer in flight. The steps of each procedure are numbered; a session's
progress token combines that number with the transfer position, so that a caller can redraw
its status only when the token changes.
-/

namespace RadioFlash

/-- Steps of the EBL and HCS08 procedures. -/
inductive EblState where
  | init
  | reset
  | holdBreak
  | prompt
  | xmodemWait
  | xmodemSend
  | xmodemDone
  | finalPrompt
  | success
  | failure
deriving DecidableEq, Inhabited, Repr

namespace EblState

/-- The step's number. -/
def index : EblState → Nat
  | init => 0
  | reset => 1
  | holdBreak => 2
  | prompt => 3
  | xmodemWait => 4
  | xmodemSend => 5
  | xmodemDone => 6
  | finalPrompt => 7
  | success => 8
  | failure => 9

/-- The step's name, as diagnostics print it. -/
def name : EblState → String
  | init => "Init"
  | reset => "Reset"
  | holdBreak => "Break"
  | prompt => "Prompt"
  | xmodemWait => "XmodemWait"
  | xmodemSend => "XmodemSend"
  | xmodemDone => "XmodemDone"
  | finalPrompt => "FinalPrompt"
  | success => "Success"
  | failure => "Failure"

end EblState

/-- Steps of the OEM procedure. -/
inductive OemState where
  | init
  | reset
  | cmdPending
  | parseResponse
  | cmdHv
  | cmdCompat
  | cmdVr
  | cmdCf1
  | cmdSl
  | cmdProg
  | cmdFr
  | holdBreak
  | bootloader
  | txStart
  | txBlock
  | sending
  | rxBlock
  | rxFail
  | finalPrompt
  | done
  | success
  | failure
deriving DecidableEq, Inhabited, Repr

namespace OemState

/-- The step's number. -/
def index : OemState → Nat
  | init => 0
  | reset => 1
  | cmdPending => 2
  | parseResponse => 3
  | cmdHv => 4
  | cmdCompat => 5
  | cmdVr => 6
  | cmdCf1 => 7
  | cmdSl => 8
  | cmdProg => 9
  | cmdFr => 10
  | holdBreak => 11
  | bootloader => 12
  | txStart => 13
  | txBlock => 14
  | sending => 15
  | rxBlock => 16
  | rxFail => 17
  | finalPrompt => 18
  | done => 19
  | success => 20
  | failure => 21

/-- The step's name, as diagnostics print it. -/
def name : OemState → String
  | init => "Init"
  | reset => "Reset"
  | cmdPending => "CmdPending"
  | parseResponse => "ParseResponse"
  | cmdHv => "CmdHv"
  | cmdCompat => "CmdCompat"
  | cmdVr => "CmdVr"
  | cmdCf1 => "CmdCf1"
  | cmdSl => "CmdSl"
  | cmdProg => "CmdProg"
  | cmdFr => "CmdFr"
  | holdBreak => "Break"
  | bootloader => "Bootloader"
  | txStart => "TxStart"
  | txBlock => "TxBlock"
  | sending => "Sending"
  | rxBlock => "RxBlock"
  | rxFail => "RxFail"
  | finalPrompt => "FinalPrompt"
  | done => "Done"
  | success => "Success"
  | failure => "Failure"

/-- The command whose response leads to this step. -/
def command : OemState → String
  | cmdHv => "HV"
  | cmdCompat => "%C"
  | cmdVr => "VR"
  | cmdCf1 => "CF1"
  | cmdSl => "SL"
  | cmdProg => "%Pxxxx"
  | cmdFr => "FR"
  | _ => ""

end OemState

/-- Where a block-echo transfer stands in the image's block chain. -/
structure OemProgress where
  /-- The declared image length. -/
  firmwareLength : Nat := 0
  /-- Offset of the outbound block being sent. -/
  blockOffset : Nat := 0
  /-- Offset just past the block being sent or compared. -/
  curOffset : Nat := 0
  /-- Bytes of the current block still to send or compare. -/
  blockLength : Nat := 0
deriving DecidableEq, Inhabited, Repr

namespace OemProgress

/-- Image offset of the next byte to send or compare. -/
def position (p : OemProgress) : Nat := p.curOffset - p.blockLength

/-- Enter the block whose length word sits at `at`; refused when it runs past the image. -/
def openBlock (p : OemProgress) (start len : Nat) : Except Error OemProgress :=
  let stop := start + 2 + len
  if stop > p.firmwareLength then
    let n := p.firmwareLength
    .error (.validation s!"{len}-byte block at offset {start} overruns the {n}-byte image")
  else .ok { p with blockLength := len, curOffset := stop }

end OemProgress

/-- Progress of the transfer in flight. -/
inductive Substate where
  | idle
  | xmodem (sender : Xmodem.Sender)
  | oem (progress : OemProgress)
deriving Inhabited

/-- The step a session is at, in its procedure. -/
inductive Phase where
  | ebl (state : EblState)
  | oem (state : OemState)
deriving DecidableEq, Inhabited, Repr

namespace Phase

/-- The step as diagnostics print it, procedure family first. -/
def name : Phase → String
  | ebl s => "Ebl(" ++ s.name ++ ")"
  | oem s => "Oem(" ++ s.name ++ ")"

end Phase

/-- Size of a session's scratch buffer: one 1K XMODEM packet with CRC. -/
def scratchSize : Nat := 1029

/-- One firmware install on one module. -/
structure Session (π : Type) where
  target : Target π
  source : Source
  kind : InstallKind
  /-- Install even when the module already runs the image's version. -/
  force : Bool := false
  phase : Phase
  /-- The step to take once the pending command response is in. -/
  nextState : OemState := .init
  tries : Nat := 0
  /-- When the timer was last armed. -/
  timer : Millis
  scratch : Array UInt8 := Array.replicate scratchSize 0
  /-- Bytes of the current command response collected in the scratch buffer. -/
  responseLen : Nat := 0
  sub : Substate := .idle

namespace Session

variable {π : Type} [SerialLink π]

/-- Prepare an install; nothing is sent until the first tick. -/
def make (target : Target π) (source : Source) (kind : InstallKind) (force : Bool := false) :
    Session π :=
  { target, source, kind, force, timer := SerialLink.millis target.port,
    phase := match kind with
      | .ebl | .hcs08 => .ebl .init
      | .oem => .oem .init }

/-- The session reached success. -/
def isComplete (s : Session π) : Bool :=
  match s.phase with
  | .ebl .success | .oem .success => true
  | _ => false

/-- The session failed and has to be discarded. -/
def isFailed (s : Session π) : Bool :=
  match s.phase with
  | .ebl .failure | .oem .failure => true
  | _ => false

/-- Run a target operation. -/
def onTarget {α : Type} (m : Action (Target π) α) : Action (Session π) α :=
  Action.focus (·.target) (fun t s => { s with target := t }) m

/-- Run a link operation. -/
def onPort {α : Type} (m : Action π α) : Action (Session π) α :=
  onTarget (Target.onPort m)

/-- Run a source operation. -/
def onSource {α : Type} (m : Action Source α) : Action (Session π) α :=
  Action.focus (·.source) (fun src s => { s with source := src }) m

/-- Record a note from `origin`. -/
def say (origin : String) (level : Level) (text : String) : Action (Session π) Unit :=
  onPort (SerialLink.say level origin text)

/-- The link's clock. -/
def now (s : Session π) : Millis := SerialLink.millis s.target.port

/-- Restart the session timer. -/
def armTimer : Action (Session π) Unit :=
  modify fun s => { s with timer := s.now }

/-- `ms` milliseconds have passed since the timer was armed. -/
def waited (s : Session π) (ms : UInt32) : Bool :=
  (Deadline.arm s.timer ms).elapsed s.now

/-- The block-echo progress, or an empty one. -/
def progress (s : Session π) : OemProgress :=
  match s.sub with
  | .oem p => p
  | _ => {}

/-- The command response collected so far. -/
def response (s : Session π) : List UInt8 :=
  (s.scratch.extract 0 s.responseLen).toList

/-- Read the byte at an offset of the image. -/
def imageByte (offset : Nat) : Action (Session π) UInt8 :=
  onSource do
    Source.seek (UInt32.ofNat offset)
    Source.readU8

end Session

/-- How a state step leaves its tick. -/
abbrev Step := Xmodem.Step

end RadioFlash
