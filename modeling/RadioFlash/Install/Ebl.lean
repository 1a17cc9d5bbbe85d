import RadioFlash.Install.State
/-!
# The EBL procedure

Holding the transmit line low while the module comes out of reset starts its bootloader at
115200 baud. The bootloader prints a menu ending in `>`; `1` (or `F` for the HCS08 application)
starts an XMODEM-CRC receive with 128-byte blocks, and `2` runs the new firmware once the
transfer is done. A waiting step that hears nothing for 5000 ms starts over from the reset; the
third such timeout ends the session.
-/

namespace RadioFlash

namespace Session

variable {π : Type} [SerialLink π]

/-- Where this procedure's notes come from. -/
def eblOrigin : String := "xbflash::install::ebl"

/-- How long the break is held after the reset pulse. -/
def breakMs : UInt32 := 150

/-- Settle time between the end of XMODEM and the final prompt. -/
def settleMs : UInt32 := 3000

/-- A waiting step gives up after this long and starts over from the reset. -/
def loadTimeoutMs : UInt32 := 5000

/-- Resets attempted before giving up. -/
def maxTries : Nat := 3

/-- Move to another EBL step. -/
def gotoEbl (st : EblState) : Action (Session π) Unit := do
  let from_ := (← get).phase.name
  say eblOrigin .debug s!"EBL install: {from_} -> {st.name}"
  modify fun s => { s with phase := .ebl st }

/-- The bootloader menu choice that starts the upload. -/
def bootloaderCommand (kind : InstallKind) : UInt8 :=
  if kind = .hcs08 then 70 else 49

/-- Consume received bytes up to and including `wanted`, at most `fuel` of them; whether it
came. -/
def scanWith (wanted : UInt8) : Nat → Action (Session π) Bool
  | 0 => pure false
  | fuel + 1 => do
    match ← onPort SerialLink.readByte with
    | some b => if b = wanted then pure true else scanWith wanted fuel
    | none => pure false

/-- Consume received bytes up to and including `wanted`; whether it came. -/
def scanFor (wanted : UInt8) : Action (Session π) Bool := do
  scanWith wanted (SerialLink.pending (← get).target.port + 1)

/-- The shared timeout of the waiting steps: after 5000 ms start over from the reset, and give
up on the third time. -/
def eblFallback : Action (Session π) Step := do
  let s ← get
  if !s.waited loadTimeoutMs then return .pause
  let tries := s.tries + 1
  modify fun s => { s with tries }
  if tries ≥ maxTries then
    throw (.timeout "no response from bootloader after 3 attempts")
  let shown := tries + 1
  say eblOrigin .warn s!"Bootloader not responding, resetting again ({shown}/3)"
  armTimer
  gotoEbl .reset
  pure .pause

/-- Run the XMODEM sender of the session on its scratch buffer, image and link. -/
def onTransfer {α : Type} (m : Action (Xmodem.Transfer π) α) : Action (Session π) α := do
  match (← get).sub with
  | .xmodem sender =>
    Action.focus
      (fun s => { sender, buffer := s.scratch, source := s.source, port := s.target.port })
      (fun t s => { s with sub := .xmodem t.sender, scratch := t.buffer, source := t.source,
                           target := { s.target with port := t.port } })
      m
  | _ => throw (.invalidState "XMODEM sender missing")

/-- One EBL step. -/
def stepEbl (st : EblState) : Action (Session π) Step := do
  match st with
  | .init =>
    modify fun s => { s with tries := 0 }
    gotoEbl .reset
    pure .goOn
  | .reset =>
    onPort (SerialLink.setReset false)
    onPort (SerialLink.reopen 115200)
    onPort (SerialLink.setFlowControl true)
    onPort (SerialLink.setRts false)
    say eblOrigin .debug "Starting serial break and resetting module"
    onPort (SerialLink.setBreak true)
    onTarget Target.resetModule
    armTimer
    gotoEbl .holdBreak
    pure .pause
  | .holdBreak =>
    if !(← get).waited breakMs then return (← eblFallback)
    onPort (SerialLink.setBreak false)
    onPort (SerialLink.setFlowControl true)
    onPort (SerialLink.setRts true)
    onPort (SerialLink.writeByte 13)
    armTimer
    gotoEbl .prompt
    pure .pause
  | .prompt =>
    if !(← scanFor 62) then return (← eblFallback)
    say eblOrigin .info "Entered bootloader, starting upload"
    onPort (SerialLink.writeByte (bootloaderCommand (← get).kind))
    armTimer
    gotoEbl .xmodemWait
    pure .pause
  | .xmodemWait =>
    if !(← scanFor Xmodem.crcRequest) then return (← eblFallback)
    onSource (Source.seek 0)
    modify fun s => { s with sub := .xmodem (Xmodem.Sender.new { forceCrc := true }) }
    let _ ← onTransfer (Xmodem.Transfer.acceptStart Xmodem.crcRequest)
    gotoEbl .xmodemSend
    pure .pause
  | .xmodemSend =>
    let now := (← get).now
    let status ← onTransfer (Xmodem.Transfer.tick now)
    if status = .complete then
      let n := match (← get).sub with
        | .xmodem sender => sender.packetNum.toNat - 1
        | _ => 0
      say eblOrigin .info s!"XMODEM send complete ({n} packets)"
      armTimer
      gotoEbl .xmodemDone
    pure .pause
  | .xmodemDone =>
    if !(← get).waited settleMs then return .pause
    onPort (SerialLink.writeByte 13)
    armTimer
    gotoEbl .finalPrompt
    pure .goOn
  | .finalPrompt =>
    if (← get).kind = .hcs08 then
      gotoEbl .success
      return .pause
    if !(← scanFor 62) then return (← eblFallback)
    say eblOrigin .info "Running new firmware"
    onPort (SerialLink.writeByte 50)
    armTimer
    gotoEbl .success
    pure .pause
  | .success => pure .pause
  | .failure => throw .sessionFailed

/-- The status line of the XMODEM transfer. -/
def xmodemStatus (sender : Xmodem.Sender) : String :=
  let n := sender.packetNum.toNat
  match sender.phase with
  | .flush | .start => "XMODEM: Starting transfer..."
  | .send | .resend | .sending => s!"XMODEM: Sending packet {n}..."
  | .waitAck => s!"XMODEM: Waiting for ACK of packet {n}..."
  | .eof | .finalAck => "XMODEM: done sending, wait for final ACK."
  | .success => "XMODEM: transfer successful."
  | .failure => "XMODEM: transfer failed."

/-- The status line of an EBL step. -/
def eblStatus (s : Session π) (st : EblState) : String :=
  match st with
  | .success => "Install successful."
  | .failure => "Install failed."
  | .init | .reset => "Starting update."
  | .holdBreak => "Generating serial break on transmit pin."
  | .prompt => "Waiting for response from bootloader."
  | .xmodemWait => "Waiting to start XMODEM send."
  | .xmodemSend =>
    match s.sub with
    | .xmodem sender => xmodemStatus sender
    | _ => "XMODEM: Starting transfer..."
  | .xmodemDone | .finalPrompt => "Update complete, rebooting into new firmware."

/-- The progress token of an EBL step: the packet number above the step's number. -/
def eblToken (s : Session π) (st : EblState) : UInt32 :=
  let n : UInt32 := match s.sub with
    | .xmodem sender => sender.packetNum
    | _ => 0
  (n <<< 6) ||| UInt32.ofNat st.index

end Session

end RadioFlash
