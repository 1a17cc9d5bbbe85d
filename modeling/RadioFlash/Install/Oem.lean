import RadioFlash.Install.State
import RadioFlash.Image.Blocks
import RadioFlash.Target.Reply
/-!
# The OEM procedure

The module is checked over command mode first: its hardware version must name the image's
module id in its upper byte, its compatibility level must equal the image's (a module that
answers `ERROR` has none), and its version decides whether there is anything to do. It is then
unlocked with `%P` and a code from its serial number, or, if that is refused, reset into its
bootloader with `ATFR` and a serial break. The bootloader runs at 38400 baud and answers `+`
with `U` (or 0x11).

The image body is a chain of length-prefixed blocks: each outbound block is followed by the
block the bootloader must echo back. Outbound bytes go out at most 128 per tick and as the
transmit buffer allows; the echo is compared as it arrives. A wrong or missing (4000 ms) echo
sends the block again, three times at most.
-/

namespace RadioFlash

namespace Session

variable {π : Type} [SerialLink π]

/-- Where this procedure's notes come from. -/
def oemOrigin : String := "xbflash::install::oem"

/-- Largest piece written to or compared from the link per tick. -/
def echoChunk : Nat := 128

/-- Resends of one block before giving up. -/
def maxResends : Nat := 3

/-- Move to another OEM step. -/
def gotoOem (st : OemState) : Action (Session π) Unit := do
  let from_ := (← get).phase.name
  say oemOrigin .debug s!"OEM install: {from_} -> {st.name}"
  modify fun s => { s with phase := .oem st }

/-- Send a command and continue with `next` once its response is in. -/
def request (command : List UInt8) (next : OemState) : Action (Session π) Step := do
  modify fun s => { s with responseLen := 0 }
  onTarget (Target.sendRequest command)
  modify fun s => { s with nextState := next }
  gotoOem .parseResponse
  pure .pause

/-- Collect the pending response into the scratch buffer. -/
def collectResponse : Action (Session π) (Option Nat) :=
  Action.focus (fun s => (s.target, ({ bytes := s.scratch, cursor := s.responseLen } : LineBuffer)))
    (fun p s => { s with target := p.1, scratch := p.2.bytes, responseLen := p.2.cursor })
    Target.readResponse

/-- Lift a result of a pure check into the session. -/
def ofExcept {α : Type} : Except Error α → Action (Session π) α
  | .ok a => pure a
  | .error e => throw e

/-- Once an outbound block is out, open the echo block right after it and wait for the echo. -/
def expectEcho (p : OemProgress) : Action (Session π) Step := do
  let echoLen ← onSource do
    Source.seek (UInt32.ofNat p.curOffset)
    Source.readU16
  let echo ← ofExcept (p.openBlock p.curOffset echoLen.toNat)
  say oemOrigin .debug s!"Expecting {echoLen}-byte echo"
  modify fun s => { s with sub := .oem echo }
  armTimer
  gotoOem .rxBlock
  pure .pause

/-- Stream the outbound block, as much as the link takes; once it is out, expect its echo. -/
def sendBlock : Action (Session π) Step := do
  let p := (← get).progress
  let room ← onPort SerialLink.txFree
  let bytes := min (min room echoChunk) p.blockLength
  let mut p := p
  if bytes > 0 then
    let chunk ← onSource do
      Source.seek (UInt32.ofNat p.position)
      Source.readFull bytes
    modify fun s => { s with scratch := chunk ++ s.scratch.extract bytes s.scratch.size }
    let written ← onPort (SerialLink.write chunk.toList)
    p := { p with blockLength := p.blockLength - written }
  if p.blockLength > 0 then
    modify fun s => { s with sub := .oem p }
    return .pause
  expectEcho p

/-- The echo of the current block matched in full: the next outbound block starts right after
it, with a fresh count of resends. -/
def echoMatched (p : OemProgress) : Action (Session π) Step := do
  modify fun s => { s with tries := 0, sub := .oem { p with blockOffset := p.curOffset } }
  gotoOem .txBlock
  pure .pause

/-- Compare a piece of the echo that arrived with the image at the current position; a
mismatch sends the block again, a finished echo moves on to the next block. -/
def checkEcho (p : OemProgress) (received : List UInt8) : Action (Session π) Step := do
  let got := received.length
  let expected ← onSource do
    Source.seek (UInt32.ofNat p.position)
    Source.readFull got
  modify fun s => { s with
    scratch := (received.toArray ++ s.scratch.extract got echoChunk ++ expected ++
      s.scratch.extract (echoChunk + got) s.scratch.size) }
  if received.toArray ≠ expected then
    let at_ := p.position
    say oemOrigin .debug s!"Echo mismatch at offset {at_}"
    gotoOem .rxFail
    return .goOn
  let p := { p with blockLength := p.blockLength - got }
  if p.blockLength > 0 then
    modify fun s => { s with sub := .oem p }
    return .pause
  echoMatched p

/-- Read what arrived of the echo, at most 128 bytes, and compare it; an echo missing for 4000 ms
sends the block again. -/
def compareEcho : Action (Session π) Step := do
  let p := (← get).progress
  if p.blockLength = 0 then
    return ← echoMatched p
  let received ← onPort (SerialLink.read (min p.blockLength echoChunk))
  if received.length = 0 then
    if (← get).waited 4000 then
      say oemOrigin .debug "Echo timed out"
      gotoOem .rxFail
      return .goOn
    return .pause
  checkEcho p received

/-- One OEM step. -/
def stepOem (st : OemState) : Action (Session π) Step := do
  match st with
  | .init =>
    let header ← Action.focus (fun s => (s.source, s.scratch))
      (fun p s => { s with source := p.1, scratch := p.2 }) verify
    let chain ← onSource (countBlocks header)
    let m := Text.hexUpper 2 header.moduleId.toNat
    let c := header.softwareId.toNat
    let v := header.versionText
    let n := chain.transfers
    say oemOrigin .info s!"Image for module 0x{m}, compatibility {c}, version {v}, {n} blocks"
    modify fun s => { s with tries := 0 }
    gotoOem .reset
    pure .pause
  | .reset =>
    let baud : UInt32 := if (← get).tries > 0 then 9600 else 115200
    say oemOrigin .debug s!"Entering command mode at {baud} baud"
    onPort (SerialLink.reopen baud)
    onPort (SerialLink.setFlowControl true)
    onTarget Target.enter
    gotoOem .cmdPending
    pure .pause
  | .cmdPending =>
    match ← onTarget Target.tick with
    | .command => request [72, 86] .cmdHv
    | .idle =>
      if (← get).tries = 0 then
        say oemOrigin .warn "No command mode at 115200 baud, trying 9600"
        modify fun s => { s with tries := s.tries + 1 }
        gotoOem .reset
        pure .pause
      else throw (.timeout "module did not enter command mode")
    | _ => pure .pause
  | .parseResponse =>
    match ← collectResponse with
    | some len =>
      modify fun s => { s with responseLen := len }
      gotoOem (← get).nextState
      pure .goOn
    | none => pure .pause
  | .cmdHv =>
    let hv := hexWord (← get).response
    let moduleId ← imageByte 10
    if (hv >>> 8).toUInt8 ≠ moduleId then
      let h := Text.hexUpper 4 hv.toNat
      let m := Text.hexUpper 2 moduleId.toNat
      throw (.incompatibleHardware s!"module reports hardware 0x{h}, image is for 0x{m}xx")
    request [37, 67] .cmdCompat
  | .cmdCompat =>
    let r := (← get).response
    if r ≠ [69, 82, 82, 79, 82] then
      let level := hexWord r
      let wanted ← imageByte 11
      if level ≠ wanted.toUInt16 then
        let l := level.toNat
        let w := wanted.toNat
        throw (.incompatibleHardware s!"module compatibility level {l}, image needs {w}")
    request [86, 82] .cmdVr
  | .cmdVr =>
    let version ← onSource do
      Source.seek 12
      Source.readFull 4
    let r := (← get).response
    let v := Text.utf8Lossy version.toList
    if r.take 4 = version.toList ∧ r.length ≥ 4 ∧ !(← get).force then
      say oemOrigin .info s!"Module already runs {v}, nothing to do"
      onTarget Target.exit
      gotoOem .done
      return .goOn
    let old := Text.utf8Lossy r
    say oemOrigin .info s!"Updating module from {old} to {v}"
    request [67, 70, 49] .cmdCf1
  | .cmdCf1 => request [83, 76] .cmdSl
  | .cmdSl => request (unlockCommand (hexWord (← get).response)) .cmdProg
  | .cmdProg =>
    if (← get).response = [79, 75] then
      say oemOrigin .debug "Programming mode unlocked"
      gotoOem .bootloader
      return .goOn
    say oemOrigin .debug "Unlock refused, resetting into the bootloader"
    request [70, 82] .cmdFr
  | .cmdFr =>
    onPort (SerialLink.setRts false)
    onPort (SerialLink.setBreak true)
    armTimer
    gotoOem .holdBreak
    pure .pause
  | .holdBreak =>
    if !(← get).waited 400 then return .pause
    onPort (SerialLink.setBreak false)
    gotoOem .bootloader
    pure .goOn
  | .bootloader =>
    onPort (SerialLink.reopen 38400)
    onPort (SerialLink.writeByte 43)
    armTimer
    gotoOem .txStart
    pure .pause
  | .txStart =>
    match ← onPort SerialLink.readByte with
    | some b =>
      if !(b = 85 ∨ b = 0x11) then
        let t := Text.hexUpper 2 b.toNat
        throw (.protocol s!"unexpected bootloader reply 0x{t}")
    | none =>
      if !(← get).waited 1000 then return .pause
      throw (.protocol "bootloader did not answer")
    modify fun s => { s with tries := 0 }
    let (fl, bo) ← onSource do
      Source.seek 4
      let fl ← Source.readU32
      let bo ← Source.readU16
      pure (fl.toNat, bo.toNat)
    say oemOrigin .info s!"Bootloader ready, sending {fl}-byte image"
    modify fun s => { s with sub := .oem { firmwareLength := fl, blockOffset := bo, curOffset := bo } }
    gotoOem .txBlock
    pure .goOn
  | .txBlock =>
    let p := (← get).progress
    let len ← onSource do
      Source.seek (UInt32.ofNat p.blockOffset)
      Source.readU16
    if len = 0 then
      say oemOrigin .info "All blocks sent, resetting module"
      onTarget Target.resetModule
      onPort (SerialLink.reopen 9600)
      onPort (SerialLink.setFlowControl true)
      armTimer
      gotoOem .finalPrompt
      return .pause
    let p ← ofExcept (p.openBlock p.blockOffset len.toNat)
    let o := p.blockOffset
    say oemOrigin .debug s!"Sending {len}-byte block at offset {o}"
    modify fun s => { s with sub := .oem p }
    gotoOem .sending
    pure .goOn
  | .sending => sendBlock
  | .rxBlock => compareEcho
  | .rxFail =>
    let tries := (← get).tries + 1
    modify fun s => { s with tries }
    let o := (← get).progress.blockOffset
    if tries > maxResends then
      throw (.protocol s!"block at offset {o} not accepted after 3 resends")
    say oemOrigin .warn s!"Bad echo for block at offset {o}, resending ({tries}/3)"
    onPort SerialLink.flushRx
    gotoOem .txBlock
    pure .goOn
  | .finalPrompt =>
    if !(← get).waited 3000 then return .pause
    gotoOem .done
    pure .goOn
  | .done =>
    gotoOem .success
    pure .pause
  | .success => pure .pause
  | .failure => throw .sessionFailed

/-- The status line of an OEM step. -/
def oemStatus (s : Session π) (st : OemState) : String :=
  match st with
  | .success | .done => "Install successful."
  | .failure => "Install failed."
  | .init => "Starting update."
  | .reset => "Verified firmware image."
  | .cmdPending =>
    let rate := if s.tries > 0 then "9.6" else "115"
    s!"Trying to enter command mode at {rate}kbps."
  | .parseResponse =>
    let c := s.nextState.command
    s!"Waiting for response to AT{c}."
  | .cmdHv | .cmdCompat | .cmdVr | .cmdCf1 | .cmdSl | .cmdProg | .cmdFr =>
    let c := st.command
    s!"Received response to AT{c} command."
  | .holdBreak => "Generating serial break on transmit pin."
  | .bootloader | .txStart => "Waiting for response from bootloader."
  | .txBlock | .sending | .rxBlock | .rxFail =>
    let o := s.progress.blockOffset
    let n := s.progress.firmwareLength
    s!"Sending firmware ({o}/{n})."
  | .finalPrompt => "Update complete, rebooting into new firmware."

/-- The progress token of an OEM step: the block offset above the step's number. -/
def oemToken (s : Session π) (st : OemState) : UInt32 :=
  (UInt32.ofNat s.progress.blockOffset <<< 6) ||| UInt32.ofNat st.index

end Session

end RadioFlash
