import RadioFlash.Link.Basic
import RadioFlash.Image.Source
import RadioFlash.Checksum
/-!
# Sending an image over XMODEM

A packet is a start byte (SOH for 64- and 128-byte blocks, STX for 1024-byte blocks), the block
number modulo 256 and its complement, the data, and a trailer: the byte sum, or the CRC-16 sent
high byte first. The receiver picks the trailer by its start request: NAK for the sum, `C` for
the CRC. A short last block is padded with 0xFF. After the last block comes EOT, which the
receiver acknowledges.

The sender never waits. Each `tick` runs state steps until one yields, at most six, since the
steps that carry on within a tick form the chain Flush, Start, Send, Resend, Sending, with Send
also leading to Eof. A packet is tried three times; a failure sends CAN CAN and leaves the
sender failed for good.
-/

namespace RadioFlash

namespace Xmodem

/-- Start of a 64- or 128-byte packet. -/
def soh : UInt8 := 0x01
/-- Start of a 1024-byte packet. -/
def stx : UInt8 := 0x02
/-- End of transmission. -/
def eot : UInt8 := 0x04
/-- Acknowledge. -/
def ack : UInt8 := 0x06
/-- Negative acknowledge; as a start request, asks for byte-sum trailers. -/
def nak : UInt8 := 0x15
/-- Cancel. -/
def can : UInt8 := 0x18
/-- The start request asking for CRC trailers. -/
def crcRequest : UInt8 := 0x43

/-- Attempts per packet, and for the final EOT. -/
def attempts : Nat := 3

/-- How long an ACK of a data packet is awaited. -/
def ackTimeoutMs : UInt32 := 10000

/-- How long the ACK of EOT is awaited. -/
def eotTimeoutMs : UInt32 := 3000

/-- The largest packet: header, 1024 data bytes and a CRC. -/
def maxPacketSize : Nat := 1029

/-- Data bytes per packet. -/
inductive BlockSize where
  | small
  | standard
  | large
deriving DecidableEq, Inhabited, Repr

namespace BlockSize

/-- Size in bytes. -/
def bytes : BlockSize → Nat
  | small => 64
  | standard => 128
  | large => 1024

/-- The packet start byte. -/
def startByte : BlockSize → UInt8
  | large => stx
  | _ => soh

/-- The block size of a byte count, if it is one. -/
def ofBytes? : Nat → Option BlockSize
  | 64 => some small
  | 128 => some standard
  | 1024 => some large
  | _ => none

end BlockSize

/-- Sender options. -/
structure Flags where
  blockSize : BlockSize := .standard
  /-- Start only on a CRC request, ignoring NAK. -/
  forceCrc : Bool := false
deriving DecidableEq, Inhabited, Repr

/-- The packet trailer the receiver chose. -/
inductive Check where
  | sum
  | crc
deriving DecidableEq, Inhabited, Repr

/-- Where a transfer stands. -/
inductive Phase where
  /-- Discard stale received bytes before waiting for the start request. -/
  | flush
  /-- Waiting for NAK or `C`. -/
  | start
  /-- Assemble the next packet. -/
  | send
  /-- Start (re)transmitting the assembled packet. -/
  | resend
  /-- The packet is partly written. -/
  | sending
  /-- Waiting for the packet's ACK. -/
  | waitAck
  /-- Send EOT. -/
  | eof
  /-- Waiting for the ACK of EOT. -/
  | finalAck
  /-- Transfer complete. -/
  | success
  /-- Transfer aborted; CAN CAN was sent. -/
  | failure
deriving DecidableEq, Inhabited, Repr

namespace Phase

/-- The name of a phase, as reports print it. -/
def name : Phase → String
  | flush => "Flush"
  | start => "Start"
  | send => "Send"
  | resend => "Resend"
  | sending => "Sending"
  | waitAck => "WaitAck"
  | eof => "Eof"
  | finalAck => "FinalAck"
  | success => "Success"
  | failure => "Failure"

end Phase

/-- The sender's state. -/
structure Sender where
  flags : Flags := {}
  check : Option Check := none
  phase : Phase := .start
  /-- The packet being sent; 0 before the transfer starts. -/
  packetNum : UInt32 := 0
  /-- Attempts left for the current packet. -/
  tries : Nat := attempts
  /-- Bytes of the current packet already written. -/
  offset : Nat := 0
  deadline : Deadline := {}
deriving Inhabited

/-- What a tick ended with. -/
inductive Status where
  | pending
  | complete
deriving DecidableEq, Inhabited, Repr

/-- Whether a state step lets the same tick go on. -/
inductive Step where
  | goOn
  | pause
deriving DecidableEq, Inhabited, Repr

namespace Sender

/-- A sender waiting for the receiver's start request. -/
def new (flags : Flags) : Sender := { flags }

/-- A sender that first discards what the receiver sent before. -/
def withFlush (s : Sender) : Sender := { s with phase := .flush }

/-- Data bytes per packet. -/
def blockBytes (s : Sender) : Nat := s.flags.blockSize.bytes

/-- The receiver asked for CRC trailers. -/
def usesCrc (s : Sender) : Bool := s.check == some .crc

/-- Bytes on the wire per packet. -/
def packetSize (s : Sender) : Nat := 3 + s.blockBytes + (if s.usesCrc then 2 else 1)

end Sender

/-- What a transfer works on: the sender, the packet buffer (the same on every tick, since it
carries a packet between retransmissions), the image and the link. -/
structure Transfer (π : Type) where
  sender : Sender
  buffer : Array UInt8
  source : Source
  port : π

namespace Transfer

variable {π : Type} [SerialLink π]

/-- Where this part's notes come from. -/
def origin : String := "xbflash::protocol::xmodem"

/-- Run a link operation. -/
def onPort {α : Type} (m : Action π α) : Action (Transfer π) α :=
  Action.focus (·.port) (fun p t => { t with port := p }) m

/-- Run a source operation. -/
def onSource {α : Type} (m : Action Source α) : Action (Transfer π) α :=
  Action.focus (·.source) (fun s t => { t with source := s }) m

/-- Record a note. -/
def say (level : Level) (text : String) : Action (Transfer π) Unit :=
  onPort (SerialLink.say level origin text)

/-- Change the sender. -/
def update (f : Sender → Sender) : Action (Transfer π) Unit :=
  modify fun t => { t with sender := f t.sender }

/-- Accept a start request: NAK selects sums unless CRC is forced, `C` selects the CRC. Any other
byte, or a transfer already running, changes nothing and answers `false`. -/
def acceptStart (b : UInt8) : Action (Transfer π) Bool := do
  let s := (← get).sender
  if !(s.phase = .flush ∨ s.phase = .start) then return false
  let check? : Option Check :=
    if b = nak ∧ !s.flags.forceCrc then some .sum
    else if b = crcRequest then some .crc
    else none
  match check? with
  | none => pure false
  | some c =>
    say .debug (if c = .crc then "Starting XMODEM-CRC send" else "Starting XMODEM send")
    update fun s => { s with check := some c, packetNum := 1, phase := .send }
    pure true

/-- Write bytes into the packet buffer from position `start`. -/
def fill (start : Nat) (bytes : Array UInt8) : Action (Transfer π) Unit :=
  modify fun t => { t with buffer := bytes.size.fold (fun i _ b => b.setIfInBounds (start + i) bytes[i]) t.buffer }

/-- Put the next packet into the buffer; `false` at the end of the image. -/
def assemble : Action (Transfer π) Bool := do
  let s := (← get).sender
  let bs := s.blockBytes
  let data ← onSource (Source.read bs)
  if data.size = 0 then return false
  fill 3 data
  if data.size < bs then
    let probe ← onSource (Source.read 1)
    if probe.size ≠ 0 then
      let n := data.size
      throw (.protocol s!"firmware source returned {n} of {bs} bytes before end of image")
    fill (3 + data.size) (Array.replicate (bs - data.size) 0xFF)
  let seq := s.packetNum.toUInt8
  fill 0 #[s.flags.blockSize.startByte, seq, 255 - seq]
  let block := ((← get).buffer.extract 3 (3 + bs)).toList
  if s.usesCrc then
    let c := crc16 block
    fill (3 + bs) #[(c >>> 8).toUInt8, c.toUInt8]
  else
    fill (3 + bs) #[checksum8 block]
  pure true

/-- One state step. -/
def step (now : Millis) : Action (Transfer π) Step := do
  let s := (← get).sender
  match s.phase with
  | .flush =>
    let dropped ← onPort SerialLink.drain
    if dropped > 0 then say .trace s!"Flushed {dropped} stale bytes"
    update fun s => { s with phase := .start }
    pure .goOn
  | .start =>
    match ← onPort SerialLink.readByte with
    | some b =>
      if ← acceptStart b then pure .goOn
      else
        let t := Text.hexUpper 2 b.toNat
        say .trace s!"Ignoring 0x{t} while waiting to start"
        pure .pause
    | none => pure .pause
  | .send =>
    update fun s => { s with tries := attempts }
    if !(← assemble) then
      update fun s => { s with phase := .eof }
      return .goOn
    let _ ← onPort SerialLink.drain
    update fun s => { s with phase := .resend }
    pure .goOn
  | .resend =>
    update fun s => { s with offset := 0, phase := .sending }
    pure .goOn
  | .sending =>
    let size := s.packetSize
    let chunk := ((← get).buffer.extract s.offset size).toList
    let sent ← onPort (SerialLink.write chunk)
    update fun s => { s with offset := s.offset + sent }
    if s.offset + sent = size then
      let n := s.packetNum
      say .trace s!"Packet {n} sent, waiting for ACK"
      update fun s => { s with deadline := Deadline.arm now ackTimeoutMs, phase := .waitAck }
    pure .pause
  | .waitAck =>
    let n := s.packetNum
    match ← onPort SerialLink.readByte with
    | some b =>
      if b = ack then
        say .trace s!"Packet {n} ACKed"
        update fun s => { s with packetNum := s.packetNum + 1, phase := .send }
        return .pause
      let t := Text.hexUpper 2 b.toNat
      say .debug s!"Packet {n} got 0x{t}"
    | none =>
      if !s.deadline.elapsed now then return .pause
      say .debug s!"Packet {n} timed out"
    update fun s => { s with tries := s.tries - 1 }
    if s.tries - 1 = 0 then
      say .warn s!"Packet {n} failed 3 times"
      throw .cancelled
    update fun s => { s with phase := .resend }
    pure .pause
  | .eof =>
    if (← onPort (SerialLink.write [eot])) = 0 then
      say .debug "No room for EOT, retrying after timeout"
    update fun s => { s with deadline := Deadline.arm now eotTimeoutMs, phase := .finalAck }
    pure .pause
  | .finalAck =>
    match ← onPort SerialLink.readByte with
    | some b =>
      if b = ack then
        say .debug "EOT ACKed, transfer complete"
        update fun s => { s with phase := .success }
        return .pause
      let t := Text.hexUpper 2 b.toNat
      say .debug s!"EOT got 0x{t}"
    | none =>
      if !s.deadline.elapsed now then return .pause
      say .debug "EOT timed out"
    update fun s => { s with tries := s.tries - 1 }
    if s.tries - 1 = 0 then
      say .warn "No ACK for EOT"
      throw .cancelled
    update fun s => { s with phase := .eof }
    pure .pause
  | .success | .failure => pure .pause

/-- Give up: the sender fails for good and tells the receiver with CAN CAN. -/
def abort : Action (Transfer π) Unit := do
  update fun s => { s with phase := .failure }
  try
    let _ ← onPort (SerialLink.write [can, can])
  catch e =>
    let m := e.message
    say .warn s!"Failed to send CAN: {m}"

/-- Run state steps until one yields, at most `fuel`. -/
def steps (now : Millis) : Nat → Action (Transfer π) Status
  | 0 => pure .pending
  | fuel + 1 => do
    match ← step now with
    | .goOn => steps now fuel
    | .pause => pure (if (← get).sender.phase = .success then .complete else .pending)

/-- Advance the transfer: `complete` once EOT is acknowledged. An error is final: CAN CAN has
been sent and every later tick fails with `cancelled`. The buffer must hold a whole packet with
a CRC. -/
def tick (now : Millis) : Action (Transfer π) Status := do
  let t ← get
  match t.sender.phase with
  | .success => return .complete
  | .failure => throw .cancelled
  | _ => pure ()
  let bs := t.sender.blockBytes
  if t.buffer.size < 3 + bs + 2 then
    let n := t.buffer.size
    throw (.invalidState s!"XMODEM buffer of {n} bytes cannot hold a {bs}-byte block")
  try steps now 6
  catch e =>
    abort
    throw e

end Transfer

end Xmodem

end RadioFlash
