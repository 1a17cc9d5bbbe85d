import RadioFlash.Install.Session
/-!
# Describing a session

A one-line structural description of a session for diagnostics: its procedure, step, retry
counter and the transfer in flight, each written as a record of named fields, with the other
fields left out (`..`).
-/

namespace RadioFlash

/-- A record written as its name and named fields in braces. -/
def recordText (name : String) (fields : List (String × String)) : String :=
  name ++ " \x7b " ++ ", ".intercalate (fields.map fun f => f.1 ++ ": " ++ f.2) ++ " \x7d"

namespace Xmodem

/-- The name of a block size. -/
def BlockSize.label : BlockSize → String
  | .small => "Small"
  | .standard => "Standard"
  | .large => "Large"

/-- The sender's fields. -/
def Sender.describe (s : Sender) : String :=
  let check := match s.check with
    | none => "None"
    | some .sum => "Some(Sum)"
    | some .crc => "Some(Crc)"
  recordText "XmodemSender" [
    ("flags", recordText "XmodemFlags" [("block_size", s.flags.blockSize.label),
      ("force_crc", toString s.flags.forceCrc)]),
    ("check", check), ("state", s.phase.name), ("packet_num", toString s.packetNum.toNat),
    ("tries", toString s.tries), ("offset", toString s.offset),
    ("deadline", recordText "Deadline" [("start", toString s.deadline.start.toNat),
      ("at", toString s.deadline.due.toNat)])]

end Xmodem

/-- The block-echo progress's fields. -/
def OemProgress.describe (p : OemProgress) : String :=
  recordText "OemProgress" [("firmware_length", toString p.firmwareLength),
    ("block_offset", toString p.blockOffset), ("cur_offset", toString p.curOffset),
    ("block_length", toString p.blockLength)]

/-- The transfer in flight. -/
def Substate.describe : Substate → String
  | .idle => "Idle"
  | .xmodem s => "Xmodem(" ++ s.describe ++ ")"
  | .oem p => "Oem(" ++ p.describe ++ ")"

namespace Session

variable {π : Type}

/-- The session's procedure, step, retry counter and transfer. -/
def describe (s : Session π) : String :=
  "TransferSession \x7b kind: " ++ s.kind.label ++ ", phase: " ++ s.phase.name ++ ", tries: " ++
    toString s.tries ++ ", sub: " ++ s.sub.describe ++ ", .. \x7d"

end Session

end RadioFlash
