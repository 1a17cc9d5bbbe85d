import RadioFlash.Error
import RadioFlash.Text.Hex
import RadioFlash.Text.Path
/-!
# Serial ports and the bridges behind them

Radios are reached through the USB-UART bridge of a carrier board. The bridge is told by its
USB vendor and product ids; Digi boards reuse other vendors' ids and are told by a manufacturer
text containing "digi" in any ASCII case. When a port has to be chosen, recognised bridges rank
before unknown ports (Digi, FTDI, CP210x, CH340), and among equals the first listed wins.
-/

namespace RadioFlash

/-- The USB-UART bridge behind a serial port. -/
inductive DeviceKind where
  | digi
  | ftdi
  | cp210x
  | ch340
  | unknown
deriving DecidableEq, Inhabited, Repr

namespace DeviceKind

/-- Known vendor ids with the product ids that identify each bridge. -/
def knownUsb : List (UInt16 × List UInt16 × DeviceKind) :=
  [(0x0403, [0x6001, 0x6010, 0x6014, 0x6015], ftdi),
   (0x10C4, [0xEA60, 0xEA70], cp210x),
   (0x1A86, [0x7523, 0x5523], ch340)]

/-- The bridge a vendor and product id pair identifies. -/
def fromVidPid (vid pid : UInt16) : DeviceKind :=
  match knownUsb.find? (fun e => e.1 == vid && (e.2.1.isEmpty || e.2.1.contains pid)) with
  | some e => e.2.2
  | none => unknown

/-- The bridge of a USB device, a Digi manufacturer text taking precedence over the ids. -/
def classify (vid pid : UInt16) (manufacturer : Option String) : DeviceKind :=
  if manufacturer.any (fun m => (Text.asciiLower m).contains "digi") then digi
  else fromVidPid vid pid

/-- Display name. -/
def name : DeviceKind → String
  | digi => "Digi"
  | ftdi => "FTDI"
  | cp210x => "CP210x"
  | ch340 => "CH340/CH341"
  | unknown => "Unknown"

/-- Short lower-case tag, as listings in JSON spell it. -/
def tag : DeviceKind → String
  | digi => "digi"
  | ftdi => "ftdi"
  | cp210x => "cp210x"
  | ch340 => "ch340"
  | unknown => "unknown"

/-- The bridge was recognised. -/
def isKnown : DeviceKind → Bool
  | unknown => false
  | _ => true

/-- Rank for automatic choice; lower is better. -/
def rank : DeviceKind → Nat
  | digi => 0
  | ftdi => 1
  | cp210x => 2
  | ch340 => 3
  | unknown => 4

end DeviceKind

/-- A serial port found on the host, with what USB says about it. -/
structure DetectedPort where
  name : String
  device : DeviceKind := .unknown
  vid : Option UInt16 := none
  pid : Option UInt16 := none
  manufacturer : Option String := none
  product : Option String := none
  serial : Option String := none
deriving DecidableEq, Inhabited, Repr

namespace DetectedPort

/-- One line for listings: the name, the bridge (or the raw ids), and the product. -/
def describe (p : DetectedPort) : String :=
  let deviceInfo :=
    if p.device.isKnown then " [" ++ p.device.name ++ "]"
    else match p.vid, p.pid with
      | some v, some d => " [VID:" ++ Text.hexUpper 4 v.toNat ++ " PID:" ++ Text.hexUpper 4 d.toNat ++ "]"
      | _, _ => ""
  let productInfo := match p.product with
    | some t => " - " ++ t
    | none => ""
  p.name ++ deviceInfo ++ productInfo

end DetectedPort

/-- The best of a list of candidates with its index: lowest rank, then earliest. -/
def bestPort : List DetectedPort → Option DetectedPort
  | [] => none
  | p :: rest =>
    match bestPort rest with
    | none => some p
    | some q => if q.device.rank < p.device.rank then some q else some p

/-- Pick the port a radio is most likely attached to. -/
def selectPort (ports : List DetectedPort) : Except Error DetectedPort :=
  match bestPort ports with
  | some p => .ok p
  | none => .error .deviceNotFound

end RadioFlash
