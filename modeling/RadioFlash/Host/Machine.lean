import RadioFlash.Device
import RadioFlash.Journal
import RadioFlash.Host.Native
/-!
# The host machine

The serial side of the computer the tool runs on: the ports its operating system lists, and what
each device path leads to. Discovery answers the listed ports; the radio candidates are those
behind a recognised USB bridge; automatic choice takes the best candidate and says which it took.
-/

namespace RadioFlash

/-- The serial ports of a computer and its device paths. -/
structure Machine where
  /-- The ports the operating system lists, in its order. -/
  ports : List DetectedPort
  /-- Device paths that lead somewhere, with what they lead to. -/
  devices : List (String × Endpoint)
deriving Inhabited

namespace Machine

/-- A computer with one on-board serial port, `/dev/ttyS0`, with nothing attached to it. -/
def withOnboardPort : Machine :=
  { ports := [{ name := "/dev/ttyS0" }], devices := [("/dev/ttyS0", .idleUart)] }

/-- Every listed port. -/
def discoverPorts (m : Machine) : List DetectedPort :=
  m.ports

/-- The ports behind a recognised USB bridge. -/
def discoverRadioPorts (m : Machine) : List DetectedPort :=
  m.ports.filter (·.device.isKnown)

/-- Where the choice of a port is reported from. -/
def origin : String := "xbflash::device"

/-- Choose the port a radio is most likely on, with a note saying which was taken and why. -/
def autoDetect (m : Machine) : Except Error DetectedPort × List Note :=
  match selectPort m.ports with
  | .error e => (.error e, [])
  | .ok p =>
    let text :=
      if p.device.isKnown then s!"Auto-detected {p.device.name} USB-UART bridge: {p.name}"
      else s!"Using first available port: {p.name}"
    (.ok p, [{ level := .info, origin, text }])

/-- What a device path leads to. -/
def resolve (m : Machine) (path : String) : Endpoint :=
  match m.devices.find? (·.1 = path) with
  | some (_, e) => e
  | none => .missing

end Machine

end RadioFlash
