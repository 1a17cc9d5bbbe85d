/-!
# Pseudo-terminals

A pseudo-terminal joins two ends: the serial port opens one, a device plays the other. Bytes
flow each way through a queue. Towards the port, only the first `readWindow` bytes are visible
(the terminal's line buffer); the rest wait behind them. Towards the device, the queue takes
`capacity` bytes before writes stop; the default is what a terminal holds when the far side
never reads: a 4095-byte line buffer and 64 KiB of 256-byte pages, counted from the page that
holds the first unread byte.

Closing the device's end hangs the terminal up: the port's operations fail from then on, and
its path disappears.
-/

namespace RadioFlash

/-- How many received bytes a terminal's line buffer shows. -/
def readWindow : Nat := 4095

/-- How many unread bytes the device's end holds before the port's writes stop. -/
def terminalCapacity : Nat := 69121

/-- The state of a pseudo-terminal pair. -/
structure Terminal where
  /-- Bytes the device sent that the port has not read, oldest first. -/
  inbound : List UInt8 := []
  /-- Bytes the port wrote that the device has not read, newest first, so that a write adds
  only its own bytes. -/
  unread : List UInt8 := []
  /-- How many bytes `unread` holds, so that the room is known without a walk. -/
  unreadCount : Nat := 0
  unreadCount_eq : unreadCount = unread.length := by rfl
  capacity : Nat := terminalCapacity
  /-- The device's end was closed. -/
  hungUp : Bool := false
deriving Inhabited

namespace Terminal

/-- Bytes the port wrote that the device has not read, oldest first. -/
def outbound (t : Terminal) : List UInt8 :=
  t.unread.reverse

/-- Bytes the port can read now. -/
def available (t : Terminal) : Nat :=
  min t.inbound.length readWindow

/-- Room left towards the device. -/
def room (t : Terminal) : Nat :=
  t.capacity - t.unreadCount

/-- The port reads up to `n` of the visible bytes. -/
def take (n : Nat) (t : Terminal) : List UInt8 × Terminal :=
  let k := min n t.available
  (t.inbound.take k, { t with inbound := t.inbound.drop k })

/-- The port writes; the terminal takes what fits. -/
def put (bs : List UInt8) (t : Terminal) : Nat × Terminal :=
  let k := min bs.length t.room
  (k, { t with
    unread := (bs.take k).reverse ++ t.unread
    unreadCount := k + t.unreadCount
    unreadCount_eq := by simp [t.unreadCount_eq, k] })

/-- The port discards everything received. -/
def flush (t : Terminal) : Terminal :=
  { t with inbound := [] }

/-- The device sends bytes to the port. -/
def send (bs : List UInt8) (t : Terminal) : Terminal :=
  { t with inbound := t.inbound ++ bs }

/-- The device reads up to `n` bytes the port wrote, oldest first. -/
def receive (n : Nat) (t : Terminal) : List UInt8 × Terminal :=
  (t.outbound.take n, { t with
    unread := (t.outbound.drop n).reverse
    unreadCount := t.unreadCount - n
    unreadCount_eq := by simp [outbound, t.unreadCount_eq] })

/-- The device reads everything the port wrote. -/
def receiveAll (t : Terminal) : List UInt8 × Terminal :=
  t.receive t.unreadCount

/-- The device closes its end. -/
def hangUp (t : Terminal) : Terminal :=
  { t with hungUp := true }

/-- A read gets as many bytes as asked, or as are visible. -/
theorem take_length (n : Nat) (t : Terminal) : (take n t).1.length = min n t.available := by
  simp only [take, List.length_take, available]
  omega

/-- The terminal takes at most what the port writes. -/
theorem put_fst_le (bs : List UInt8) (t : Terminal) : (put bs t).1 ≤ bs.length :=
  Nat.min_le_left _ _

/-- What the terminal takes goes out after what went before. -/
theorem put_outbound (bs : List UInt8) (t : Terminal) :
    (put bs t).2.outbound = t.outbound ++ bs.take (put bs t).1 := by
  simp [put, outbound]

end Terminal

end RadioFlash
