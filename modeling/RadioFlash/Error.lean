/-!
# Errors

Every failure of the library is one cause from a closed list. The wording a user sees lives in
`Error.message` alone; `Error.chain` adds the underlying system error for the two causes that
wrap one, as the command line prints it.
-/

namespace RadioFlash

/-- Why an operation failed. -/
inductive Error where
  /-- A file or stream operation failed; the text is the system's. -/
  | io (detail : String)
  /-- The serial driver refused an operation; the text is the driver's. -/
  | serial (detail : String)
  /-- The firmware image is malformed: bad magic, length, checksum or block chain. -/
  | validation (detail : String)
  /-- The image is for other hardware than the attached module. -/
  | incompatibleHardware (detail : String)
  /-- No expected byte arrived before the deadline, retries included. -/
  | timeout (detail : String)
  /-- A wrong byte, a bad echo or a bad acknowledgement, retries included. -/
  | protocol (detail : String)
  /-- The XMODEM transfer was aborted and cancel bytes were sent. -/
  | cancelled
  /-- The transport refused a write. -/
  | resourceExhausted (detail : String)
  /-- The response buffer filled before a line ended. -/
  | insufficientSpace
  /-- Command mode cannot be left while a response is pending. -/
  | busy
  /-- The operation is not valid in the current state. -/
  | invalidState (detail : String)
  /-- The install session failed before and has to be discarded. -/
  | sessionFailed
  /-- A configuration value is unusable. -/
  | config (detail : String)
  /-- No serial device was found. -/
  | deviceNotFound
deriving DecidableEq, Inhabited, Repr

namespace Error

/-- The sentence shown for the error. -/
def message : Error → String
  | io d => "I/O error: " ++ d
  | serial d => "Serial port error: " ++ d
  | validation d => "Invalid firmware image: " ++ d
  | incompatibleHardware d => "Incompatible hardware: " ++ d
  | timeout d => "Timeout: " ++ d
  | protocol d => "Protocol error: " ++ d
  | cancelled => "XMODEM transfer cancelled"
  | resourceExhausted d => "Resource exhausted: " ++ d
  | insufficientSpace => "Response buffer full before end of line"
  | busy => "Busy: waiting for a response, try again later"
  | invalidState d => "Invalid state: " ++ d
  | sessionFailed => "Install session already failed"
  | config d => "Configuration error: " ++ d
  | deviceNotFound => "Device not found"

/-- The message followed by the system error it wraps, if any, joined by ": ". -/
def chain : Error → String
  | io d => "I/O error: " ++ d ++ ": " ++ d
  | serial d => "Serial port error: " ++ d ++ ": " ++ d
  | e => e.message

/-- Retrying the same operation could change the outcome: the cause depends on link timing,
not on the image or the hardware. -/
def isRetryable : Error → Bool
  | timeout _ | protocol _ | cancelled | busy => true
  | _ => false

/-- The name of the cause, as listings of error kinds spell it. -/
def kindName : Error → String
  | io _ => "Io"
  | serial _ => "Serial"
  | validation _ => "Validation"
  | incompatibleHardware _ => "IncompatibleHardware"
  | timeout _ => "Timeout"
  | protocol _ => "Protocol"
  | cancelled => "Cancelled"
  | resourceExhausted _ => "ResourceExhausted"
  | insufficientSpace => "InsufficientSpace"
  | busy => "Busy"
  | invalidState _ => "InvalidState"
  | sessionFailed => "SessionFailed"
  | config _ => "Config"
  | deviceNotFound => "DeviceNotFound"

/-- Build an error from a kind name and a detail text; kinds without a detail ignore it. -/
def ofKind? (kind detail : String) : Option Error :=
  match kind with
  | "Io" => some (io detail)
  | "Serial" => some (serial detail)
  | "Validation" => some (validation detail)
  | "IncompatibleHardware" => some (incompatibleHardware detail)
  | "Timeout" => some (timeout detail)
  | "Protocol" => some (protocol detail)
  | "Cancelled" => some cancelled
  | "ResourceExhausted" => some (resourceExhausted detail)
  | "InsufficientSpace" => some insufficientSpace
  | "Busy" => some busy
  | "InvalidState" => some (invalidState detail)
  | "SessionFailed" => some sessionFailed
  | "Config" => some (config detail)
  | "DeviceNotFound" => some deviceNotFound
  | _ => none

end Error

end RadioFlash
