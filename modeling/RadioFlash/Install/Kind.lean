import RadioFlash.Image.Kind
import RadioFlash.Text.Ascii
/-!
# Install procedures

Three procedures replace a module's firmware. An `.ebl` image goes to the bootloader over
XMODEM after a serial break; the HCS08 application of programmable modules takes the same road
with another menu choice and no final prompt; an `.oem` image goes through command mode into
the block-echo bootloader. A procedure is named `ebl`, `hcs08` (or `pxbee`) or `oem`, in any
case; an image format chooses the procedure of the same name.
-/

namespace RadioFlash

/-- An install procedure. -/
inductive InstallKind where
  | ebl
  | hcs08
  | oem
deriving DecidableEq, Inhabited, Repr

namespace InstallKind

/-- Read a procedure name. -/
def ofName? (name : String) : Option InstallKind :=
  match Text.asciiLower name with
  | "ebl" => some ebl
  | "hcs08" | "pxbee" => some hcs08
  | "oem" => some oem
  | _ => none

/-- Short name, also the display text. -/
def name : InstallKind → String
  | ebl => "ebl"
  | hcs08 => "hcs08"
  | oem => "oem"

/-- The name as diagnostics spell the variant. -/
def label : InstallKind → String
  | ebl => "Ebl"
  | hcs08 => "Hcs08"
  | oem => "Oem"

/-- The procedure for an image format. -/
def ofImageKind : ImageKind → InstallKind
  | .ebl => ebl
  | .oem => oem

end InstallKind

end RadioFlash
