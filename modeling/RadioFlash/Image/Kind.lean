import RadioFlash.Text.Path
/-!
# Image formats

Two formats of firmware image exist. An `.ebl` image starts with a zero header tag and names the
radio chip at offset 6; an `.oem` image starts with the magic word `0x93FD`. A file's extension
decides the format when it is `ebl` or `oem` in any ASCII case; otherwise the first bytes do.
-/

namespace RadioFlash

/-- The format of a firmware image. -/
inductive ImageKind where
  /-- A bootloader image for the ZigBee radios, streamed over XMODEM. -/
  | ebl
  /-- A block-echo image for the DigiMesh 900, XTend and XStream radios. -/
  | oem
deriving DecidableEq, Inhabited, Repr

/-- The magic word at the start of every `.oem` image. -/
def oemMagic : UInt16 := 0x93FD

/-- Big-endian word at `i` of a byte array, zero past its end. -/
def wordAt (bytes : Array UInt8) (i : Nat) : UInt16 :=
  (bytes.getD i 0).toUInt16 <<< 8 ||| (bytes.getD (i + 1) 0).toUInt16

/-- The chips an `.ebl` header can name, by the signature word at offset 6. -/
def eblSignatures : List (UInt16 × String) :=
  [(0xE250, "EM250"), (0xE260, "EM260"), (0xE350, "EM35x")]

/-- The chip family an `.ebl` header names, if the bytes start with one. -/
def eblChip (bytes : Array UInt8) : Option String :=
  if bytes.size < 8 ∨ wordAt bytes 0 ≠ 0 then none
  else (eblSignatures.find? (·.1 == wordAt bytes 6)).map (·.2)

namespace ImageKind

/-- Short name, also its display text. -/
def name : ImageKind → String
  | ebl => "ebl"
  | oem => "oem"

/-- The format the first bytes of an image show. -/
def fromMagic (bytes : Array UInt8) : Option ImageKind :=
  if bytes.size ≥ 2 ∧ wordAt bytes 0 = oemMagic then some oem
  else (eblChip bytes).map fun _ => ebl

/-- The format an extension names, in any ASCII case. -/
def ofExtension? (ext : String) : Option ImageKind :=
  match Text.asciiLower ext with
  | "ebl" => some ebl
  | "oem" => some oem
  | _ => none

/-- The format of an image: by the extension of its path when that names one, else by its
first bytes. -/
def detect (path : Option String) (bytes : Array UInt8) : Option ImageKind :=
  match (path.bind Text.extension?).bind ofExtension? with
  | some k => some k
  | none => fromMagic bytes

end ImageKind

end RadioFlash
