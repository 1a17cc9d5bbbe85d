import RadioFlash.Image.Blocks
import RadioFlash.Image.Kind
import RadioFlash.Install.Kind
import RadioFlash.Text.Hex
import RadioFlash.Text.Json
/-!
# Describing a firmware image

The `info` command names an image's format, size and contents. An `.ebl` image should name its
chip in its header; an `.oem` image has its header fields, and is checked in full (magic,
length, checksum and block chain): a failed check makes the image invalid and says why, while a
header that cannot be read at all is an error. An image of neither format is an error.

The description is shown as text on standard error, or as a JSON document on standard output.
-/

namespace RadioFlash.Tool

open Text

/-- What `info` finds out about an image. -/
structure ImageReport where
  kind : ImageKind
  size : Nat
  chip : Option String := none
  header : Option OemHeader := none
  blocks : Option BlockChain := none
  valid : Bool := true
  problem : Option String := none

/-- The size of the scratch buffer an image is checked with. -/
def checkChunk : Nat := 256

/-- Describe an image read from `path`, or say why it cannot be described. -/
def inspectImage (path : String) (bytes : Array UInt8) : Except String ImageReport := do
  let some kind := ImageKind.detect (some path) bytes
    | throw (path ++ " is neither an .ebl nor an .oem image")
  let report : ImageReport := { kind, size := bytes.size }
  match kind with
  | .ebl =>
    match eblChip bytes with
    | some chip => return { report with chip := some chip }
    | none => return { report with valid := false, problem := some "no recognised EBL header" }
  | .oem =>
    let src := Source.ofBytes bytes
    let (read, src) := OemHeader.readFrom.run src
    match read with
    | .error e => throw ("Failed to read OEM header: " ++ e.chain)
    | .ok header =>
      let report := { report with header := some header }
      let (checked, (src, _)) := verify.run (src, Array.replicate checkChunk 0)
      let counted := match checked with
        | .ok h => ((countBlocks h).run src).1
        | .error e => .error e
      match counted with
      | .ok chain => return { report with blocks := some chain }
      | .error e => return { report with valid := false, problem := some e.message }

/-- The header as a JSON object. -/
def headerJson (h : OemHeader) : Json :=
  .record [("magic", .num h.magic.toNat), ("checksum", .num h.checksum.toNat),
    ("image_len", .num h.imageLen.toNat), ("header_len", .num h.headerLen.toNat),
    ("module_id", .num h.moduleId.toNat), ("software_id", .num h.softwareId.toNat),
    ("version", .arr (h.version.toList.map fun b => .num b.toNat))]

/-- The report as a JSON object; absent parts are left out. -/
def ImageReport.json (r : ImageReport) : Json :=
  .record ([("format", .str r.kind.name), ("size", .num r.size), ("valid", .bool r.valid)] ++
    (r.chip.map (fun c => [("chip", Json.str c)])).getD [] ++
    (r.header.map (fun h => [("header", headerJson h), ("version", .str h.versionText)])).getD [] ++
    (r.blocks.map (fun c => [("blocks", Json.record [("blocks", .num c.blocks),
      ("payload_bytes", .num c.payloadBytes)])])).getD [] ++
    (r.problem.map (fun p => [("problem", Json.str p)])).getD [])

/-- The answer of `info --json`. -/
def ImageReport.document (r : ImageReport) : Json :=
  .record [("ok", .bool true), ("data", r.json)]

/-- The report as text lines. -/
def ImageReport.lines (path : String) (r : ImageReport) : List String :=
  ["Firmware: " ++ path, "  Format:  " ++ r.kind.name, "  Size:    " ++ toString r.size ++ " bytes"] ++
  (r.chip.map (fun c => ["  Chip:    " ++ c])).getD [] ++
  (r.header.map (fun h => [
    "  Module:  0x" ++ hexUpper 2 h.moduleId.toNat,
    "  Compat:  0x" ++ hexUpper 2 h.softwareId.toNat,
    "  Version: " ++ h.versionText,
    "  Length:  " ++ toString h.imageLen.toNat ++ " bytes (header " ++ toString h.headerLen.toNat ++ ")"])).getD [] ++
  (r.blocks.map (fun c => ["  Blocks:  " ++ toString c.transfers ++ " transfers, " ++
    toString c.payloadBytes ++ " payload bytes"])).getD [] ++
  [if r.valid then "  Valid:   yes" else "  Valid:   no (" ++ r.problem.getD "unknown" ++ ")"]

end RadioFlash.Tool
