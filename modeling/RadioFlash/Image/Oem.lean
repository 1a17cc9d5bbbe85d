import RadioFlash.Image.Source
import RadioFlash.Image.Kind
import RadioFlash.Text.Hex
import RadioFlash.Text.Utf8
/-!
# `.oem` images

All words are big-endian. The image starts with a 16-byte header:

| offset | size | field |
|---|---|---|
| 0 | 2 | magic `0x93FD` |
| 2 | 2 | checksum adjustment |
| 4 | 4 | image length, header included |
| 8 | 2 | header length, the offset of the first block |
| 10 | 1 | module id, the upper byte of the module's hardware version |
| 11 | 1 | software compatibility id |
| 12 | 4 | version string |

A chain of `[length:2][payload]` blocks follows, ending with a zero-length block. Summing every
16-bit word of a valid image gives zero; `verify` checks that and the header fields.
-/

namespace RadioFlash

/-- Smallest valid image length. -/
def minImageLen : Nat := 32

/-- Largest valid image length. -/
def maxImageLen : Nat := 131072

/-- The fields of an `.oem` header. -/
structure OemHeader where
  magic : UInt16
  checksum : UInt16
  imageLen : UInt32
  headerLen : UInt16
  moduleId : UInt8
  softwareId : UInt8
  version : Vector UInt8 4
deriving DecidableEq, Inhabited, Repr

/-- Sum of the big-endian words of a byte string modulo 2^16; a trailing odd byte is ignored. -/
def wordSum : List UInt8 → UInt16
  | hi :: lo :: rest => (hi.toUInt16 <<< 8 ||| lo.toUInt16) + wordSum rest
  | _ => 0

namespace OemHeader

/-- Read the header fields from the first 16 bytes; only the layout is checked. -/
def parse (bytes : Array UInt8) : Except Error OemHeader :=
  if bytes.size < 16 then
    let n := bytes.size
    .error (.validation s!"{n} bytes is too short for an OEM header")
  else
    let b := fun i => bytes.getD i 0
    .ok {
      magic := wordAt bytes 0
      checksum := wordAt bytes 2
      imageLen := (wordAt bytes 4).toUInt32 <<< 16 ||| (wordAt bytes 6).toUInt32
      headerLen := wordAt bytes 8
      moduleId := b 10
      softwareId := b 11
      version := Vector.ofFn fun i : Fin 4 => b (12 + i.val) }

/-- Seek to the start of a source and read its header. -/
def readFrom : Action Source OemHeader := do
  Source.seek 0
  let bytes ← Source.readFull 16
  match parse bytes with
  | .ok h => pure h
  | .error e => throw e

/-- The version string, read as UTF-8 with replacement characters. -/
def versionText (h : OemHeader) : String :=
  Text.utf8Lossy h.version.toList

/-- Check what can be checked without the image body: the magic word, and an even length
within `32..=131072`. -/
def check (h : OemHeader) : Except Error Unit :=
  if h.magic ≠ oemMagic then
    let m := Text.hexUpper 4 h.magic.toNat
    .error (.validation s!"bad magic 0x{m} (expected 0x93FD)")
  else if h.imageLen.toNat < minImageLen ∨ h.imageLen.toNat > maxImageLen ∨ h.imageLen % 2 ≠ 0 then
    let n := h.imageLen.toNat
    .error (.validation s!"image length {n} must be even and within 32..=131072")
  else .ok ()

end OemHeader

/-- Read `remaining` bytes of the image in pieces of `chunk`, each into the front of the scratch
buffer, and add up their word sums. -/
def sumChunks (chunk : Nat) (hchunk : 0 < chunk) (remaining : Nat) (sum : UInt16) :
    Action (Source × Array UInt8) UInt16 :=
  if _h : remaining = 0 then pure sum
  else do
    let take := min remaining chunk
    let piece ← Action.focus Prod.fst (fun s p => (s, p.2)) (Source.readFull take)
    modify fun p => (p.1, piece ++ p.2.extract take p.2.size)
    sumChunks chunk hchunk (remaining - take) (sum + wordSum piece.toList)
termination_by remaining
decreasing_by omega

/-- Validate a whole image: header, length and word sum, streaming the body through the scratch
buffer, whose even part sets the piece size. -/
def verify : Action (Source × Array UInt8) OemHeader := do
  let header ← Action.focus Prod.fst (fun s p => (s, p.2)) OemHeader.readFrom
  match header.check with
  | .error e => throw e
  | .ok () => pure ()
  let chunk := (← get).2.size / 2 * 2
  if h : chunk = 0 then
    throw (.invalidState "scratch buffer too small to verify image")
  else
    Action.focus Prod.fst (fun s p => (s, p.2)) (Source.seek 0)
    let sum ← sumChunks chunk (Nat.pos_of_ne_zero h) header.imageLen.toNat 0
    if sum ≠ 0 then
      let s := Text.hexUpper 4 sum.toNat
      throw (.validation s!"checksum failed (word sum 0x{s})")
    pure header

end RadioFlash
