import RadioFlash.Action
/-!
# Firmware sources

The install engines see an image only through a cursor: seek to an offset, read what is there.
An image held in memory refuses to seek past its end; a seekable stream seeks anywhere and
reads nothing there. A source may also hand out at most a fixed number of bytes per read, as
slow media do, so every reader must loop.

`readFull` keeps reading until the field is filled, each time asking for what is still missing;
a read that hands out nothing means the image ended before the field did.
-/

namespace RadioFlash

/-- How a source treats a seek past the end of its image. -/
inductive Reach where
  /-- An image held in memory: seeking past its end is refused. -/
  | held
  /-- A seekable stream: any offset is accepted, and reads there return nothing. -/
  | stream
deriving DecidableEq, Inhabited, Repr

/-- A cursor over a firmware image. -/
structure Source where
  /-- The image. -/
  data : Array UInt8
  /-- The cursor, in bytes from the start of the image. -/
  pos : Nat := 0
  /-- What a seek past the end does. -/
  reach : Reach := .held
  /-- The most bytes one read hands out, if reads are limited. -/
  readLimit : Option Nat := none
deriving Inhabited

namespace Source

/-- An image held in memory, cursor at the start. -/
def ofBytes (data : Array UInt8) : Source := { data }

/-- Bytes at or after the cursor. -/
def remaining (s : Source) : Nat := s.data.size - s.pos

/-- Bytes one read of `n` hands out. -/
def grant (s : Source) (n : Nat) : Nat :=
  min (s.readLimit.elim n (min n)) s.remaining

/-- Move the cursor to `offset` bytes from the start. -/
def seek (offset : UInt32) : Action Source Unit := do
  let s ← get
  let o := offset.toNat
  let size := s.data.size
  if s.reach = .held ∧ o > size then
    throw (.invalidState s!"seek to {o} past end of {size}-byte image")
  set { s with pos := o }

/-- Read up to `n` bytes at the cursor; an empty answer marks the end of the image. -/
def read (n : Nat) : Action Source (Array UInt8) := do
  let s ← get
  let k := s.grant n
  set { s with pos := s.pos + k }
  pure (s.data.extract s.pos (s.pos + k))

/-- Bytes that repeated reads deliver before one returns nothing. -/
def available (s : Source) : Nat :=
  if s.readLimit = some 0 then 0 else s.remaining

/-- The loop of `readFull`: read into `got` until it holds `n` bytes. Each round but the last
adds at least one byte, so `fuel` of `n` rounds is never exhausted before the field is full. -/
def fillUp (n : Nat) : Nat → Array UInt8 → Action Source (Array UInt8)
  | 0, got => pure got
  | fuel + 1, got => do
    if got.size < n then
      let piece ← read (n - got.size)
      if piece.isEmpty then
        let short := n - got.size
        throw (.validation s!"image ends {short} bytes short of a {n}-byte field")
      fillUp n fuel (got ++ piece)
    else
      pure got

/-- Read exactly `n` bytes; running out of image is a validation error that says how many bytes
were missing. -/
def readFull (n : Nat) : Action Source (Array UInt8) :=
  fillUp n n #[]

/-- Read one byte. -/
def readU8 : Action Source UInt8 := do
  let b ← readFull 1
  pure (b.getD 0 0)

/-- Read a big-endian 16-bit word. -/
def readU16 : Action Source UInt16 := do
  let b ← readFull 2
  pure ((b.getD 0 0).toUInt16 <<< 8 ||| (b.getD 1 0).toUInt16)

/-- Read a big-endian 32-bit word. -/
def readU32 : Action Source UInt32 := do
  let b ← readFull 4
  pure ((b.getD 0 0).toUInt32 <<< 24 ||| (b.getD 1 0).toUInt32 <<< 16 |||
    (b.getD 2 0).toUInt32 <<< 8 ||| (b.getD 3 0).toUInt32)

/-- A read hands out at most the bytes after the cursor. -/
theorem grant_le_remaining (s : Source) (n : Nat) : s.grant n ≤ s.remaining :=
  Nat.min_le_right _ _

end Source

end RadioFlash
