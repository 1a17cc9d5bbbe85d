/-!
# Checksums of packets and images

XMODEM packets end in either a one-byte arithmetic sum or a CRC-16 with polynomial
x^16 + x^12 + x^5 + 1, initial value 0, bits taken most significant first. Both are left folds of
a per-byte step, so a checksum of a concatenation is the checksum of the second part continued
from the first (`crc16Update_append`).
-/

namespace RadioFlash

/-- One bit of CRC-16 division: shift left, and subtract the polynomial when a one falls out. -/
def crcShift (crc : UInt16) : UInt16 :=
  if crc &&& 0x8000 != 0 then (crc <<< 1) ^^^ 0x1021 else crc <<< 1

/-- Feed one byte into the CRC: add it to the high byte, then divide eight bit positions. -/
def crcByte (crc : UInt16) (b : UInt8) : UInt16 :=
  Nat.repeat crcShift 8 (crc ^^^ (b.toUInt16 <<< 8))

/-- Continue a CRC-16 over more bytes. -/
def crc16Update (crc : UInt16) (data : List UInt8) : UInt16 :=
  data.foldl crcByte crc

/-- CRC-16 of a byte string, starting from zero. -/
def crc16 (data : List UInt8) : UInt16 :=
  crc16Update 0 data

/-- Sum of the bytes modulo 256. -/
def checksum8 (data : List UInt8) : UInt8 :=
  data.foldl (· + ·) 0

/-- The CRC of two runs of bytes goes on from the CRC of the first. -/
theorem crc16Update_append (crc : UInt16) (a b : List UInt8) :
    crc16Update crc (a ++ b) = crc16Update (crc16Update crc a) b := by
  simp [crc16Update, List.foldl_append]

/-- No bytes leave the CRC. -/
@[simp] theorem crc16Update_nil (crc : UInt16) : crc16Update crc [] = crc := rfl

end RadioFlash
