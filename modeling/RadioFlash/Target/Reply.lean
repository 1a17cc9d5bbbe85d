import RadioFlash.Text.Hex
/-!
# Numbers in the module's replies, and the programming unlock

The module answers numeric queries with up to four hexadecimal digits before the line ends.
`hexWord` reads them: it looks at no more than four bytes and stops at the first byte below
`'0'` (the carriage return, a space). Each byte is taken as a digit after ASCII upper-casing,
letters from `'A'` on counting from ten, without a range check.

Programming mode is unlocked with `%P` and a code derived from the low word of the serial
number.
-/

namespace RadioFlash

/-- The digit value of a reply byte: letters from `'A'` on count from ten, the rest from `'0'`;
bytes are upper-cased first. -/
def replyDigit (b : UInt8) : UInt8 :=
  let c := if 97 ≤ b ∧ b ≤ 122 then b - 32 else b
  if c ≥ 65 then c - 55 else c - 48

/-- The number formed by the leading digits of a reply: at most four bytes, up to the first
byte below `'0'`. -/
def hexWord (text : List UInt8) : UInt16 :=
  ((text.take 4).takeWhile (· ≥ 48)).foldl
    (fun value b => value <<< 4 ||| (replyDigit b).toUInt16) 0

/-- The unlock code for a serial number's low word. -/
def unlockCode (serialLow : UInt16) : UInt16 :=
  (serialLow + 0xDB8A) &&& 0x3FFF

/-- The unlock command, without the `AT` prefix: `%P` and four upper-case hex digits. -/
def unlockCommand (serialLow : UInt16) : List UInt8 :=
  ("%P" ++ Text.hexUpper 4 (unlockCode serialLow).toNat).toList.map Char.toUInt8

end RadioFlash
