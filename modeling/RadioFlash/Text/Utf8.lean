/-!
# Reading bytes as UTF-8, replacing what is not

Decoding follows the Unicode recommendation for replacement: each maximal prefix of a
well-formed sequence that cannot be completed becomes one U+FFFD, and so does each byte that
cannot start a sequence. Well-formed sequences exclude overlong forms, surrogates and values
above U+10FFFF, which the allowed range of the second byte rules out.
-/

namespace RadioFlash.Text

/-- The range the second byte of a sequence must lie in, given its lead byte, and the number of
continuation bytes the lead announces; `none` for a byte that cannot lead. -/
def leadShape (b : UInt8) : Option (Nat × UInt8 × UInt8) :=
  if b < 0x80 then some (0, 0, 0)
  else if b < 0xC2 then none
  else if b < 0xE0 then some (1, 0x80, 0xBF)
  else if b = 0xE0 then some (2, 0xA0, 0xBF)
  else if b = 0xED then some (2, 0x80, 0x9F)
  else if b < 0xF0 then some (2, 0x80, 0xBF)
  else if b = 0xF0 then some (3, 0x90, 0xBF)
  else if b < 0xF4 then some (3, 0x80, 0xBF)
  else if b = 0xF4 then some (3, 0x80, 0x8F)
  else none

/-- The payload bits a lead byte carries for a sequence of `extra` continuation bytes. -/
def leadBits (b : UInt8) (extra : Nat) : Nat :=
  match extra with
  | 0 => b.toNat
  | 1 => b.toNat % 32
  | 2 => b.toNat % 16
  | _ => b.toNat % 8

/-- How many of the next bytes continue a sequence (at most `need`), the first within
`[lo, hi]`, the rest within `[0x80, 0xBF]`, and the bits they add to `acc`. -/
def takeContinuation : List UInt8 → Nat → UInt8 → UInt8 → Nat → Nat × Nat
  | [], _, _, _, acc => (0, acc)
  | _, 0, _, _, acc => (0, acc)
  | c :: rest, need + 1, lo, hi, acc =>
    if lo ≤ c ∧ c ≤ hi then
      let r := takeContinuation rest need 0x80 0xBF (acc * 64 + c.toNat % 64)
      (r.1 + 1, r.2)
    else (0, acc)

/-- Decode bytes as UTF-8, one U+FFFD for each maximal ill-formed part. -/
def decodeLossy : List UInt8 → List Char
  | [] => []
  | b :: rest =>
    match leadShape b with
    | none => '�' :: decodeLossy rest
    | some (extra, lo, hi) =>
      let r := takeContinuation rest extra lo hi (leadBits b extra)
      let head := if r.1 = extra then Char.ofNat r.2 else '�'
      head :: decodeLossy (rest.drop r.1)
termination_by bs => bs.length
decreasing_by all_goals (simp only [List.length_cons, List.length_drop]; omega)

/-- The text of a byte string read as UTF-8, with replacement characters where it is not. -/
def utf8Lossy (bytes : List UInt8) : String :=
  String.ofList (decodeLossy bytes)

end RadioFlash.Text
