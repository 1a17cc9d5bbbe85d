/-!
# Hexadecimal numerals

Messages name bytes and words in upper-case hexadecimal with a fixed least width (`0x1A01`,
`0x18xx`), and the module answers numbers in hexadecimal too. A numeral is its digit list,
most significant first, padded with zeros on the left.
-/

namespace RadioFlash.Text

/-- The hexadecimal digit for `d < 16`, upper- or lower-case. -/
def hexDigit (upper : Bool) (d : Nat) : Char :=
  if d < 10 then Char.ofNat (48 + d)
  else if upper then Char.ofNat (55 + d) else Char.ofNat (87 + d)

/-- The base-16 digits of `n`, most significant first; zero has no digits. -/
def hexDigits (n : Nat) : List Nat :=
  if n = 0 then [] else hexDigits (n / 16) ++ [n % 16]
decreasing_by omega

/-- `n` in hexadecimal with at least `width` digits. -/
def hexPadded (upper : Bool) (width n : Nat) : String :=
  let ds := hexDigits n
  String.ofList (List.replicate (width - ds.length) '0' ++ ds.map (hexDigit upper))

/-- `n` in upper-case hexadecimal with at least `width` digits, as messages print words. -/
def hexUpper (width n : Nat) : String :=
  hexPadded true width n

/-- Zero has no hex digits. -/
theorem hexDigits_zero : hexDigits 0 = [] := by
  simp [hexDigits]

end RadioFlash.Text
