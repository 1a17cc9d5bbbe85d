/-!
# Double-precision numbers, read from decimal and written back

A finite non-negative double is `mantissa * 2 ^ exponent` with a mantissa below `2 ^ 53` and an
exponent from `-1074` to `971`; a mantissa of at least `2 ^ 52` is normal, and below that only
the least exponent is used.

`nearest` reads a decimal: it picks the double closest to the exact value, the one with an even
mantissa on a tie, and refuses a value that rounds beyond the largest finite double. `shortest`
goes back: the decimal with the fewest significant digits that reads as the same double, the
closer of two such, and the greater on an exact tie. Both work in exact natural-number
arithmetic, so that they agree with every correctly rounding reader.
-/

namespace RadioFlash

/-- A finite non-negative double, `mantissa * 2 ^ exponent`. -/
structure Binary64 where
  mantissa : Nat
  exponent : Int
deriving DecidableEq, Inhabited, Repr

namespace Binary64

/-- The smallest normal mantissa, `2 ^ 52`. -/
def normalMantissa : Nat := 4503599627370496

/-- One past the largest mantissa, `2 ^ 53`. -/
def mantissaBound : Nat := 9007199254740992

/-- The least exponent, that of the subnormal doubles. -/
def leastExponent : Int := -1074

/-- The greatest exponent of a finite double. -/
def greatestExponent : Int := 971

/-- The number of decimal digits of a natural number; zero has one. -/
def decimalLength (n : Nat) : Nat := (Nat.toDigits 10 n).length

/-- `a * 2 ^ i`, as a fraction of two naturals. -/
def scaleByTwo (a : Nat) (i : Int) : Nat × Nat :=
  (a * Nat.pow 2 i.toNat, Nat.pow 2 (-i).toNat)

/-- `a * 10 ^ i`, as a fraction of two naturals. -/
def scaleByTen (a : Nat) (i : Int) : Nat × Nat :=
  (a * Nat.pow 10 i.toNat, Nat.pow 10 (-i).toNat)

/-- A quotient rounded to the nearest natural, to the even one on a tie. -/
def roundHalfEven (num den : Nat) : Nat :=
  let q := num / den
  let r := num % den
  if 2 * r > den ∨ (2 * r = den ∧ q % 2 = 1) then q + 1 else q

/-- The double nearest to the fraction `num / den`, which is not zero, or `none` when it rounds
beyond the largest finite double. The first exponent tried puts the leading bit of the quotient
at the mantissa's top, or is the least one: ⌊log₂ (num / den)⌋ is the difference of the two bit
lengths, or one less. -/
def nearestFraction (num den : Nat) : Option Binary64 :=
  let k : Int := (num.log2 : Int) - den.log2
  let k := if num * Nat.pow 2 (-k).toNat ≥ den * Nat.pow 2 k.toNat then k else k - 1
  let e := max (k - 52) leastExponent
  let m := roundHalfEven (num * Nat.pow 2 (-e).toNat) (den * Nat.pow 2 e.toNat)
  let (m, e) := if m = mantissaBound then (normalMantissa, e + 1) else (m, e)
  if e > greatestExponent then none else some ⟨m, e⟩

/-- The double nearest to `digits * 10 ^ exponent`, or `none` when that rounds beyond the largest
finite double. A value below `10 ^ -330` is zero, and one of `10 ^ 310` or more is too large,
so neither is worked out. -/
def nearest (digits : Nat) (exponent : Int) : Option Binary64 :=
  let top := exponent + decimalLength digits
  if digits = 0 ∨ top < -330 then some ⟨0, leastExponent⟩
  else if top > 310 then none
  else
    let (num, den) := scaleByTen digits exponent
    nearestFraction num den

/-- The gap to the double below is half the gap to the one above: the mantissa is the smallest
normal one and a smaller exponent exists. -/
def narrowBelow (x : Binary64) : Bool :=
  x.mantissa = normalMantissa && x.exponent > leastExponent

/-- Compare `a * 10 ^ i` with `b * 2 ^ j`, exactly. -/
def compareScaled (a : Nat) (i : Int) (b : Nat) (j : Int) : Ordering :=
  let (an, ad) := scaleByTen a i
  let (bn, bd) := scaleByTwo b j
  compare (an * bd) (bn * ad)

/-- `digits * 10 ^ exponent` reads back as `x`: it lies between the halfway points to the
neighbouring doubles, ends included when the mantissa is even. -/
def readsBack (x : Binary64) (digits : Nat) (exponent : Int) : Bool :=
  let lo := if x.narrowBelow then 4 * x.mantissa - 1 else 4 * x.mantissa - 2
  let hi := 4 * x.mantissa + 2
  let inclusive := x.mantissa % 2 = 0
  let cl := compareScaled digits exponent lo (x.exponent - 2)
  let ch := compareScaled digits exponent hi (x.exponent - 2)
  (cl == .gt || (inclusive && cl == .eq)) && (ch == .lt || (inclusive && ch == .eq))

/-- The least `k` with `x < 10 ^ k`, for a positive `x`. Below one, the greatest `j` with
`x * 10 ^ j < 1` is the gap of the two decimal lengths, or one less. -/
def scale (x : Binary64) : Int :=
  let (num, den) := scaleByTwo x.mantissa x.exponent
  if num ≥ den then decimalLength (num / den)
  else
    let j := decimalLength den - decimalLength num
    if num * Nat.pow 10 j < den then -(j : Int) else -(j : Int) + 1

/-- Trailing zeros of the digits moved into the exponent. -/
def stripZeros (digits : Nat) (exponent : Int) : Nat → Nat × Int
  | 0 => (digits, exponent)
  | fuel + 1 =>
    if digits ≠ 0 ∧ digits % 10 = 0 then stripZeros (digits / 10) (exponent + 1) fuel
    else (digits, exponent)

/-- The decimal of `n` significant digits that reads back as `x` and is closest to it, if one
does: the two neighbours of `x` on the grid `10 ^ (k - n)` are tried, and on an exact tie the
greater is taken: when both read back, the greater wins unless `x` lies below their midpoint. -/
def withDigits (x : Binary64) (k : Int) (n : Nat) : Option (Nat × Int) :=
  let g := k - n
  let (xn, xd) := scaleByTwo x.mantissa x.exponent
  let (gn, gd) := scaleByTen 1 g
  let below := (xn * gd) / (xd * gn)
  let lowOk := readsBack x below g
  let highOk := readsBack x (below + 1) g
  if lowOk ∧ highOk then
    if compareScaled (2 * below + 1) g (2 * x.mantissa) x.exponent == .gt then some (below, g)
    else some (below + 1, g)
  else if lowOk then some (below, g)
  else if highOk then some (below + 1, g)
  else none

/-- The decimal digits and exponent of the shortest decimal that reads back as `x`, closest to
it of those, without trailing zeros; zero is `(0, 0)`. Seventeen digits always suffice; should
they not, the exact value is given. -/
def shortest (x : Binary64) : Nat × Int :=
  if x.mantissa = 0 then (0, 0)
  else
    let k := x.scale
    let exact := if x.exponent ≥ 0 then (x.mantissa * Nat.pow 2 x.exponent.toNat, (0 : Int))
      else (x.mantissa * Nat.pow 5 (-x.exponent).toNat, x.exponent)
    let (d, e) := ((List.range 17).findSome? fun i => x.withDigits k (i + 1)).getD exact
    stripZeros d e (decimalLength d)

end Binary64

end RadioFlash
