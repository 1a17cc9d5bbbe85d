import RadioFlash.Journal.Pattern.Tree
import RadioFlash.Journal.Pattern.CodeSet
import RadioFlash.Journal.Pattern.Compose
/-!
# What a written pattern means

The tree of a pattern is given its meaning part by part, in reading order, under the flags in
force: flags written alone hold for the rest of their group, a plain group's flags hold inside
it, and a group gives back the flags it found when it closes.

Under Unicode, which is on unless turned off, a part stands for characters; off, it stands for
bytes, and a part that could match a byte outside ASCII is refused (`.` always can; so can a
negated class escape, a class reaching beyond ASCII, or `\xNN` above `7F`). Unicode's tables are
not at hand: the class escapes `\d`, `\s`, `\w` and the `\p` properties are refused under
Unicode, and so is matching letters in either case; without Unicode the class escapes are the
ASCII ones, properties are refused, and either case folds ASCII letters only. Word assertions
under Unicode survive here and are refused once the whole pattern is known.

Parts are put together in the normal form of `Compose`. Capturing groups are kept as such,
since the automaton that runs a pattern has states for them.
-/

namespace RadioFlash.Journal

/-- The flags in force. -/
structure Modes where
  caseless : Bool := false
  multiLine : Bool := false
  dotAll : Bool := false
  unicode : Bool := true
  crlf : Bool := false
deriving Inhabited, Repr

namespace Modes

/-- The flags after some are set or cleared. -/
def apply (m : Modes) (flags : List (Flag × Bool)) : Modes :=
  flags.foldl (fun m (f, on) =>
    match f with
    | .caseless => { m with caseless := on }
    | .multiLine => { m with multiLine := on }
    | .dotAll => { m with dotAll := on }
    | .unicode => { m with unicode := on }
    | .crlf => { m with crlf := on }
    | .swapGreed | .verbose => m) m

/-- Where classes are complemented. -/
def classUniverse (m : Modes) : Universe := if m.unicode then .scalars else .bytes

end Modes

/-- Refuse a pattern at a part. -/
def refuse (f : Flaw) (e : Extent) : Except PatternFault α :=
  throw (.rejected f e none)

/-- The ranges of a named ASCII class. -/
def asciiRanges : AsciiClass → List (Nat × Nat)
  | .alnum => [(0x30, 0x39), (0x41, 0x5A), (0x61, 0x7A)]
  | .alpha => [(0x41, 0x5A), (0x61, 0x7A)]
  | .ascii => [(0x00, 0x7F)]
  | .blank => [(0x09, 0x09), (0x20, 0x20)]
  | .cntrl => [(0x00, 0x1F), (0x7F, 0x7F)]
  | .digit => [(0x30, 0x39)]
  | .graph => [(0x21, 0x7E)]
  | .lower => [(0x61, 0x7A)]
  | .print => [(0x20, 0x7E)]
  | .punct => [(0x21, 0x2F), (0x3A, 0x40), (0x5B, 0x60), (0x7B, 0x7E)]
  | .space => [(0x09, 0x0D), (0x20, 0x20)]
  | .upper => [(0x41, 0x5A)]
  | .word => [(0x30, 0x39), (0x41, 0x5A), (0x5F, 0x5F), (0x61, 0x7A)]
  | .xdigit => [(0x30, 0x39), (0x41, 0x46), (0x61, 0x66)]

/-- The ASCII class of a class escape. -/
def PerlClass.ascii : PerlClass → AsciiClass
  | .digit => .digit
  | .space => .space
  | .word => .word

/-- A property name as the property tables compare them: in lower case, without blanks, `_`
and `-`, without a leading `is`, and with characters beyond ASCII left out. -/
def normalizePropertyName (name : String) : String :=
  let cs := name.toList
  let (leadingIs, cs) := match cs with
    | a :: b :: rest => if (a = 'i' || a = 'I') && (b = 's' || b = 'S') then (true, rest) else (false, cs)
    | _ => (false, cs)
  let kept := (cs.filter fun c => c ≠ ' ' && c ≠ '_' && c ≠ '-' && c.toNat < 128).map Char.toLower
  if leadingIs && kept = ['c'] then "isc" else String.ofList kept

/-- Why a property cannot be looked up: there are no property tables. The names `cf`, `sc` and
`lc` are taken for general categories, whose values are missing; any other is missing itself. -/
def PropertyQuery.flaw : PropertyQuery → Flaw
  | .named name =>
    if ["cf", "sc", "lc"].contains (normalizePropertyName name) then .propertyValueNotFound
    else .propertyNotFound
  | _ => .propertyNotFound

/-- Fold a class when letters match either case. -/
def foldClass (m : Modes) (e : Extent) (s : CodeSet) : Except PatternFault CodeSet :=
  if !m.caseless then pure s
  else if m.unicode then
    match s.foldScalars? with
    | some s => pure s
    | none => refuse .caseFoldingUnavailable e
  else pure s.foldAscii

/-- Fold a class, then complement it when negated; without Unicode it must stay within ASCII. -/
def foldAndNegate (m : Modes) (e : Extent) (negated : Bool) (s : CodeSet) :
    Except PatternFault CodeSet := do
  let s ← foldClass m e s
  let s := if negated then s.negate m.classUniverse else s
  if !m.unicode && !s.isAscii then refuse .invalidUtf8 e
  else pure s

/-- The character of a literal: without Unicode, `\xNN` above `7F` names a byte that is no
character. -/
def literalChar (m : Modes) (lit : Literal) : Except PatternFault Char :=
  if !m.unicode && lit.byteEscape && 0x80 ≤ lit.char.toNat && lit.char.toNat ≤ 0xFF then
    refuse .invalidUtf8 lit.place
  else pure lit.char

/-- The code of a literal inside brackets: without Unicode it must be an ASCII character. -/
def memberCode (m : Modes) (lit : Literal) : Except PatternFault Nat := do
  let c ← literalChar m lit
  if m.unicode || c.toNat ≤ 0x7F then pure c.toNat
  else refuse .unicodeNotAllowed lit.place

/-- The class of a class escape. -/
def perlSet (m : Modes) (e : Extent) (kind : PerlClass) (negated : Bool) :
    Except PatternFault CodeSet :=
  if m.unicode then refuse .perlClassUnavailable e
  else
    let s := CodeSet.ofRanges (asciiRanges kind.ascii)
    let s := if negated then s.negate .bytes else s
    if s.isAscii then pure s else refuse .invalidUtf8 e

/-- The class of a named ASCII class. -/
def asciiSet (m : Modes) (e : Extent) (kind : AsciiClass) (negated : Bool) :
    Except PatternFault CodeSet :=
  foldAndNegate m e negated (CodeSet.ofRanges (asciiRanges kind))

/-- A set operation. -/
def SetOp.apply (u : Universe) : SetOp → CodeSet → CodeSet → CodeSet
  | .intersection, s, t => s.intersect t
  | .difference, s, t => s.difference u t
  | .symmetricDifference, s, t => s.symmetricDifference u t

mutual

/-- Add what a class member stands for to a class. -/
def SetTree.addTo (m : Modes) : SetTree → CodeSet → Except PatternFault CodeSet
  | .empty _, acc => pure acc
  | .literal lit, acc => do
    let c ← memberCode m lit
    pure (acc.push (c, c))
  | .range _ lo hi, acc => do
    let a ← memberCode m lo
    let b ← memberCode m hi
    pure (acc.push (a, b))
  | .ascii e kind negated, acc => do
    pure (acc.union (← asciiSet m e kind negated))
  | .property e _ q, _ => refuse (if m.unicode then q.flaw else .unicodeNotAllowed) e
  | .perl e kind negated, acc => do
    pure (acc.union (← perlSet m e kind negated))
  | .bracket e negated body, acc => do
    let inner ← body.addTo m {}
    pure (acc.union (← foldAndNegate m e negated inner))
  | .union _ items, acc => SetTree.addAllTo m items acc
  | .op _ kind lhs rhs, acc => do
    let l ← lhs.addTo m {}
    let r ← rhs.addTo m {}
    let r ← foldClass m rhs.place r
    let l ← foldClass m lhs.place l
    pure (acc.union (kind.apply m.classUniverse l r))

/-- Add what each of a list of members stands for, in order. -/
def SetTree.addAllTo (m : Modes) : List SetTree → CodeSet → Except PatternFault CodeSet
  | [], acc => pure acc
  | t :: ts, acc => do SetTree.addAllTo m ts (← t.addTo m acc)

end

/-- Any character but the line ends that `.` skips. -/
def dotRanges (m : Modes) : List (Nat × Nat) :=
  if m.dotAll then [(0, 0x10FFFF)]
  else if m.crlf then [(0, 0x09), (0x0B, 0x0C), (0x0E, 0x10FFFF)]
  else [(0, 0x09), (0x0B, 0x10FFFF)]

/-- The assertion of `^`, `$`, `\A`, `\z` and the word assertions under the flags. -/
def lookOf (m : Modes) : Assertion → Look
  | .lineStart => if m.multiLine then .lineStart m.crlf else .textStart
  | .lineEnd => if m.multiLine then .lineEnd m.crlf else .textEnd
  | .textStart => .textStart
  | .textEnd => .textEnd
  | .wordBoundary => .boundary m.unicode false
  | .notWordBoundary => .boundary m.unicode true
  | .wordStart => .wordStart m.unicode
  | .wordEnd => .wordEnd m.unicode
  | .wordStartHalf => .wordStartHalf m.unicode
  | .wordEndHalf => .wordEndHalf m.unicode

/-- A single character, in either case when asked: without Unicode only ASCII letters have a
second case, and under Unicode either case is not available. -/
def literalPattern (m : Modes) (lit : Literal) : Except PatternFault Pattern := do
  let c ← literalChar m lit
  if !m.caseless then pure (.literal [c.toNat])
  else if m.unicode then refuse .caseFoldingUnavailable lit.place
  else if c.toNat < 128 then pure (Pattern.ofSet (CodeSet.ofRanges [(c.toNat, c.toNat)]).foldAscii.ranges)
  else pure (.literal [c.toNat])

mutual

/-- The meaning of a part under the flags in force, and the flags after it. -/
def Tree.meaning (m : Modes) : Tree → Except PatternFault (Pattern × Modes)
  | .empty _ => pure (.empty, m)
  | .flags _ fs => pure (.empty, m.apply fs)
  | .literal lit => do pure (← literalPattern m lit, m)
  | .dot e => if m.unicode then pure (Pattern.ofSet (dotRanges m), m) else refuse .invalidUtf8 e
  | .assertion _ kind => pure (.look (lookOf m kind), m)
  | .property e _ q => refuse (if m.unicode then q.flaw else .unicodeNotAllowed) e
  | .perl e kind negated => do pure (Pattern.ofSet (← perlSet m e kind negated).ranges, m)
  | .bracket e negated body => do
    let s ← body.addTo m {}
    let s ← foldAndNegate m e negated s
    pure (Pattern.ofSet s.ranges, m)
  | .repetition _ least most body => do
    let (p, m') ← Tree.meaning m body
    pure (Pattern.repetitionOf p least most, m')
  | .group _ kind body => do
    let inner := match kind with
      | .plain fs => m.apply fs
      | _ => m
    let (p, _) ← Tree.meaning inner body
    match kind with
    | .plain _ => pure (p, m)
    | _ => pure (.capture p, m)
  | .alternation _ branches => do
    let (ps, m') ← Tree.meaningList m branches
    pure (Pattern.alternationOf ps, m')
  | .concat _ parts => do
    let (ps, m') ← Tree.meaningList m parts
    pure (Pattern.concatOf ps, m')

/-- The meanings of parts in order, each under the flags the one before left. -/
def Tree.meaningList (m : Modes) : List Tree → Except PatternFault (List Pattern × Modes)
  | [] => pure ([], m)
  | t :: ts => do
    let (p, m') ← Tree.meaning m t
    let (ps, m'') ← Tree.meaningList m' ts
    pure (p :: ps, m'')

end

end RadioFlash.Journal
