import RadioFlash.Journal.Pattern.Tree
import RadioFlash.Text.Ascii
import RadioFlash.Text.Numeric
/-!
# Reading a message pattern

The reader walks the pattern once, character by character. A sequence being read is a `Run`;
an open group, or the alternatives seen so far inside it, wait on a stack of `Frame`s, and `)`
or the end of the pattern closes them. A bracketed class is read the same way with a stack of
its own: an opened bracket waits with the members before it, and a set operation waits with its
left side, so that operations chain to the left.

Under the `x` flag, white space and `#` comments between the parts are skipped; a group's
flags hold until the group closes.

Each rule that can fail names its `Flaw` and the stretch at fault. After reading, no part may
lie more than 250 groups, repetitions, alternations, sequences or brackets deep.

Every loop reads at least one character per round, so a bound of one round per character of
the pattern is never reached.
-/

namespace RadioFlash.Journal

/-- Where reading stands. -/
structure Reader where
  text : Array Char
  pos : Nat := 0
  /-- Blanks and `#` comments are skipped. -/
  verbose : Bool := false
  /-- Capture names given so far, with where each was written. -/
  names : List (String × Extent) := []

/-- A step of reading: it moves the reader, or refuses the pattern. -/
abbrev Read := StateT Reader (Except PatternFault)

namespace Read

/-- The character under the reader, if any. -/
def cur : Read (Option Char) := do
  let r ← get
  pure r.text[r.pos]?

/-- The character under the reader; only used where one is known to be there. -/
def curD : Read Char := do
  pure ((← cur).getD '\x00')

/-- The character after the one under the reader, if any. -/
def peek : Read (Option Char) := do
  let r ← get
  pure r.text[r.pos + 1]?

/-- The whole pattern has been read. -/
def atEnd : Read Bool := do
  pure (← cur).isNone

/-- The reader's position. -/
def pos : Read Nat := do
  pure (← get).pos

/-- The bound on the rounds of any loop. -/
def fuel : Read Nat := do
  pure ((← get).text.size + 1)

/-- The empty stretch at the reader. -/
def here : Read Extent := do
  let p ← pos
  pure ⟨p, p⟩

/-- The stretch of the character under the reader. -/
def charHere : Read Extent := do
  let p ← pos
  pure ⟨p, p + 1⟩

/-- Move the reader to a position. -/
def setPos (p : Nat) : Read Unit :=
  modify fun r => { r with pos := p }

/-- Set whether blanks and comments are skipped. -/
def setVerbose (v : Bool) : Read Unit :=
  modify fun r => { r with verbose := v }

/-- Refuse the pattern. -/
def fail (f : Flaw) (e : Extent) : Read α :=
  throw (.rejected f e none)

/-- Refuse the pattern for a clash between two stretches. -/
def clash (f : Flaw) (e other : Extent) : Read α :=
  throw (.rejected f e (some other))

/-- Step over one character; answers whether one is left after it. -/
def bump : Read Bool := do
  let r ← get
  if r.pos < r.text.size then
    set { r with pos := r.pos + 1 }
    pure (r.pos + 1 < r.text.size)
  else pure false

/-- The position just after a comment that starts before `p`: after its line feed, or the
end. -/
def pastComment (text : Array Char) : Nat → Nat → Nat
  | 0, p => p
  | fuel + 1, p =>
    match text[p]? with
    | some '\n' => p + 1
    | some _ => pastComment text fuel (p + 1)
    | none => p

/-- The position after the blanks and comments that start at `p`. -/
def pastBlanks (text : Array Char) : Nat → Nat → Nat
  | 0, p => p
  | fuel + 1, p =>
    match text[p]? with
    | some c =>
      if Text.isBlank c then pastBlanks text fuel (p + 1)
      else if c = '#' then pastBlanks text fuel (pastComment text (text.size + 1) (p + 1))
      else p
    | none => p

/-- Skip blanks and comments, when they are ignored. -/
def bumpSpace : Read Unit := do
  let r ← get
  if r.verbose then set { r with pos := pastBlanks r.text (r.text.size + 1) r.pos }

/-- Step over one character and the blanks after it; answers whether one is left. -/
def bumpAndSpace : Read Bool := do
  if !(← bump) then return false
  bumpSpace
  return !(← atEnd)

/-- Step over the given characters if they come next. -/
def bumpIf (s : List Char) : Read Bool := do
  let r ← get
  if (r.text.extract r.pos (r.pos + s.length)).toList == s then
    set { r with pos := r.pos + s.length }
    pure true
  else pure false

/-- The first character after the one under the reader, past blanks and comments when they are
ignored. Only the first `#` starts a comment here, and the first other character ends the
search; with none, it is the very next character. -/
def peekSpace : Read (Option Char) := do
  let r ← get
  if !r.verbose then return r.text[r.pos + 1]?
  if r.pos ≥ r.text.size then return none
  let rest := (r.text.extract (r.pos + 1) r.text.size).toList
  let rec go (inComment : Bool) : List Char → Option Char
    | [] => none
    | c :: cs =>
      if Text.isBlank c then go inComment cs
      else if !inComment && c = '#' then go true cs
      else some c
  match go false rest with
  | some c => return some c
  | none => return r.text[r.pos + 1]?

end Read

open Read

/-- The value of a hexadecimal digit. -/
def hexDigit? (c : Char) : Option Nat :=
  if c.isDigit then some (c.toNat - 48)
  else if 'a' ≤ c && c ≤ 'f' then some (c.toNat - 87)
  else if 'A' ≤ c && c ≤ 'F' then some (c.toNat - 55)
  else none

/-- The value of hexadecimal digits. -/
def hexValue (ds : List Char) : Nat :=
  ds.foldl (fun n c => 16 * n + (hexDigit? c).getD 0) 0

/-- A code point as a character, when it names one. -/
def scalar? (n : Nat) : Option Char :=
  if n < 0xD800 || (0xE000 ≤ n && n < 0x110000) then some (Char.ofNat n) else none

/-- A character with a meaning of its own in patterns. -/
def isMetaChar (c : Char) : Bool :=
  "\\.+*?()|[]\x7b\x7d^$#&-~".toList.contains c

/-- A character that stands for itself when escaped: a meta character, or ASCII other than
letters, digits and the angle brackets. -/
def isEscapable (c : Char) : Bool :=
  isMetaChar c || (c.toNat < 128 && !c.isAlphanum && c != '<' && c != '>')

/-- A character that may stand in a capture name; the first may not be a digit or punctuation. -/
def isCaptureChar (c : Char) (first : Bool) : Bool :=
  if first then c = '_' || Text.isAlphabetic c
  else c = '_' || c = '.' || c = '[' || c = ']' || Text.isAlphanumeric c

/-- A character of the name in `\b{name}`. -/
def isBoundaryNameChar (c : Char) : Bool :=
  ('A' ≤ c && c ≤ 'Z') || ('a' ≤ c && c ≤ 'z') || c = '-'

/-- The class escape of a letter, with whether it is negated. -/
def perlClassOf? : Char → Option (PerlClass × Bool)
  | 'd' => some (.digit, false)
  | 'D' => some (.digit, true)
  | 's' => some (.space, false)
  | 'S' => some (.space, true)
  | 'w' => some (.word, false)
  | 'W' => some (.word, true)
  | _ => none

/-- The flag of a letter. -/
def flagOf? : Char → Option Flag
  | 'i' => some .caseless
  | 'm' => some .multiLine
  | 's' => some .dotAll
  | 'U' => some .swapGreed
  | 'u' => some .unicode
  | 'R' => some .crlf
  | 'x' => some .verbose
  | _ => none

/-- The named ASCII class of a name. -/
def asciiClassOf? : String → Option AsciiClass
  | "alnum" => some .alnum
  | "alpha" => some .alpha
  | "ascii" => some .ascii
  | "blank" => some .blank
  | "cntrl" => some .cntrl
  | "digit" => some .digit
  | "graph" => some .graph
  | "lower" => some .lower
  | "print" => some .print
  | "punct" => some .punct
  | "space" => some .space
  | "upper" => some .upper
  | "word" => some .word
  | "xdigit" => some .xdigit
  | _ => none

/-- The first place where `needle` starts in `hay`, counted in characters. -/
def findSeq (needle : List Char) (hay : List Char) : Option Nat :=
  (List.range (hay.length + 1)).find? fun i => (hay.drop i).take needle.length == needle

/-- The property a `\p{…}` body names: `name!=value`, `name:value`, `name=value`, or a name. -/
def queryOf (body : List Char) : PropertyQuery :=
  let split (i k : Nat) : PropertyQuery :=
    .namedValue (String.ofList (body.take i)) (String.ofList (body.drop (i + k)))
  match findSeq ['!', '='] body with
  | some i => split i 2
  | none =>
    match findSeq [':'] body with
    | some i => split i 1
    | none =>
      match findSeq ['='] body with
      | some i => split i 1
      | none => .named (String.ofList body)

/-- The flags of a list of flag items (`none` for the negation mark): each flag with whether it
is turned on, which it is unless a negation came before it. -/
def flagSettings (items : List (Option Flag)) : List (Flag × Bool) :=
  (items.foldl (fun (acc : List (Flag × Bool) × Bool) item =>
    match item with
    | none => (acc.1, false)
    | some f => (acc.1 ++ [(f, acc.2)], acc.2)) ([], true)).1

/-- Whether a list of flags turns blanks and comments off or on. -/
def verboseSetting (flags : List (Flag × Bool)) : Option Bool :=
  (flags.find? (·.1 == .verbose)).map (·.2)

/-- A single part as read from the text. -/
inductive Primitive where
  | literal (lit : Literal)
  | assertion (place : Extent) (kind : Assertion)
  | dot (place : Extent)
  | perl (place : Extent) (kind : PerlClass) (negated : Bool)
  | property (place : Extent) (negated : Bool) (query : PropertyQuery)

namespace Primitive

/-- Where the part was written. -/
def place : Primitive → Extent
  | literal lit => lit.place
  | assertion p _ | dot p | perl p .. | property p .. => p

/-- The part as a part of a pattern. -/
def toTree : Primitive → Tree
  | literal lit => .literal lit
  | assertion p k => .assertion p k
  | dot p => .dot p
  | perl p k n => .perl p k n
  | property p n q => .property p n q

/-- The part as a member of a class; assertions are no members. -/
def toMember : Primitive → Read SetTree
  | literal lit => pure (.literal lit)
  | perl p k n => pure (.perl p k n)
  | property p n q => pure (.property p n q)
  | other => fail .classEscapeInvalid other.place

/-- The part as an end of a range, which must be a character. -/
def toRangeEnd : Primitive → Read Literal
  | literal lit => pure lit
  | other => fail .classRangeLiteral other.place

end Primitive

/-- Hexadecimal digits, exactly `count` of them, after `\x`, `\u` or `\U`. -/
def readHexDigits (count : Nat) (byteEscape : Bool) : Read Literal := do
  let start ← pos
  let mut ds : List Char := []
  for i in List.range count do
    if i > 0 then
      if !(← bumpAndSpace) then fail .escapeUnexpectedEnd (← here)
    let c ← curD
    if (hexDigit? c).isNone then fail .hexInvalidDigit (← charHere)
    ds := ds ++ [c]
  let _ ← bumpAndSpace
  let stop ← pos
  match scalar? (hexValue ds) with
  | none => fail .hexInvalid ⟨start, stop⟩
  | some c => pure { place := ⟨start, stop⟩, char := c, byteEscape }

/-- Hexadecimal digits between braces, as many as there are. -/
def readHexBrace : Read Literal := do
  let bracePos ← pos
  let mut ds : List Char := []
  for _ in List.range (← fuel) do
    if !(← bumpAndSpace) then break
    let c ← curD
    if c = '\x7d' then break
    if (hexDigit? c).isNone then fail .hexInvalidDigit (← charHere)
    ds := ds ++ [c]
  if (← atEnd) then fail .escapeUnexpectedEnd ⟨bracePos, ← pos⟩
  let stop ← pos
  let _ ← bumpAndSpace
  if ds.isEmpty then fail .hexEmpty ⟨bracePos, ← pos⟩
  match scalar? (hexValue ds) with
  | none => fail .hexInvalid ⟨bracePos + 1, stop⟩
  | some c => pure { place := ⟨bracePos + 1, ← pos⟩, char := c }

/-- A hexadecimal escape, from its letter: `\x` takes two digits, `\u` four and `\U` eight, or
any number between braces. -/
def readHex : Read Literal := do
  let letter ← curD
  if !(← bumpAndSpace) then fail .escapeUnexpectedEnd (← here)
  if (← curD) = '\x7b' then readHexBrace
  else readHexDigits (if letter = 'x' then 2 else if letter = 'u' then 4 else 8) (letter = 'x')

/-- A Unicode class, from its letter: `\pL` or `\p{…}`, negated by `\P`. -/
def readProperty : Read (Extent × Bool × PropertyQuery) := do
  let negated := (← curD) = 'P'
  if !(← bumpAndSpace) then fail .escapeUnexpectedEnd (← here)
  if (← curD) = '\x7b' then
    let start := (← pos) + 1
    let mut body : List Char := []
    for _ in List.range (← fuel) do
      if !(← bumpAndSpace) then break
      let c ← curD
      if c = '\x7d' then break
      body := body ++ [c]
    if (← atEnd) then fail .escapeUnexpectedEnd (← here)
    let _ ← bump
    pure (⟨start, ← pos⟩, negated, queryOf body)
  else
    let start ← pos
    let c ← curD
    if c = '\\' then fail .unicodeClassInvalid (← charHere)
    let _ ← bumpAndSpace
    pure (⟨start, ← pos⟩, negated, .oneLetter c)

/-- After `\b`, a brace may start a named word edge such as `\b{start}`; when the brace is
followed by something else the reader goes back and the brace starts a repetition. -/
def readBoundaryName (escapeStart : Nat) : Read (Option Assertion) := do
  let start ← pos
  if !(← bumpAndSpace) then
    fail .specialWordOrRepetitionUnexpectedEnd ⟨escapeStart, ← pos⟩
  let contents ← pos
  if !isBoundaryNameChar (← curD) then
    setPos start
    return none
  let mut name : List Char := []
  for _ in List.range (← fuel) do
    if (← atEnd) then break
    let c ← curD
    if !isBoundaryNameChar c then break
    name := name ++ [c]
    let _ ← bumpAndSpace
  if (← atEnd) then fail .specialWordBoundaryUnclosed ⟨start, ← pos⟩
  if (← curD) ≠ '\x7d' then fail .specialWordBoundaryUnclosed ⟨start, ← pos⟩
  let stop ← pos
  let _ ← bump
  match String.ofList name with
  | "start" => return some .wordStart
  | "end" => return some .wordEnd
  | "start-half" => return some .wordStartHalf
  | "end-half" => return some .wordEndHalf
  | _ => fail .specialWordBoundaryUnrecognized ⟨contents, stop⟩

/-- An escape, from its backslash. -/
def readEscape : Read Primitive := do
  let start ← pos
  if !(← bump) then fail .escapeUnexpectedEnd ⟨start, ← pos⟩
  let c ← curD
  if c.isDigit then fail .backreference ⟨start, (← pos) + 1⟩
  if c = 'x' || c = 'u' || c = 'U' then
    let lit ← readHex
    return .literal { lit with place := { lit.place with start } }
  if c = 'p' || c = 'P' then
    let (e, negated, q) ← readProperty
    return .property ⟨start, e.stop⟩ negated q
  if let some (kind, negated) := perlClassOf? c then
    let _ ← bump
    return .perl ⟨start, ← pos⟩ kind negated
  let _ ← bump
  let e : Extent := ⟨start, ← pos⟩
  if isEscapable c then return .literal { place := e, char := c }
  match c with
  | 'a' => return .literal { place := e, char := '\x07' }
  | 'f' => return .literal { place := e, char := '\x0c' }
  | 't' => return .literal { place := e, char := '\t' }
  | 'n' => return .literal { place := e, char := '\n' }
  | 'r' => return .literal { place := e, char := '\r' }
  | 'v' => return .literal { place := e, char := '\x0b' }
  | 'A' => return .assertion e .textStart
  | 'z' => return .assertion e .textEnd
  | 'b' =>
    if !(← atEnd) then
      if (← curD) = '\x7b' then
        if let some kind ← readBoundaryName start then
          return .assertion ⟨start, ← pos⟩ kind
    return .assertion e .wordBoundary
  | 'B' => return .assertion e .notWordBoundary
  | '<' => return .assertion e .wordStart
  | '>' => return .assertion e .wordEnd
  | _ => fail .escapeUnrecognized e

/-- A single part outside brackets: an escape, `.`, `^`, `$`, or a character. -/
def readPrimitive : Read Primitive := do
  let c ← curD
  if c = '\\' then readEscape
  else
    let e ← charHere
    let _ ← bump
    match c with
    | '.' => pure (.dot e)
    | '^' => pure (.assertion e .lineStart)
    | '$' => pure (.assertion e .lineEnd)
    | _ => pure (.literal { place := e, char := c })

/-- A single member inside brackets: an escape or a character. -/
def readMemberPrimitive : Read Primitive := do
  let c ← curD
  if c = '\\' then readEscape
  else
    let e ← charHere
    let _ ← bump
    pure (.literal { place := e, char := c })

/-! ## Bracketed classes -/

/-- Members of a class read so far, with the stretch from the first to the last. -/
structure SetRun where
  start : Nat
  stop : Nat
  items : List SetTree := []

namespace SetRun

/-- Add a member. -/
def push (u : SetRun) (t : SetTree) : SetRun :=
  { start := if u.items.isEmpty then t.place.start else u.start, stop := t.place.stop,
    items := u.items ++ [t] }

/-- The members as one: nothing, the only member, or their union. -/
def toMember (u : SetRun) : SetTree :=
  match u.items with
  | [] => .empty ⟨u.start, u.stop⟩
  | [t] => t
  | ts => .union ⟨u.start, u.stop⟩ ts

end SetRun

/-- What waits while a class is read: an opened bracket with the members before it and the
stretch of its opening, or a set operation with its left side. -/
inductive SetFrame where
  | opened (before : SetRun) (opening : Extent) (negated : Bool)
  | op (kind : SetOp) (lhs : SetTree)

/-- The complaint about a class left open: it points at the innermost open bracket. -/
def unclosedClass (stack : List SetFrame) : Read α :=
  match stack.findSome? (fun f => match f with | .opened _ e _ => some e | .op .. => none) with
  | some e => fail .classUnclosed e
  | none => fail .classUnclosed ⟨0, 0⟩

/-- Finish a waiting set operation, if one waits, with its right side. -/
def closeOp (rhs : SetTree) : List SetFrame → SetTree × List SetFrame
  | .op kind lhs :: rest => (.op ⟨lhs.place.start, rhs.place.stop⟩ kind lhs rhs, rest)
  | stack => (rhs, stack)

/-- The opening of a bracket, from its `[`: a negation, then leading `-` and a leading `]`,
which stand for themselves. Answers the stretch of the opening, the negation and the members
read. -/
def readOpening : Read (Extent × Bool × SetRun) := do
  let start ← pos
  if !(← bumpAndSpace) then fail .classUnclosed ⟨start, ← pos⟩
  let mut negated := false
  if (← curD) = '^' then
    if !(← bumpAndSpace) then fail .classUnclosed ⟨start, ← pos⟩
    negated := true
  let p ← pos
  let mut u : SetRun := { start := p, stop := p }
  for _ in List.range (← fuel) do
    if (← curD) ≠ '-' then break
    u := u.push (.literal { place := ← charHere, char := '-' })
    if !(← bumpAndSpace) then fail .classUnclosed ⟨start, start⟩
  if u.items.isEmpty then
    if (← curD) = ']' then
      u := u.push (.literal { place := ← charHere, char := ']' })
      if !(← bumpAndSpace) then fail .classUnclosed ⟨start, ← pos⟩
  return (⟨start, ← pos⟩, negated, u)

/-- A named ASCII class `[:name:]` or `[:^name:]`, from its `[`; when there is none, the
reader goes back. -/
def readAsciiClass : Read (Option SetTree) := do
  let start ← pos
  let back : Read (Option SetTree) := do
    setPos start
    return none
  if !(← bump) then return ← back
  if (← curD) ≠ ':' then return ← back
  if !(← bump) then return ← back
  let mut negated := false
  if (← curD) = '^' then
    negated := true
    if !(← bump) then return ← back
  let nameStart ← pos
  for _ in List.range (← fuel) do
    if (← curD) = ':' then break
    if !(← bump) then break
  if (← atEnd) then return ← back
  let nameStop ← pos
  let name := String.ofList ((← get).text.extract nameStart nameStop).toList
  if !(← bumpIf [':', ']']) then return ← back
  match asciiClassOf? name with
  | none => back
  | some kind => return some (.ascii ⟨start, ← pos⟩ kind negated)

/-- A member, or a range of two: a `-` between two members makes a range unless a `]` or
another `-` follows it. -/
def readMember (stack : List SetFrame) : Read SetTree := do
  let first ← readMemberPrimitive
  bumpSpace
  if (← atEnd) then unclosedClass stack
  else
    let next ← peekSpace
    if (← curD) ≠ '-' || next = some ']' || next = some '-' then first.toMember
    else
      if !(← bumpAndSpace) then unclosedClass stack
      else
        let second ← readMemberPrimitive
        let place : Extent := ⟨first.place.start, second.place.stop⟩
        let lo ← first.toRangeEnd
        let hi ← second.toRangeEnd
        if lo.char > hi.char then fail .classRangeInvalid place
        else return .range place lo hi

/-- A bracketed class, from its `[` to the `]` that closes it. -/
def readBracket : Read Tree := do
  let p ← pos
  let mut u : SetRun := { start := p, stop := p }
  let mut stack : List SetFrame := []
  for _ in List.range (← fuel) do
    bumpSpace
    if (← atEnd) then unclosedClass stack
    let c ← curD
    let next ← peek
    if c = '[' then
      let named ← if stack.isEmpty then pure none else readAsciiClass
      match named with
      | some t => u := u.push t
      | none =>
        let (opening, negated, inner) ← readOpening
        stack := .opened u opening negated :: stack
        u := inner
    else if c = ']' then
      let (body, rest) := closeOp u.toMember stack
      match rest with
      | .opened before opening negated :: outer =>
        let _ ← bump
        let t := SetTree.bracket ⟨opening.start, ← pos⟩ negated body
        if outer.isEmpty then
          return .bracket ⟨opening.start, ← pos⟩ negated body
        u := before.push t
        stack := outer
      | _ => unclosedClass stack
    else if (c = '&' || c = '-' || c = '~') && next = some c then
      let _ ← bump
      let _ ← bump
      let kind : SetOp := if c = '&' then .intersection
        else if c = '-' then .difference else .symmetricDifference
      let (lhs, rest) := closeOp u.toMember stack
      stack := .op kind lhs :: rest
      let q ← pos
      u := { start := q, stop := q }
    else
      u := u.push (← readMember stack)
  unclosedClass stack

/-! ## Groups -/

/-- What an opening parenthesis starts: flags for the rest of the enclosing group, or a group. -/
inductive Opening where
  | flags (place : Extent) (flags : List (Flag × Bool))
  | group (opener : Extent) (kind : GroupKind)

/-- Flags after `(?`, up to the `:` or `)` after them. -/
def readFlags : Read (List (Flag × Bool)) := do
  let mut items : List (Option Flag × Extent) := []
  let mut lastNegation : Option Extent := none
  for _ in List.range (← fuel) do
    let c ← curD
    if c = ':' || c = ')' then break
    let e ← charHere
    if c = '-' then
      lastNegation := some e
      match items.find? (·.1.isNone) with
      | some (_, first) => clash .flagRepeatedNegation e first
      | none => items := items ++ [(none, e)]
    else
      lastNegation := none
      match flagOf? c with
      | none => fail .flagUnrecognized e
      | some f =>
        match items.find? (·.1 == some f) with
        | some (_, first) => clash .flagDuplicate e first
        | none => items := items ++ [(some f, e)]
    if !(← bump) then fail .flagUnexpectedEnd (← here)
  if let some e := lastNegation then fail .flagDanglingNegation e
  return flagSettings (items.map (·.1))

/-- A capture name after `(?P<` or `(?<`, up to its `>`; names are given once. -/
def readCaptureName : Read String := do
  if (← atEnd) then fail .groupNameUnexpectedEnd (← here)
  let start ← pos
  for _ in List.range (← fuel) do
    let c ← curD
    if c = '>' then break
    if !isCaptureChar c ((← pos) = start) then fail .groupNameInvalid (← charHere)
    if !(← bump) then break
  let stop ← pos
  if (← atEnd) then fail .groupNameUnexpectedEnd (← here)
  let _ ← bump
  let name := String.ofList ((← get).text.extract start stop).toList
  if name.isEmpty then fail .groupNameEmpty ⟨start, start⟩
  match (← get).names.find? (·.1 == name) with
  | some (_, first) => clash .groupNameDuplicate ⟨start, stop⟩ first
  | none => modify fun r => { r with names := r.names ++ [(name, ⟨start, stop⟩)] }
  return name

/-- Look-around, which is not supported, starts with one of these. -/
def lookAroundStart : Read Bool := do
  if (← bumpIf ['?', '=']) then return true
  if (← bumpIf ['?', '!']) then return true
  if (← bumpIf ['?', '<', '=']) then return true
  bumpIf ['?', '<', '!']

/-- What follows an opening parenthesis. -/
def readOpeningParen : Read Opening := do
  let opener ← charHere
  let _ ← bump
  bumpSpace
  if (← lookAroundStart) then fail .lookAround ⟨opener.start, ← pos⟩
  let inner ← here
  let named ← if (← bumpIf ['?', 'P', '<']) then pure true else bumpIf ['?', '<']
  if named then
    return .group opener (.named (← readCaptureName))
  if (← bumpIf ['?']) then
    if (← atEnd) then fail .groupUnclosed opener
    let flags ← readFlags
    let last ← curD
    let _ ← bump
    if last = ')' then
      if flags.isEmpty then fail .repetitionMissing inner
      return .flags ⟨opener.start, ← pos⟩ flags
    return .group opener (.plain flags)
  return .group opener .capture

/-! ## Sequences, alternatives and repetitions -/

/-- The parts of a sequence read so far, and where it started. -/
structure Run where
  start : Nat
  parts : List Tree := []

namespace Run

/-- Add a part. -/
def push (r : Run) (t : Tree) : Run := { r with parts := r.parts ++ [t] }

/-- The sequence as one part, ending at `stop`: nothing, its only part, or the sequence. -/
def close (r : Run) (stop : Nat) : Tree :=
  match r.parts with
  | [] => .empty ⟨r.start, stop⟩
  | [t] => t
  | ts => .concat ⟨r.start, stop⟩ ts

/-- The part a repetition applies to: the last one, unless there is none or it is only flags. -/
def operand? (r : Run) : Option Tree :=
  match r.parts.getLast? with
  | some (.empty _) | some (.flags ..) | none => none
  | some t => some t

/-- Replace the last part by a repetition of it. -/
def repeatLast (r : Run) (t : Tree) (stop least : Nat) (most : Option Nat) : Run :=
  { r with parts := r.parts.dropLast ++ [.repetition ⟨t.place.start, stop⟩ least most t] }

end Run

/-- What waits while a group is read: the group with the sequence before it and whether
blanks were skipped there, or the alternatives of the group seen so far. -/
inductive Frame where
  | group (before : Run) (opener : Extent) (kind : GroupKind) (verbose : Bool)
  | alternation (start : Nat) (branches : List Tree)

/-- `?`, `*` or `+` after a part, with an optional `?` for the lazy form. -/
def readRepetition (r : Run) (least : Nat) (most : Option Nat) : Read Run := do
  match r.operand? with
  | none => fail .repetitionMissing (← here)
  | some t =>
    if (← bump) then
      if (← curD) = '?' then
        let _ ← bump
    return r.repeatLast t (← pos) least most

/-- A count of a counted repetition: decimal digits with blanks around them. -/
def readCount : Read Nat := do
  for _ in List.range (← fuel) do
    match ← cur with
    | some c => if Text.isBlank c then let _ ← bump else break
    | none => break
  let start ← pos
  let mut ds : List Char := []
  for _ in List.range (← fuel) do
    match ← cur with
    | some c =>
      if c.isDigit then
        ds := ds ++ [c]
        let _ ← bumpAndSpace
      else break
    | none => break
  let e : Extent := ⟨start, ← pos⟩
  for _ in List.range (← fuel) do
    match ← cur with
    | some c => if Text.isBlank c then let _ ← bumpAndSpace else break
    | none => break
  if ds.isEmpty then fail .repetitionCountDecimalEmpty e
  let n : Nat := ds.foldl (fun n c => 10 * n + (c.toNat - 48)) 0
  if n > 4294967295 then fail .decimalInvalid e
  return n

/-- A counted repetition `{n}`, `{n,}` or `{n,m}` after a part, from its brace. -/
def readCounted (r : Run) : Read Run := do
  let start ← pos
  match r.operand? with
  | none => fail .repetitionMissing (← here)
  | some t =>
    if !(← bumpAndSpace) then fail .repetitionCountUnclosed ⟨start, ← pos⟩
    let least ← readCount
    if (← atEnd) then fail .repetitionCountUnclosed ⟨start, ← pos⟩
    let mut most := some least
    if (← curD) = ',' then
      if !(← bumpAndSpace) then fail .repetitionCountUnclosed ⟨start, ← pos⟩
      if (← curD) ≠ '\x7d' then most := some (← readCount) else most := none
    if (← atEnd) then fail .repetitionCountUnclosed ⟨start, ← pos⟩
    if (← curD) ≠ '\x7d' then fail .repetitionCountUnclosed ⟨start, ← pos⟩
    if (← bumpAndSpace) then
      if (← curD) = '?' then
        let _ ← bumpAndSpace
    let stop ← pos
    if let some m := most then
      if least > m then fail .repetitionCountInvalid ⟨start, stop⟩
    return r.repeatLast t stop least most

/-- An opening parenthesis: flags join the sequence, a group is opened. -/
def openGroup (r : Run) (stack : List Frame) : Read (Run × List Frame) := do
  match ← readOpeningParen with
  | .flags place flags =>
    if let some v := verboseSetting flags then setVerbose v
    return (r.push (.flags place flags), stack)
  | .group opener kind =>
    let old := (← get).verbose
    let inner := match kind with
      | .plain flags => (verboseSetting flags).getD old
      | _ => old
    setVerbose inner
    return ({ start := ← pos }, .group r opener kind old :: stack)

/-- A closing parenthesis: the group ends, with its alternatives if it has any. -/
def closeGroup (r : Run) (stack : List Frame) : Read (Run × List Frame) := do
  let (before, opener, kind, verbose, alternatives, rest) ← match stack with
    | .group b o k v :: rest => pure (b, o, k, v, none, rest)
    | .alternation s bs :: .group b o k v :: rest => pure (b, o, k, v, some (s, bs), rest)
    | _ => fail .groupUnopened (← charHere)
  setVerbose verbose
  let stop ← pos
  let _ ← bump
  let body := match alternatives with
    | some (s, bs) => .alternation ⟨s, stop⟩ (bs ++ [r.close stop])
    | none => r.close stop
  return (before.push (.group ⟨opener.start, ← pos⟩ kind body), rest)

/-- A `|`: the sequence so far becomes an alternative. -/
def nextAlternative (r : Run) (stack : List Frame) : Read (Run × List Frame) := do
  let stop ← pos
  let branch := r.close stop
  let stack := match stack with
    | .alternation s bs :: rest => .alternation s (bs ++ [branch]) :: rest
    | _ => .alternation r.start [branch] :: stack
  let _ ← bump
  return ({ start := ← pos }, stack)

/-- The end of the pattern: every group must be closed. -/
def finish (r : Run) (stack : List Frame) : Read Tree := do
  let stop ← pos
  match stack with
  | [] => return r.close stop
  | .alternation s bs :: rest =>
    match rest with
    | .group _ opener _ _ :: _ => fail .groupUnclosed opener
    | _ => return .alternation ⟨s, stop⟩ (bs ++ [r.close stop])
  | .group _ opener _ _ :: _ => fail .groupUnclosed opener

/-- A whole pattern. -/
def readTree : Read Tree := do
  let mut r : Run := { start := 0 }
  let mut stack : List Frame := []
  for _ in List.range (← fuel) do
    bumpSpace
    if (← atEnd) then break
    let c ← curD
    if c = '(' then
      let (r', stack') ← openGroup r stack
      r := r'
      stack := stack'
    else if c = ')' then
      let (r', stack') ← closeGroup r stack
      r := r'
      stack := stack'
    else if c = '|' then
      let (r', stack') ← nextAlternative r stack
      r := r'
      stack := stack'
    else if c = '[' then r := r.push (← readBracket)
    else if c = '?' then r ← readRepetition r 0 (some 1)
    else if c = '*' then r ← readRepetition r 0 none
    else if c = '+' then r ← readRepetition r 1 none
    else if c = '\x7b' then r ← readCounted r
    else r := r.push (← readPrimitive).toTree
  finish r stack

/-! ## Depth -/

mutual

/-- The first member, in reading order, that lies more than `limit` containers deep when its
container lies `depth` deep; brackets, unions and set operations contain. -/
def SetTree.tooDeep (limit depth : Nat) : SetTree → Option Extent
  | .bracket p _ body => if depth + 1 > limit then some p else SetTree.tooDeep limit (depth + 1) body
  | .union p ts => if depth + 1 > limit then some p else SetTree.tooDeepList limit (depth + 1) ts
  | .op p _ lhs rhs =>
    if depth + 1 > limit then some p
    else (SetTree.tooDeep limit (depth + 1) lhs).orElse fun _ => SetTree.tooDeep limit (depth + 1) rhs
  | _ => none

/-- The first member too deep among a list of members. -/
def SetTree.tooDeepList (limit depth : Nat) : List SetTree → Option Extent
  | [] => none
  | t :: ts => (SetTree.tooDeep limit depth t).orElse fun _ => SetTree.tooDeepList limit depth ts

end

mutual

/-- The first part, in reading order, that lies more than `limit` containers deep when its
container lies `depth` deep; groups, repetitions, alternations, sequences and brackets contain. -/
def Tree.tooDeep (limit depth : Nat) : Tree → Option Extent
  | .bracket p _ body => if depth + 1 > limit then some p else body.tooDeep limit (depth + 1)
  | .repetition p _ _ body => if depth + 1 > limit then some p else Tree.tooDeep limit (depth + 1) body
  | .group p _ body => if depth + 1 > limit then some p else Tree.tooDeep limit (depth + 1) body
  | .alternation p ts => if depth + 1 > limit then some p else Tree.tooDeepList limit (depth + 1) ts
  | .concat p ts => if depth + 1 > limit then some p else Tree.tooDeepList limit (depth + 1) ts
  | _ => none

/-- The first part too deep among a list of parts. -/
def Tree.tooDeepList (limit depth : Nat) : List Tree → Option Extent
  | [] => none
  | t :: ts => (Tree.tooDeep limit depth t).orElse fun _ => Tree.tooDeepList limit depth ts

end

/-- How deep parts may be nested. -/
def nestLimit : Nat := 250

/-- Read a pattern into its tree, or refuse it. -/
def Tree.read (pattern : String) : Except PatternFault Tree := do
  let (t, _) ← readTree.run { text := pattern.toList.toArray }
  match t.tooDeep nestLimit 0 with
  | some p => throw (.rejected (.nestLimitExceeded nestLimit) p none)
  | none => pure t

end RadioFlash.Journal
