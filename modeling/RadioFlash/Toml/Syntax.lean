import RadioFlash.Toml.Reader
import RadioFlash.Toml.Value
/-!
# The TOML grammar

Rules for the pieces of a TOML document: blanks, line breaks and comments; keys, bare or quoted
and joined by dots; and values: strings of the four kinds, booleans, integers in four bases,
floating-point numbers, dates and times, arrays and inline tables.

Each rule fails the way the text is wrong: a rule that has seen enough to know what it reads
commits (an opening quote must be closed, a `=` must be followed by a value), and names what was
being read and what was expected. Arrays and inline tables may be nested at most 79 deep, and a
dotted key may have at most 79 parts.
-/

namespace RadioFlash.Toml

open Rule

/-- The byte of an ASCII character. -/
def ascii (c : Char) : UInt8 := c.toNat.toUInt8

/-- A blank: space or tab. -/
def isBlank (b : UInt8) : Bool := b == 0x20 || b == 0x09

/-- A decimal digit. -/
def isDigit (b : UInt8) : Bool := 0x30 ≤ b && b ≤ 0x39

/-- A hexadecimal digit, in either case. -/
def isHexDigit (b : UInt8) : Bool :=
  isDigit b || (0x41 ≤ b && b ≤ 0x46) || (0x61 ≤ b && b ≤ 0x66)

/-- A byte of a character beyond ASCII. -/
def isWide (b : UInt8) : Bool := b ≥ 0x80

/-- A byte that may stand in a comment. -/
def isCommentByte (b : UInt8) : Bool := b == 0x09 || (0x20 ≤ b && b ≤ 0x7E) || isWide b

/-- A byte of a bare key: letters, digits, `-` and `_`. -/
def isBareKeyByte (b : UInt8) : Bool :=
  (0x41 ≤ b && b ≤ 0x5A) || (0x61 ≤ b && b ≤ 0x7A) || isDigit b || b == 0x2D || b == 0x5F

/-- A byte that stands for itself in a basic string. -/
def isPlainBasic (b : UInt8) : Bool :=
  isBlank b || b == 0x21 || (0x23 ≤ b && b ≤ 0x5B) || (0x5D ≤ b && b ≤ 0x7E) || isWide b

/-- A byte that may stand in a literal string. -/
def isLiteralByte (b : UInt8) : Bool :=
  b == 0x09 || (0x20 ≤ b && b ≤ 0x26) || (0x28 ≤ b && b ≤ 0x7E) || isWide b

/-- Nesting allowed below the top: arrays and inline tables, and parts of a dotted key. -/
def depthLimit : Nat := 80

/-! ## Blanks, line breaks and comments -/

/-- Blanks. -/
def blanks : Rule Unit := do let _ ← skipWhile isBlank

/-- A line break: LF, or CR then LF. -/
def newline : Rule Unit := do
  let b ← next
  if b == 10 then Rule.pure ()
  else if b == 13 then byte 10
  else Rule.fail

/-- A comment, up to the end of its line. -/
def comment : Rule Unit := do
  byte (ascii '#')
  let _ ← skipWhile isCommentByte

/-- The end of a line: a line break, or the end of the document. -/
def lineEnd : Rule Unit := orElse newline eof

/-- The rest of a line after an entry: blanks, perhaps a comment, then the end of the line. -/
def lineRest : Rule Unit := do
  blanks
  let _ ← opt comment
  lineEnd

/-- Blanks, line breaks, and comments that end their line, as many as there are. -/
def spaceFuel : Nat → Rule Unit
  | 0 => Rule.pure ()
  | fuel + 1 => fun s p =>
    match (do
      blanks
      match ← peek with
      | some 0x23 => do comment; newline; Rule.pure true
      | some 10 | some 13 => do newline; Rule.pure true
      | _ => Rule.pure false : Rule Bool) s p with
    | .ok true q => if q ≤ p then .ok () q else spaceFuel fuel s q
    | .ok false q => .ok () q
    | .fail c e => .fail c e

/-- Blanks, line breaks and whole-line comments, as inside arrays. -/
def space : Rule Unit := fun s p => spaceFuel (s.size - p + 1) s p

/-! ## Strings -/

/-- A hexadecimal number of exactly `n` digits naming a character. -/
def hexEscape (n : Nat) : Rule String := fun s p =>
  match takeWhile 0 n isHexDigit s p with
  | .ok (a, b) q =>
    if b - a ≠ n then .fail false { pos := p }
    else
      let v := (slice s a b).foldl (fun acc c =>
        16 * acc + (if c.isDigit then c.toNat - 48 else (c.toLower.toNat - 87))) 0
      if v < 0xD800 ∨ (0xDFFF < v ∧ v < 0x110000) then .ok (String.singleton (Char.ofNat v)) q
      else .fail false { pos := p, cause := some "value is out of range" }
  | .fail c e => .fail c e

/-- What may follow a backslash in a basic string. -/
def escapeCode : Rule String := do
  let b ← next
  if b == ascii 'b' then Rule.pure "\x08"
  else if b == ascii 'f' then Rule.pure "\x0c"
  else if b == ascii 'n' then Rule.pure "\n"
  else if b == ascii 'r' then Rule.pure "\r"
  else if b == ascii 't' then Rule.pure "\t"
  else if b == ascii 'u' then label "unicode 4-digit hex code" (commit (hexEscape 4))
  else if b == ascii 'U' then label "unicode 8-digit hex code" (commit (hexEscape 8))
  else if b == ascii '\\' then Rule.pure "\\"
  else if b == ascii '"' then Rule.pure "\""
  else
    ["`b`", "`f`", "`n`", "`r`", "`t`", "`u`", "`U`", "`\\`", "`\"`"].foldl
      (fun r w => expect w r) (label "escape sequence" (commit Rule.fail))

/-- A backslash and what follows it. -/
def escaped : Rule String := do
  byte (ascii '\\')
  escapeCode

/-- A run of characters of a basic string, or one escape. -/
def basicPiece : Rule String :=
  orElse (taken (takeSome isPlainBasic)) escaped

/-- A string in double quotes. -/
def basicString : Rule String := do
  byte (ascii '"')
  let pieces ← many basicPiece
  label "basic string" (commit (byte (ascii '"')))
  return String.join pieces

/-- A string in single quotes, taken as written. -/
def literalString : Rule String :=
  label "literal string" do
    byte (ascii '\'')
    let (a, b) ← commit (skipWhile isLiteralByte)
    commit (byte (ascii '\''))
    textOf a b

/-- A line break inside a multi-line string, written as a line feed. -/
def breakAsFeed : Rule String := do newline; Rule.pure "\n"

/-- A backslash ending a line in a multi-line basic string, with the blank space after it. -/
def lineContinuation : Rule String := do
  let _ ← many1 (do
    byte (ascii '\\')
    blanks
    newline
    let _ ← many (orElse breakAsFeed (taken (takeSome isBlank))))
  Rule.pure ""

/-- A run of content of a multi-line basic string. -/
def multiBasicPiece : Rule String :=
  orElse (taken (takeSome isPlainBasic))
    (orElse lineContinuation (orElse escaped breakAsFeed))

/-- One or two quote characters followed by what `after` accepts, which is left unread. -/
def quotesBefore (quote : UInt8) (after : Rule Unit) : Rule String := fun s p =>
  let attempt := fun (n : Nat) =>
    match literal (List.replicate n quote) s p with
    | .ok () q =>
      match after s q with
      | .ok _ _ => Outcome.ok (String.ofList (List.replicate n (Char.ofNat quote.toNat))) q
      | .fail c e => .fail c e
    | .fail c e => .fail c e
  match attempt 2 with
  | .fail false _ => attempt 1
  | o => o

/-- Any byte but this one, left unread. -/
def notByte (b : UInt8) : Rule Unit := fun s p =>
  match byteAt? s p with
  | some c => if c == b then .fail false { pos := p } else .ok () p
  | none => .fail false { pos := p }

/-- The body of a multi-line basic string. -/
def multiBasicBodyFuel (acc : String) : Nat → Rule String
  | 0 => Rule.pure acc
  | fuel + 1 => fun s p =>
    match opt (quotesBefore (ascii '"') (notByte (ascii '"'))) s p with
    | .ok (some qs) q =>
      match opt multiBasicPiece s q with
      | .ok (some piece) q' =>
        match many multiBasicPiece s q' with
        | .ok more q'' =>
          if q'' ≤ p then .ok acc q''
          else multiBasicBodyFuel (acc ++ qs ++ piece ++ String.join more) fuel s q''
        | .fail c e => .fail c e
      | .ok none q' => .ok acc q'
      | .fail c e => .fail c e
    | .ok none q => .ok acc q
    | .fail c e => .fail c e

/-- The body of a multi-line basic string after its first run of content. -/
def multiBasicBody (acc : String) : Rule String := fun s p =>
  multiBasicBodyFuel acc (s.size - p + 1) s p

/-- A string between triple double quotes. -/
def multiBasicString : Rule String :=
  label "multiline basic string" do
    text "\"\"\""
    let _ ← opt newline
    let body ← commit (do
      let first ← many multiBasicPiece
      let body ← multiBasicBody (String.join first)
      let tail ← opt (quotesBefore (ascii '"') (text "\"\"\""))
      Rule.pure (body ++ tail.getD ""))
    commit (text "\"\"\"")
    return body

/-- A byte or line break of a multi-line literal string. -/
def multiLiteralPiece : Rule Unit :=
  orElse (do let _ ← oneOf isLiteralByte) newline

/-- The body of a multi-line literal string. -/
def multiLiteralBody : Rule Unit := do
  let _ ← many multiLiteralPiece
  let _ ← many (do
    let _ ← quotesBefore (ascii '\'') (notByte (ascii '\''))
    let _ ← many1 multiLiteralPiece)
  let _ ← opt (quotesBefore (ascii '\'') (text "'''"))

/-- A string between triple single quotes, taken as written, line breaks as line feeds. -/
def multiLiteralString : Rule String :=
  label "multiline literal string" do
    text "'''"
    let _ ← opt newline
    let body ← commit (taken multiLiteralBody)
    commit (text "'''")
    return body.replace "\r\n" "\n"

/-- A string of any of the four kinds. -/
def anyString : Rule String :=
  orElse multiBasicString (orElse basicString (orElse multiLiteralString literalString))

/-! ## Keys -/

/-- One part of a key, bare or quoted, with its place. -/
def keyPart : Rule Key := fun s p =>
  let r : Rule String := match byteAt? s p with
    | some 0x22 => basicString
    | some 0x27 => literalString
    | some _ => taken (takeSome isBareKeyByte)
    | none => Rule.fail
  match r s p with
  | .ok name q => .ok { name, span := ⟨p, q⟩, written := (String.fromUTF8? (s.extract p q)).getD name } q
  | .fail c e => .fail c e

/-- A key: parts joined by dots, blanks allowed around each part. -/
def key : Rule (List Key) :=
  check (label "key" (sepBy1 (do blanks; let k ← keyPart; blanks; Rule.pure k) (byte (ascii '.'))))
    (fun ks => if ks.length ≥ depthLimit then .error "recursion limit exceeded" else .ok ks)

/-! ## Numbers -/

/-- A digit, or an underscore that must be followed by a digit. -/
def digitOrJoin (ok : UInt8 → Bool) : Rule Unit :=
  orElse (do let _ ← oneOf ok)
    (do byte (ascii '_'); expect "digit" (commit (do let _ ← oneOf ok)))

/-- Digits that may have leading zeros, with single underscores between them. -/
def digitRun : Rule Unit := do
  let _ ← oneOf isDigit
  let _ ← many (digitOrJoin isDigit)

/-- A sign. -/
def sign : Rule UInt8 := oneOf (fun b => b == ascii '+' || b == ascii '-')

/-- A decimal integer as written: optional sign, no leading zero unless it is the only digit. -/
def decimalText : Rule String :=
  label "integer" (taken (do
    let _ ← opt sign
    orElse (do
        let _ ← oneOf (fun b => 0x31 ≤ b && b ≤ 0x39)
        let _ ← many (digitOrJoin isDigit))
      (do let _ ← oneOf isDigit)))

/-- Read a signed decimal text, underscores ignored. -/
def decimalValue (t : String) : Int :=
  let cs := (t.toList.filter (· ≠ '_'))
  let (neg, ds) := match cs with
    | '-' :: rest => (true, rest)
    | '+' :: rest => (false, rest)
    | _ => (false, cs)
  let n : Nat := ds.foldl (fun acc c => 10 * acc + (c.toNat - 48)) 0
  if neg then -(n : Int) else n

/-- Integers must fit in sixty-four bits with sign. -/
def fitInteger (v : Int) : Except String Int :=
  if v > 9223372036854775807 then .error "number too large to fit in target type"
  else if v < -9223372036854775808 then .error "number too small to fit in target type"
  else .ok v

/-- The value of digits in a base. -/
def digitsValue (base : Nat) (t : String) : Int :=
  (t.toList.filter (· ≠ '_')).foldl (fun acc c =>
    let d := if c.isDigit then c.toNat - 48 else c.toLower.toNat - 87
    base * acc + d) 0

/-- An integer with a base prefix. -/
def prefixedInteger (pfx : String) (what : String) (base : Nat) (ok : UInt8 → Bool) : Rule Int :=
  commit (check (label what (do
      text pfx
      commit (taken (do let _ ← oneOf ok; let _ ← many (digitOrJoin ok)))))
    (fun t => fitInteger (digitsValue base t)))

/-- An integer in any of the four bases. -/
def integer : Rule Int := fun s p =>
  let r : Rule Int := match byteAt? s p, byteAt? s (p + 1) with
    | some 0x30, some 0x78 => prefixedInteger "0x" "hexadecimal integer" 16 isHexDigit
    | some 0x30, some 0x6F => prefixedInteger "0o" "octal integer" 8 (fun b => 0x30 ≤ b && b ≤ 0x37)
    | some 0x30, some 0x62 => prefixedInteger "0b" "binary integer" 2 (fun b => b == 0x30 || b == 0x31)
    | _, _ => fun s p =>
      match decimalText s p with
      | .ok t q =>
        match fitInteger (decimalValue t) with
        | .ok v => .ok v q
        | .error why => .fail true { pos := p, cause := some why }
      | .fail c e => .fail c e
  r s p

/-- A fraction: a point and digits. -/
def fraction : Rule Unit := do
  byte (ascii '.')
  expect "digit" (commit digitRun)

/-- An exponent: `e`, an optional sign and digits. -/
def exponentPart : Rule Unit := do
  let _ ← oneOf (fun b => b == ascii 'e' || b == ascii 'E')
  let _ ← opt sign
  commit digitRun

/-- The value of a decimal floating-point text, underscores ignored. -/
def floatingOf (t : String) : Floating :=
  let cs := t.toList.filter (· ≠ '_')
  let (neg, cs) := match cs with
    | '-' :: rest => (true, rest)
    | '+' :: rest => (false, rest)
    | _ => (false, cs)
  let mant := cs.takeWhile (fun c => c ≠ 'e' ∧ c ≠ 'E')
  let expText := (cs.dropWhile (fun c => c ≠ 'e' ∧ c ≠ 'E')).drop 1
  let intPart := mant.takeWhile (· ≠ '.')
  let fracPart := (mant.dropWhile (· ≠ '.')).drop 1
  let digits : Nat := (intPart ++ fracPart).foldl (fun acc c => 10 * acc + (c.toNat - 48)) 0
  let e := decimalValue (String.ofList expText)
  match Binary64.nearest digits (e - fracPart.length) with
  | some x => .finite neg x
  | none => .infinite neg

/-- `inf` or `nan`, with an optional sign. -/
def specialFloat : Rule Floating := do
  let s ← opt sign
  let neg := s == some (ascii '-')
  orElse (do text "inf"; Rule.pure (Floating.infinite neg)) (do text "nan"; Rule.pure Floating.nan)

/-- A floating-point number; a finite text too large to be finite is refused. -/
def floating : Rule Floating :=
  label "floating-point number" (orElse
    (fun s p =>
      match taken (do
          let _ ← decimalText
          orElse exponentPart (do fraction; let _ ← opt exponentPart)) s p with
      | .ok t q =>
        match floatingOf t with
        | .infinite false => .fail true { pos := p }
        | x => .ok x q
      | .fail c e => .fail c e)
    specialFloat)

/-! ## Dates and times -/

/-- Exactly `n` digits. -/
def digitsExactly (n : Nat) : Rule String := taken (takeWhile n n isDigit)

/-- Exactly `n` digits whose value lies in `lo..=hi`. -/
def digitsWithin (n lo hi : Nat) : Rule Nat :=
  check (digitsExactly n) (fun t =>
    let v := t.foldl (fun acc c => 10 * acc + (c.toNat - 48)) 0
    if lo ≤ v ∧ v ≤ hi then .ok v else .error "value is out of range")

/-- The number of days in a month of a year of the Gregorian calendar. -/
def daysInMonth (year month : Nat) : Nat :=
  let leap := year % 4 = 0 ∧ (year % 100 ≠ 0 ∨ year % 400 = 0)
  match month with
  | 2 => if leap then 29 else 28
  | 4 | 6 | 9 | 11 => 30
  | _ => 31

/-- A date: year, month and day, the day within its month. -/
def fullDate : Rule Unit := do
  let y ← digitsExactly 4
  byte (ascii '-')
  commit (do
    let m ← digitsWithin 2 1 12
    byte (ascii '-')
    let year := y.foldl (fun acc c => 10 * acc + (c.toNat - 48)) 0
    let _ ← digitsWithin 2 1 (daysInMonth year m))

/-- A time of day, with optional fractions of a second. -/
def partialTime : Rule Unit := do
  let _ ← digitsWithin 2 0 23
  byte (ascii ':')
  commit (do
    let _ ← digitsWithin 2 0 59
    byte (ascii ':')
    let _ ← digitsWithin 2 0 60
    let _ ← opt (do byte (ascii '.'); let _ ← takeSome isDigit))

/-- A time offset: `Z`, or a signed hour and minute. -/
def timeOffset : Rule Unit :=
  label "time offset" (orElse
    (do let _ ← oneOf (fun b => b == ascii 'Z' || b == ascii 'z'))
    (do
      let _ ← sign
      commit (do
        let _ ← digitsWithin 2 0 23
        byte (ascii ':')
        let _ ← digitsWithin 2 0 59)))

/-- A date with optional time and offset, or a time alone. -/
def dateTime : Rule Unit :=
  orElse
    (label "date-time" (do
      fullDate
      let _ ← opt (do
        let _ ← oneOf (fun b => b == ascii 'T' || b == ascii 't' || b == ascii ' ')
        partialTime
        let _ ← opt timeOffset)))
    (label "time" partialTime)

/-! ## Values -/

/-- The notes of a value that looks like a mistyped string. -/
def asString (r : Rule α) : Rule α :=
  expect "`'`" (expect "`\"`" (label "string" r))

/-- A boolean word, committed once its first letter is seen. -/
def word (w : String) : Rule Unit := commit (text w)

/-- An entry of an inline table: a key, `=`, and a value. -/
structure Pair where
  path : List Key
  key : Key
  value : Node
deriving Inhabited

/-- Split a key into the tables it passes through and its last part. -/
def splitKey (ks : List Key) : List Key × Key :=
  (ks.dropLast, ks.getLast?.getD default)

/-- Insert an entry into an inline table, making dotted subtables on the way; a dotted key may
not pass through a table written between braces. -/
def insertInline (fullPath : List Key) (i : Nat) (isDottedPath : Bool) :
    List Key → List (Key × Node) → Form → Key → Node → Except String (List (Key × Node))
  | [], entries, form, k, v =>
    if form.isDotted == !isDottedPath then .error ("duplicate key `" ++ k.name ++ "`")
    else if (lookup entries k.name).isSome then .error ("duplicate key `" ++ k.name ++ "`")
    else .ok (entries ++ [(k, v)])
  | step :: rest, entries, _, k, v =>
    match lookup entries step.name with
    | none => do
      let inner ← insertInline fullPath (i + 1) isDottedPath rest [] .inlineDotted k v
      .ok (entries ++ [(step, .table inner .inlineDotted none)])
    | some (.table inner f sp) =>
      if f ≠ .inlineDotted then .error ("duplicate key `" ++ step.name ++ "`")
      else do
        let inner' ← insertInline fullPath (i + 1) isDottedPath rest inner f k v
        .ok (entries.map (fun e => if e.1.name == step.name then (e.1, .table inner' f sp) else e))
    | some other =>
      .error ("dotted key `" ++ ".".intercalate ((fullPath.take (i + 1)).map (·.name)) ++
        "` attempted to extend non-table type (" ++ other.typeName ++ ")")

/-- Build an inline table from its entries in order. -/
def inlineEntries (pairs : List Pair) : Except String (List (Key × Node)) :=
  pairs.foldlM (fun entries pr =>
    insertInline (pr.path ++ [pr.key]) 0 (!pr.path.isEmpty) pr.path entries .inline pr.key pr.value) []

/-- An array, given the rule for its elements: values between brackets, divided by commas, with
blank space, line breaks and comments around them and an optional comma after the last. -/
def arrayOf (elem : Rule Node) : Rule (List Node) := do
  byte (ascii '[')
  let items ← commit (do
    let items ← opt (do
      let xs ← sepBy1 (do space; let v ← elem; space; Rule.pure v) (byte (ascii ','))
      let _ ← opt (byte (ascii ','))
      Rule.pure xs)
    space
    Rule.pure (items.getD []))
  expect "`]`" (label "array" (commit (byte (ascii ']'))))
  return items

/-- An inline table, given the rule for its values: entries `key = value` between braces,
divided by commas, all on one line. -/
def inlineTableOf (elem : Rule Node) : Rule (List (Key × Node)) := do
  byte (ascii '{')
  let entries ← commit (check (do
      let pairs ← sepBy (do
        let ks ← key
        commit (do
          expect "`=`" (expect "`.`" (byte (ascii '=')))
          blanks
          let v ← elem
          blanks
          let (path, k) := splitKey ks
          Rule.pure { path, key := k, value := v : Pair })) (byte (ascii ','))
      blanks
      Rule.pure pairs)
    inlineEntries)
  expect "`\x7d`" (label "inline table" (commit (byte (ascii '}'))))
  return entries

/-- A value, given the rule for the values inside an array or inline table, or none where no
more may open. -/
def valueWith (inner : Option (Rule Node)) : Rule Node := fun s p =>
    let nested : Rule Node := commit (failBecause "recursion limit exceeded")
    let r : Rule Node := match byteAt? s p with
      | none => Rule.fail
      | some b =>
        if b == ascii '"' || b == ascii '\'' then
          (fun t => Node.string t ⟨p, p⟩) <$> anyString
        else if b == ascii '[' then
          match inner with
          | none => nested
          | some r => (fun xs => Node.array xs ⟨p, p⟩) <$> arrayOf r
        else if b == ascii '{' then
          match inner with
          | none => nested
          | some r => (fun es => Node.table es .inline none) <$> inlineTableOf r
        else if b == ascii '+' || b == ascii '-' || isDigit b then
          orElse ((fun t => Node.datetime t ⟨p, p⟩) <$> taken dateTime)
            (orElse ((fun x => Node.float x ⟨p, p⟩) <$> floating)
              ((fun n => Node.integer n ⟨p, p⟩) <$> integer))
        else if b == ascii '_' then
          expect "leading digit" ((fun n => Node.integer n ⟨p, p⟩) <$> integer)
        else if b == ascii '.' then
          expect "leading digit" ((fun x => Node.float x ⟨p, p⟩) <$> floating)
        else if b == ascii 't' then
          asString (do word "true"; Rule.pure (Node.boolean true ⟨p, p⟩))
        else if b == ascii 'f' then
          asString (do word "false"; Rule.pure (Node.boolean false ⟨p, p⟩))
        else if b == ascii 'i' then
          asString (do text "inf"; Rule.pure (Node.float (.infinite false) ⟨p, p⟩))
        else if b == ascii 'n' then
          asString (do text "nan"; Rule.pure (Node.float .nan ⟨p, p⟩))
        else asString Rule.fail
    match r s p with
    | .ok n q => .ok (n.withSpan ⟨p, q⟩) q
    | .fail c e => .fail c e

/-- A value; `depth` is how many more arrays or inline tables may open inside it. -/
def value : Nat → Rule Node
  | 0 => valueWith none
  | d + 1 => valueWith (some (value d))

/-- Values may nest this deep. -/
def topValue : Rule Node := value (depthLimit - 1)

end RadioFlash.Toml
