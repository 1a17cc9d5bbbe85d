import RadioFlash.Toml.Syntax
/-!
# Reading a whole TOML document

A document is read line by line: blank lines, comments, `key = value` entries, and headers that
open a table (`[a.b]`) or add a table to an array of tables (`[[a.b]]`). Entries go into the
table opened last, or into the root before any header.

The table being filled is kept apart and put into the tree when the next header comes, or at
the end; a header takes a table made on the way to a deeper header back out of the tree to fill
it. Putting things into the tree enforces the rules of the format: a key is given once in its
table, a table is opened by one header, dotted keys only extend tables they made themselves, and
nothing extends a value. A broken rule is reported at the entry or header that breaks it, or
without a place when it shows only at the end.

A complaint is a message with the place it points at, if any; its text shows the line, a caret
under the place, and the message.
-/

namespace RadioFlash.Toml

open Rule

/-- A complaint about a document: a message and the byte range it points at. -/
structure Complaint where
  message : String
  span : Option Span := none
deriving Inhabited, Repr

/-- The message for a key given twice in one table; `table` names that table, if known. -/
def duplicateKey (k : String) (table : Option (List Key)) : String :=
  match table with
  | none => "duplicate key `" ++ k ++ "`"
  | some [] => "duplicate key `" ++ k ++ "` in document root"
  | some t => "duplicate key `" ++ k ++ "` in table `" ++ ".".intercalate (t.map (·.name)) ++ "`"

/-- The message for a key of a header's `path` given twice, as the key was written: its table is
the part of the path before it. -/
def duplicateAt (path : List Key) : String :=
  duplicateKey ((path.getLast?.map (·.written)).getD "") (some path.dropLast)

/-- Replace the entry of a key. -/
def replaceEntry (entries : List (Key × Node)) (name : String) (n : Node) : List (Key × Node) :=
  entries.map (fun e => if e.1.name == name then (e.1, n) else e)

/-- Work on the table at the end of `steps` below `entries`, making implied tables where there
are none (dotted ones when `dotted`), and entering the last table of an array of tables.
`full` is the whole path, for messages; `i` counts the steps taken. -/
def descend (dotted : Bool) (full : List Key) (i : Nat) :
    List Key → List (Key × Node) → Form →
    (List (Key × Node) → Form → Except String (List (Key × Node) × β)) →
    Except String (List (Key × Node) × β)
  | [], entries, form, f => f entries form
  | step :: rest, entries, _, f =>
    match lookup entries step.name with
    | none => do
      let form := if dotted then Form.dotted else Form.implied
      let (inner, b) ← descend dotted full (i + 1) rest [] form f
      .ok (entries ++ [(step, .table inner form none)], b)
    | some (.tables items) =>
      match items.getLast? with
      | some (.table inner form sp) => do
        let (inner', b) ← descend dotted full (i + 1) rest inner form f
        .ok (replaceEntry entries step.name (.tables (items.dropLast ++ [.table inner' form sp])), b)
      | _ => .error (duplicateKey step.name none)
    | some (.table inner form sp) =>
      if form.isInline then
        .error ("dotted key `" ++ ".".intercalate ((full.take (i + 1)).map (·.name)) ++
          "` attempted to extend non-table type (inline table)")
      else if dotted && !form.isImplied then .error (duplicateKey step.name none)
      else do
        let (inner', b) ← descend dotted full (i + 1) rest inner form f
        .ok (replaceEntry entries step.name (.table inner' form sp), b)
    | some other =>
      .error ("dotted key `" ++ ".".intercalate ((full.take (i + 1)).map (·.name)) ++
        "` attempted to extend non-table type (" ++ other.typeName ++ ")")

/-- The tree being built. -/
structure Builder where
  /-- The document's root, once the first header has come. -/
  root : List (Key × Node) := []
  /-- The entries of the table being filled. -/
  current : List (Key × Node) := []
  /-- Where the table being filled stands: from its header to its last value so far. -/
  currentSpan : Option Span := none
  /-- The path of the table being filled; empty for the root. -/
  path : List Key := []
  /-- The table being filled belongs to an array of tables. -/
  inArray : Bool := false
deriving Inhabited

namespace Builder

/-- Add `key = value`, reached through the dotted `path`, to the table being filled, which then
reaches to the end of the value. -/
def addEntry (b : Builder) (path : List Key) (k : Key) (v : Node) : Except String Builder := do
  let (current, ()) ← descend true path 0 path b.current .opened (fun entries form =>
    if form.isDotted == path.isEmpty then .error (duplicateKey k.name none)
    else if (lookup entries k.name).isSome then .error (duplicateKey k.name (some b.path))
    else .ok (entries ++ [(k, v)], ()))
  let currentSpan := match b.currentSpan, v.span? with
    | some sp, some vs => some ⟨sp.start, vs.stop⟩
    | sp, _ => sp
  return { b with current, currentSpan }

/-- Put the table being filled into the tree. -/
def settle (b : Builder) : Except String Builder := do
  match b.path.getLast? with
  | none => return { b with root := b.current, current := [] }
  | some last =>
    let filled := Node.table b.current .opened b.currentSpan
    let (root, ()) ← descend false b.path 0 b.path.dropLast b.root .opened (fun entries _ =>
      match lookup entries last.name with
      | none => .ok (entries ++ [(last, if b.inArray then .tables [filled] else filled)], ())
      | some (.tables items) =>
        if b.inArray then .ok (replaceEntry entries last.name (.tables (items ++ [filled])), ())
        else .error (duplicateAt b.path)
      | some (.table _ form _) =>
        if !b.inArray && !form.isInline && form.isImplied then
          .ok (replaceEntry entries last.name filled, ())
        else .error (duplicateAt b.path)
      | some _ => .error (duplicateAt b.path))
    return { b with root, current := [], path := [], currentSpan := none }

/-- Open the table of a `[header]`: settle the previous one, then take out a table made on the way
to a deeper header, if there is one. -/
def openTable (b : Builder) (path : List Key) (span : Span) : Except String Builder := do
  let b ← b.settle
  let last := (path.getLast?.map (·.name)).getD ""
  let (root, taken) ← descend false path 0 path.dropLast b.root .opened (fun entries _ =>
    match lookup entries last with
    | none => .ok (entries, [])
    | some (.table inner .implied _) => .ok (entries.filter (·.1.name != last), inner)
    | some _ => .error (duplicateAt path))
  return { root, current := taken, currentSpan := some span, path, inArray := false }

/-- Open a new table of a `[[header]]`. -/
def openArrayTable (b : Builder) (path : List Key) (span : Span) : Except String Builder := do
  let b ← b.settle
  let last := path.getLast?.getD default
  let (root, ()) ← descend false path 0 path.dropLast b.root .opened (fun entries _ =>
    match lookup entries last.name with
    | none => .ok (entries ++ [(last, .tables [])], ())
    | some (.tables _) => .ok (entries, ())
    | some _ => .error (duplicateAt path))
  return { root, current := [], currentSpan := some span, path, inArray := true }

end Builder

/-- An entry line: a key, `=`, a value, and the rest of the line. -/
def entryLine : Rule (List Key × Node) := do
  let ks ← key
  commit (do
    expect "`=`" (expect "`.`" (byte (ascii '=')))
    blanks
    let v ← topValue
    expect "`#`" (expect "newline" lineRest)
    return (ks, v))

/-- A header line: whether it adds to an array of tables, its path, and where it stands. -/
def headerLine : Rule (Bool × List Key × Span) :=
  label "table header" fun s p =>
    let r : Rule (Bool × List Key × Span) := match peek2 s p with
      | .ok (some (0x5B, 0x5B)) _ => do
        text "[["
        let ks ← commit key
        expect "`]]`" (expect "`.`" (commit (text "]]")))
        let stop ← here
        expect "`#`" (expect "newline" (commit lineRest))
        return (true, ks, ⟨p, stop⟩)
      | .ok (some _) _ => do
        byte (ascii '[')
        let ks ← commit key
        expect "`]`" (expect "`.`" (commit (byte (ascii ']'))))
        let stop ← here
        expect "`#`" (expect "newline" (commit lineRest))
        return (false, ks, ⟨p, stop⟩)
      | _ => Rule.fail
    r s p

/-- A failure committed at `pos` because of `why`, with the given notes. -/
def refusedAt (pos : Nat) (notes : List Note) (why : String) : Outcome α :=
  .fail true { pos, notes, cause := some why }

/-- Read the lines of a document from `p`, at most `fuel` of them, into the builder. -/
def linesFuel (s : ByteArray) : Nat → Nat → Builder → Outcome Builder
  | 0, p, b => .ok b p
  | fuel + 1, p, b =>
    let afterBlanks := fun (q : Nat) (b : Builder) =>
      match blanks s q with
      | .ok () q' => if q' ≤ p then Outcome.ok b q' else linesFuel s fuel q' b
      | .fail c e => .fail c e
    match byteAt? s p with
    | none => .ok b p
    | some 0x23 =>
      match commit (do comment; lineEnd) s p with
      | .ok () q => afterBlanks q b
      | .fail c e => .fail c e
    | some 0x5B =>
      match headerLine s p with
      | .ok (isArray, path, span) q =>
        let opened := if isArray then b.openArrayTable path span else b.openTable path span
        match opened with
        | .ok b' => afterBlanks q b'
        | .error why => refusedAt p [.label "table header"] why
      | .fail _ e => .fail true e
    | some 10 | some 13 =>
      match newline s p with
      | .ok () q => afterBlanks q b
      | .fail _ _ => .ok b p
    | some _ =>
      match commit entryLine s p with
      | .ok (ks, v) q =>
        match b.addEntry ks.dropLast (ks.getLast?.getD default) v with
        | .ok b' => afterBlanks q b'
        | .error why => refusedAt p [] why
      | .fail c e => .fail c e

/-- The first byte of the character that holds byte `pos`. -/
def charStart (s : ByteArray) : Nat → Nat
  | 0 => 0
  | pos + 1 =>
    match s[pos + 1]? with
    | some b => if b &&& 0xC0 = 0x80 then charStart s pos else pos + 1
    | none => pos + 1

/-- The bytes of the character that holds byte `pos`, or the empty range at the end. -/
def charSpan (s : ByteArray) (pos : Nat) : Span :=
  let start := charStart s pos
  let width := match s[start]? with
    | none => 0
    | some b => if b < 0x80 then 1 else if b < 0xE0 then 2 else if b < 0xF0 then 3 else 4
  ⟨start, start + min width (s.size - start)⟩

/-- Read a document into its root table, or complain. -/
def parseDocument (text : String) : Except Complaint (List (Key × Node)) :=
  let s := text.toUTF8
  let start := if Rule.startsAt s 0 [0xEF, 0xBB, 0xBF] then 3 else 0
  let lines : Outcome Builder := match blanks s start with
    | .ok () q => linesFuel s (s.size + 1) q {}
    | .fail c e => .fail c e
  let spanAt := fun (pos : Nat) => some (charSpan s pos)
  match lines with
  | .fail _ e => .error { message := e.message, span := spanAt e.pos }
  | .ok b q =>
    if q < s.size then .error { message := "", span := spanAt q }
    else match b.settle with
      | .ok b => .ok b.root
      | .error why => .error { message := why }

/-- Line and column, both from zero, of a byte position; the column counts characters when the
line up to and including that byte is whole characters, and bytes otherwise. A position at the
end counts one past the last byte. -/
def lineAndColumn (s : ByteArray) (index : Nat) : Nat × Nat :=
  if s.size = 0 then (0, index)
  else
    let safe := min index (s.size - 1)
    let beyond := index - safe
    let before := (s.extract 0 safe).toList
    let lineStart := match (before.reverse.findIdx? (· == 10)) with
      | some k => safe - k
      | none => 0
    let line := ((s.extract 0 lineStart).toList.filter (· == 10)).length
    let column := match String.fromUTF8? (s.extract lineStart (safe + 1)) with
      | some t => t.length - 1
      | none => safe - lineStart
    (line, column + beyond)

/-- The text of a complaint about `raw`: where it points, the line with a caret under the place,
and the message. -/
def Complaint.render (c : Complaint) (raw : String) : String :=
  match c.span with
  | none => c.message ++ "\n"
  | some sp =>
    let s := raw.toUTF8
    let (line, column) := lineAndColumn s sp.start
    let lineNo := line + 1
    let gutter := (toString lineNo).length
    let content := ((raw.splitOn "\n")[line]?).getD ""
    let width := min (sp.stop - sp.start) (content.utf8ByteSize - column)
    let pad := String.ofList (List.replicate (gutter + 1) ' ')
    "TOML parse error at line " ++ toString lineNo ++ ", column " ++ toString (column + 1) ++ "\n" ++
    pad ++ "|\n" ++
    toString lineNo ++ " | " ++ content ++ "\n" ++
    pad ++ "|" ++ String.ofList (List.replicate (column + 1) ' ') ++ "^" ++
    String.ofList (List.replicate (width - 1) '^') ++ "\n" ++
    c.message ++ "\n"

end RadioFlash.Toml
