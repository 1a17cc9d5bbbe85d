/-!
# Dropping escape sequences

Text written to a stream that shows no colour is first cleared of terminal escape sequences and
of control characters other than blanks. A reader walks the text in the states of the usual
terminal parser (plain text, escape, control sequence, device control string, operating system
command, and the strings that are only skipped).

The walk alternates between skipping and keeping. While skipping, each character moves the reader
from its state; the first character that shows from there (printable text, a character beyond
ASCII in plain text, or a tab, line feed, form feed or carriage return) switches to keeping.
Inside a sequence a character beyond ASCII is dropped. It moves nothing, except that a byte
`0x9c` after its first byte ends a device control string passed through or ignored and the
strings that are only skipped; its remaining bytes are then dropped from plain text.
While keeping, each character is judged as if the reader stood in plain text, although its state
still follows the characters that move it; the first character that does not show switches back
to skipping, and is skipped from the state the reader has then. So a line break inside an escape
sequence is kept, and so is the text right after it.
-/

namespace RadioFlash.Text

/-- Where the terminal parser stands. -/
inductive Reader where
  | ground
  | escape
  | escapeIntermediate
  | csiEntry
  | csiParam
  | csiIntermediate
  | csiIgnore
  | dcsEntry
  | dcsParam
  | dcsIntermediate
  | dcsPassthrough
  | dcsIgnore
  | oscString
  | sosPmApcString
deriving DecidableEq, Inhabited, Repr

/-- What the parser does with an ASCII character, as far as showing it is concerned. -/
inductive Act where
  | print
  | execute
  | other
deriving DecidableEq, Inhabited, Repr

namespace Reader

/-- A control character that is executed, not a state change: all of C0 but cancel, substitute
and escape. -/
def executed (b : Nat) : Bool :=
  b ≤ 0x17 || b == 0x19 || (0x1c ≤ b && b ≤ 0x1f)

/-- The state after an ASCII character, when it changes, and what is done with the character.
Cancel and substitute return to plain text and escape starts a sequence, from any state. -/
def change (r : Reader) (b : Nat) : Option Reader × Act :=
  if b == 0x18 || b == 0x1a then (some .ground, .execute)
  else if b == 0x1b then (some .escape, .other)
  else
    let inRange := fun (lo hi : Nat) => lo ≤ b && b ≤ hi
    match r with
    | .ground => if executed b then (none, .execute) else (none, .print)
    | .escape =>
      if executed b then (none, .execute)
      else if b == 0x7f then (none, .other)
      else if inRange 0x20 0x2f then (some .escapeIntermediate, .other)
      else if b == 0x50 then (some .dcsEntry, .other)
      else if b == 0x58 || b == 0x5e || b == 0x5f then (some .sosPmApcString, .other)
      else if b == 0x5b then (some .csiEntry, .other)
      else if b == 0x5d then (some .oscString, .other)
      else (some .ground, .other)
    | .escapeIntermediate =>
      if executed b then (none, .execute)
      else if inRange 0x30 0x7e then (some .ground, .other)
      else (none, .other)
    | .csiEntry =>
      if executed b then (none, .execute)
      else if inRange 0x20 0x2f then (some .csiIntermediate, .other)
      else if inRange 0x30 0x3f then (some .csiParam, .other)
      else if inRange 0x40 0x7e then (some .ground, .other)
      else (none, .other)
    | .csiParam =>
      if executed b then (none, .execute)
      else if inRange 0x3c 0x3f then (some .csiIgnore, .other)
      else if inRange 0x20 0x2f then (some .csiIntermediate, .other)
      else if inRange 0x40 0x7e then (some .ground, .other)
      else (none, .other)
    | .csiIntermediate =>
      if executed b then (none, .execute)
      else if inRange 0x30 0x3f then (some .csiIgnore, .other)
      else if inRange 0x40 0x7e then (some .ground, .other)
      else (none, .other)
    | .csiIgnore =>
      if executed b then (none, .execute)
      else if inRange 0x40 0x7e then (some .ground, .other)
      else (none, .other)
    | .dcsEntry =>
      if inRange 0x20 0x2f then (some .dcsIntermediate, .other)
      else if inRange 0x30 0x3f then (some .dcsParam, .other)
      else if inRange 0x40 0x7e then (some .dcsPassthrough, .other)
      else (none, .other)
    | .dcsParam =>
      if inRange 0x3c 0x3f then (some .dcsIgnore, .other)
      else if inRange 0x20 0x2f then (some .dcsIntermediate, .other)
      else if inRange 0x40 0x7e then (some .dcsPassthrough, .other)
      else (none, .other)
    | .dcsIntermediate =>
      if inRange 0x30 0x3f then (some .dcsIgnore, .other)
      else if inRange 0x40 0x7e then (some .dcsPassthrough, .other)
      else (none, .other)
    | .oscString => if b == 0x07 then (some .ground, .other) else (none, .other)
    | .dcsPassthrough | .dcsIgnore | .sosPmApcString => (none, .other)

/-- The state after a character beyond ASCII read while skipping inside a sequence: the strings
closed by the string terminator end when a byte of the character after its first is `0x9c`, and
every other state stays. -/
def afterWide (r : Reader) (c : Char) : Reader :=
  match r with
  | .dcsPassthrough | .dcsIgnore | .sosPmApcString =>
    if ((String.utf8EncodeChar c).drop 1).contains 0x9c then .ground else r
  | _ => r

end Reader

/-- Whether an ASCII character with this act shows: printed text other than delete, or an executed
blank. -/
def shows (a : Act) (b : Nat) : Bool :=
  (a == .print && b != 0x7f) ||
    (a == .execute && (b == 0x09 || b == 0x0a || b == 0x0c || b == 0x0d || b == 0x20))

/-- The walk's position: the parser state and whether characters are being kept. -/
structure Walk where
  reader : Reader := .ground
  keeping : Bool := false
deriving DecidableEq, Inhabited, Repr

namespace Walk

/-- Skip an ASCII character from the walk's state: it moves the reader, and keeping starts with
it when it shows. -/
def skipAscii (r : Reader) (b : Nat) : Walk × Bool :=
  let (next, act) := r.change b
  let r := next.getD r
  if shows act b then ({ reader := r, keeping := true }, true)
  else ({ reader := r, keeping := false }, false)

/-- Read one character: the new position and whether the character is kept. -/
def step (w : Walk) (c : Char) : Walk × Bool :=
  let b := c.toNat
  if b < 0x80 then
    if w.keeping then
      let (next, act) := Reader.ground.change b
      let r := next.getD w.reader
      if shows act b then ({ reader := r, keeping := true }, true)
      else skipAscii r b
    else skipAscii w.reader b
  else if w.keeping || w.reader == .ground then ({ reader := .ground, keeping := true }, true)
  else ({ reader := w.reader.afterWide c, keeping := false }, false)

end Walk

/-- The text with escape sequences and control characters dropped. -/
def stripEscapes (s : String) : String :=
  (s.toList.foldl (fun (acc : Walk × String) c =>
    let (w, kept) := acc.1.step c
    (w, if kept then acc.2.push c else acc.2)) ({}, "")).2

end RadioFlash.Text
