/-!
# Reading rules over bytes

A rule reads a document, given as its UTF-8 bytes, from a byte position. It either succeeds
with a value and the position after what it read, or fails with a fault. A failure is either
*tentative*, so that an enclosing choice may try something else from where it began, or
*committed*, when the text can only be wrong: committed failures pass through every choice.

A fault remembers the position where reading stopped, and gathers, as it travels outwards, the
descriptions of the rules it passes through: the name of what was being read ("invalid
string") and what would have been accepted ("expected `=`"). Its message names the innermost
description and every expectation in the order they were added, then the underlying cause.

Loops spend one unit of fuel per round and stop when a round reads nothing, so every rule here
is total; a round always reads at least one byte, so fuel equal to the remaining length plus one
is never exhausted early.
-/

namespace RadioFlash.Toml

/-- A description a failed rule adds to its fault. -/
inductive Note where
  /-- The thing being read: the message says "invalid" and the name. -/
  | label (what : String)
  /-- Something that would have been accepted, already written as the message shows it. -/
  | expected (what : String)
deriving Inhabited, Repr

/-- Why reading stopped, where, and what the enclosing rules said about it. -/
structure Fault where
  pos : Nat
  notes : List Note := []
  cause : Option String := none
deriving Inhabited, Repr

/-- The message of a fault: the innermost name, the expectations, then the cause, one a line. -/
def Fault.message (f : Fault) : String :=
  let label := f.notes.findSome? (fun n => match n with | .label w => some w | _ => none)
  let expected := f.notes.filterMap (fun n => match n with | .expected w => some w | _ => none)
  let parts := (label.map (fun w => ["invalid " ++ w])).getD [] ++
    (if expected.isEmpty then [] else ["expected " ++ ", ".intercalate expected]) ++
    (f.cause.map (fun c => [c])).getD []
  "\n".intercalate parts

/-- The byte at a position, if the document is that long. -/
def byteAt? (s : ByteArray) (p : Nat) : Option UInt8 :=
  if h : p < s.size then some s[p] else none

/-- The result of a rule. -/
inductive Outcome (α : Type) where
  | ok (a : α) (pos : Nat)
  | fail (committed : Bool) (f : Fault)
deriving Inhabited

/-- A rule reading from a byte position of a document. -/
def Rule (α : Type) : Type := ByteArray → Nat → Outcome α

/-- A rule that fails at once, committing nothing. -/
instance : Inhabited (Rule α) := ⟨fun _ p => .fail false { pos := p }⟩

namespace Rule

/-- Succeed with `a`, reading nothing. -/
def pure (a : α) : Rule α := fun _ p => .ok a p

/-- Read with `r`, then with the rule `f` picks from its value. -/
def bind (r : Rule α) (f : α → Rule β) : Rule β := fun s p =>
  match r s p with
  | .ok a q => f a s q
  | .fail c e => .fail c e

/-- Rules read in sequence. -/
instance : Monad Rule where
  pure := Rule.pure
  bind := Rule.bind

/-- The current position. -/
def here : Rule Nat := fun _ p => .ok p p

/-- Fail tentatively here, with no description. -/
def fail : Rule α := fun _ p => .fail false { pos := p }

/-- Fail here with a cause, tentatively. -/
def failBecause (cause : String) : Rule α := fun _ p => .fail false { pos := p, cause := some cause }

/-- The next byte, without reading it. -/
def peek : Rule (Option UInt8) := fun s p => .ok (byteAt? s p) p

/-- The next two bytes, without reading them, if there are two. -/
def peek2 : Rule (Option (UInt8 × UInt8)) := fun s p =>
  match byteAt? s p, byteAt? s (p + 1) with
  | some a, some b => .ok (some (a, b)) p
  | _, _ => .ok none p

/-- Read any byte; fails at the end. -/
def next : Rule UInt8 := fun s p =>
  match byteAt? s p with
  | some b => .ok b (p + 1)
  | none => .fail false { pos := p }

/-- Read one byte that `ok` accepts; otherwise fail without reading. -/
def oneOf (ok : UInt8 → Bool) : Rule UInt8 := fun s p =>
  match byteAt? s p with
  | some b => if ok b then .ok b (p + 1) else .fail false { pos := p }
  | none => .fail false { pos := p }

/-- Read this byte. -/
def byte (b : UInt8) : Rule Unit := fun s p =>
  match byteAt? s p with
  | some c => if c == b then .ok () (p + 1) else .fail false { pos := p }
  | none => .fail false { pos := p }

/-- The bytes from `p` on start with `bs`. -/
def startsAt (s : ByteArray) (p : Nat) : List UInt8 → Bool
  | [] => true
  | b :: bs => byteAt? s p == some b && startsAt s (p + 1) bs

/-- Read exactly these bytes; otherwise fail without reading. -/
def literal (bs : List UInt8) : Rule Unit := fun s p =>
  if startsAt s p bs then .ok () (p + bs.length) else .fail false { pos := p }

/-- Read this ASCII text exactly. -/
def text (t : String) : Rule Unit := literal t.toUTF8.toList

/-- How many bytes from `p` on `ok` accepts, counting at most `limit`. -/
def countWhile (s : ByteArray) (ok : UInt8 → Bool) (p : Nat) : Nat → Nat
  | 0 => 0
  | limit + 1 =>
    match byteAt? s p with
    | some b => if ok b then countWhile s ok (p + 1) limit + 1 else 0
    | none => 0

/-- Read between `lo` and `hi` bytes that `ok` accepts, as many as possible; fewer than `lo`
fails without reading. Answers the range read. -/
def takeWhile (lo hi : Nat) (ok : UInt8 → Bool) : Rule (Nat × Nat) := fun s p =>
  let n := countWhile s ok p (min hi (s.size - p))
  if n < lo then .fail false { pos := p } else .ok (p, p + n) (p + n)

/-- Read at least one accepted byte, and as many as there are. -/
def takeSome (ok : UInt8 → Bool) : Rule (Nat × Nat) := fun s p =>
  takeWhile 1 (s.size - p) ok s p

/-- Read as many accepted bytes as there are, possibly none. -/
def skipWhile (ok : UInt8 → Bool) : Rule (Nat × Nat) := fun s p =>
  takeWhile 0 (s.size - p) ok s p

/-- The end of the document. -/
def eof : Rule Unit := fun s p =>
  if p ≥ s.size then .ok () p else .fail false { pos := p }

/-- Try `r`; a tentative failure gives `none` and reads nothing. -/
def opt (r : Rule α) : Rule (Option α) := fun s p =>
  match r s p with
  | .ok a q => .ok (some a) q
  | .fail true e => .fail true e
  | .fail false _ => .ok none p

/-- Try `r`, and after a tentative failure `r'` from the same place; if both fail tentatively,
the second fault is the answer. -/
def orElse (r r' : Rule α) : Rule α := fun s p =>
  match r s p with
  | .fail false _ => r' s p
  | o => o

/-- Add a description to the fault of a failure. -/
def note (n : Note) (r : Rule α) : Rule α := fun s p =>
  match r s p with
  | .fail c e => .fail c { e with notes := e.notes ++ [n] }
  | o => o

/-- Name what `r` reads, for its faults. -/
def label (what : String) (r : Rule α) : Rule α := note (.label what) r

/-- Say what `r` would have accepted, for its faults. -/
def expect (what : String) (r : Rule α) : Rule α := note (.expected what) r

/-- Make every failure of `r` committed. -/
def commit (r : Rule α) : Rule α := fun s p =>
  match r s p with
  | .fail _ e => .fail true e
  | o => o

/-- Read with `r`, then check its value with `f`; a refusal fails tentatively at the start with
the refusal as cause. -/
def check (r : Rule α) (f : α → Except String β) : Rule β := fun s p =>
  match r s p with
  | .ok a q =>
    match f a with
    | .ok b => .ok b q
    | .error why => .fail false { pos := p, cause := some why }
  | .fail c e => .fail c e

/-- Read with `r` and answer the range it read as well. -/
def spanned (r : Rule α) : Rule (α × Nat × Nat) := fun s p =>
  match r s p with
  | .ok a q => .ok (a, p, q) q
  | .fail c e => .fail c e

/-- Read with `r` and answer only the range it read. -/
def range (r : Rule α) : Rule (Nat × Nat) := fun s p =>
  match r s p with
  | .ok _ q => .ok (p, q) q
  | .fail c e => .fail c e

/-- Read with `r` as often as it succeeds and reads something, at most `fuel` times. -/
def manyFuel (r : Rule α) : Nat → Rule (List α)
  | 0 => Rule.pure []
  | fuel + 1 => fun s p =>
    match r s p with
    | .ok a q =>
      if q ≤ p then .ok [a] q
      else match manyFuel r fuel s q with
        | .ok as q' => .ok (a :: as) q'
        | .fail c e => .fail c e
    | .fail true e => .fail true e
    | .fail false _ => .ok [] p

/-- Read with `r` as often as it succeeds. -/
def many (r : Rule α) : Rule (List α) := fun s p =>
  manyFuel r (s.size - p + 1) s p

/-- Read with `r` at least once, then as often as it succeeds. -/
def many1 (r : Rule α) : Rule (List α) := do
  let a ← r
  let as ← many r
  return a :: as

/-- Elements after the first, each preceded by a separator; a separator not followed by an
element is left unread. -/
def sepTailFuel (elem : Rule α) (sep : Rule Unit) : Nat → Rule (List α)
  | 0 => Rule.pure []
  | fuel + 1 => fun s p =>
    match sep s p with
    | .fail true e => .fail true e
    | .fail false _ => .ok [] p
    | .ok () q =>
      match elem s q with
      | .fail true e => .fail true e
      | .fail false _ => .ok [] p
      | .ok a q' =>
        if q' ≤ p then .ok [a] q'
        else match sepTailFuel elem sep fuel s q' with
          | .ok as q'' => .ok (a :: as) q''
          | .fail c e => .fail c e

/-- Elements after the first, each preceded by a separator. -/
def sepTail (elem : Rule α) (sep : Rule Unit) : Rule (List α) := fun s p =>
  sepTailFuel elem sep (s.size - p + 1) s p

/-- One or more elements divided by separators. -/
def sepBy1 (elem : Rule α) (sep : Rule Unit) : Rule (List α) := do
  let a ← elem
  let as ← sepTail elem sep
  return a :: as

/-- Zero or more elements divided by separators. -/
def sepBy (elem : Rule α) (sep : Rule Unit) : Rule (List α) := fun s p =>
  match sepBy1 elem sep s p with
  | .fail false _ => .ok [] p
  | o => o

end Rule

/-- The text of a byte range, read as UTF-8. -/
def slice (s : ByteArray) (start stop : Nat) : String :=
  (String.fromUTF8? (s.extract start stop)).getD ""

/-- The text of a byte range, reading nothing. -/
def textOf (a b : Nat) : Rule String := fun s p => .ok (slice s a b) p

/-- The text of the range a rule read. -/
def Rule.taken (r : Rule α) : Rule String := fun s p =>
  match r s p with
  | .ok _ q => .ok (slice s p q) q
  | .fail c e => .fail c e

end RadioFlash.Toml
