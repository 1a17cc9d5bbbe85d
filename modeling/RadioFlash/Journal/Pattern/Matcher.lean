import RadioFlash.Text.Unprintable
/-!
# Matching message patterns

A pattern, once given its meaning, is a regular expression over characters: one character from
a set, an assertion about the place between two characters, sequences, alternatives and
repetitions. A note's text is shown when some part of it matches.

Assertions look at the neighbours of a place: the ends of the text, the ends of lines (after or
before a line feed, or a carriage return when lines end in CR LF), and the edges of words,
where a word character is an ASCII letter or digit or the underscore.

Matching computes, for a start position, every position where a match from there can end: a
sequence chains these sets, an alternation joins them, and a repetition iterates its body until
no new position appears, which takes at most one round per position of the text.
-/

namespace RadioFlash.Journal

/-- An assertion about a place in the text. The word assertions marked `unicode` take Unicode's
idea of a word, which is not available; patterns that need them are refused before matching. -/
inductive Look where
  | textStart
  | textEnd
  | lineStart (crlf : Bool)
  | lineEnd (crlf : Bool)
  | boundary (unicode negated : Bool)
  | wordStart (unicode : Bool)
  | wordEnd (unicode : Bool)
  | wordStartHalf (unicode : Bool)
  | wordEndHalf (unicode : Bool)
deriving DecidableEq, Inhabited, Repr

/-- A pattern with its meaning settled, in the form its parts are put together in (see
`Pattern.concatOf` and its kin): characters written in a row are one `literal`, a class of one
character is a `literal`, sequences and alternations list their parts. -/
inductive Pattern where
  | empty
  /-- Characters in a row, by code point. -/
  | literal (chars : List Nat)
  /-- One character from a set of two or more, or from none, given as closed ranges of code
  points in increasing order. -/
  | oneOf (ranges : List (Nat × Nat))
  | look (l : Look)
  | rep (p : Pattern) (least : Nat) (most : Option Nat)
  /-- A capturing group: it matches what its body matches, and the automaton that runs it keeps
  where the group started and ended. -/
  | capture (p : Pattern)
  | concat (parts : List Pattern)
  | alternation (branches : List Pattern)
deriving Inhabited, Repr

/-- The assertion takes Unicode's idea of a word. -/
def Look.unicodeWords : Look → Bool
  | boundary u _ | wordStart u | wordEnd u | wordStartHalf u | wordEndHalf u => u
  | _ => false

mutual

/-- Some assertion of the pattern takes Unicode's idea of a word. -/
def Pattern.needsUnicodeWords : Pattern → Bool
  | .look l => l.unicodeWords
  | .rep p _ _ | .capture p => p.needsUnicodeWords
  | .concat ps | .alternation ps => Pattern.anyNeedsUnicodeWords ps
  | _ => false

/-- Some pattern of the list needs Unicode's idea of a word. -/
def Pattern.anyNeedsUnicodeWords : List Pattern → Bool
  | [] => false
  | p :: ps => p.needsUnicodeWords || Pattern.anyNeedsUnicodeWords ps

end

/-- A word character: an ASCII letter or digit, or the underscore. -/
def isWordChar (c : Char) : Bool :=
  c.isAlphanum || c == '_'

/-- The assertion holds at position `i` of the text. -/
def Look.holds (t : Array Char) (i : Nat) : Look → Bool
  | textStart => i = 0
  | textEnd => i = t.size
  | lineStart false => i = 0 || t[i - 1]? == some '\n'
  | lineStart true =>
    i = 0 || t[i - 1]? == some '\n' || (t[i - 1]? == some '\r' && t[i]? != some '\n')
  | lineEnd false => i = t.size || t[i]? == some '\n'
  | lineEnd true =>
    i = t.size || t[i]? == some '\r' || (t[i]? == some '\n' && (i = 0 || t[i - 1]? != some '\r'))
  | boundary _ negated => (wordBefore != wordAfter) != negated
  | wordStart _ => !wordBefore && wordAfter
  | wordEnd _ => wordBefore && !wordAfter
  | wordStartHalf _ => !wordBefore
  | wordEndHalf _ => !wordAfter
where
  wordBefore : Bool := i > 0 && (t[i - 1]?.map isWordChar).getD false
  wordAfter : Bool := (t[i]?.map isWordChar).getD false

/-- The positions reached from any of `starts` by one more match of a part. -/
def stepAll (step : Nat → List Nat) (starts : List Nat) : List Nat :=
  (starts.flatMap step).eraseDups

/-- The positions reached by exactly `k` more matches; once nothing changes, more rounds change
nothing either. -/
def stepTimes (step : Nat → List Nat) : Nat → List Nat → List Nat
  | 0, s => s
  | k + 1, s =>
    let s' := stepAll step s
    if s' = s then s else stepTimes step k s'

/-- The positions reached by at most `k` more matches; stops early once nothing new appears. -/
def stepUpTo (step : Nat → List Nat) : Nat → List Nat → List Nat
  | 0, s => s
  | k + 1, s =>
    let s' := (s ++ stepAll step s).eraseDups
    if s'.length = s.length then s else stepUpTo step k s'

/-- The characters `cs` stand in the text from position `i` on. -/
def literalAt (t : Array Char) (i : Nat) (cs : List Nat) : Bool :=
  cs.zipIdx.all fun (c, k) => (t[i + k]?.map Char.toNat) == some c

mutual

/-- Every position where a match of the pattern starting at `i` can end. -/
def Pattern.ends (t : Array Char) : Pattern → Nat → List Nat
  | .empty, i => [i]
  | .literal cs, i => if literalAt t i cs then [i + cs.length] else []
  | .oneOf rs, i =>
    match t[i]? with
    | some d => if Text.inRanges d.toNat rs then [i + 1] else []
    | none => []
  | .look l, i => if l.holds t i then [i] else []
  | .rep p least most, i =>
    let step := fun j => Pattern.ends t p j
    let base := stepTimes step least [i]
    match most with
    | some m => stepUpTo step (m - least) base
    | none => stepUpTo step (t.size + 1) base
  | .capture p, i => Pattern.ends t p i
  | .concat ps, i => Pattern.endsAfter t ps [i]
  | .alternation ps, i => Pattern.endsOfAny t ps i

/-- Every position where the parts, matched one after another from any of `starts`, can end. -/
def Pattern.endsAfter (t : Array Char) : List Pattern → List Nat → List Nat
  | [], starts => starts
  | p :: ps, starts => Pattern.endsAfter t ps (stepAll (fun j => Pattern.ends t p j) starts)

/-- Every position where one of the alternatives, matched from `i`, can end. -/
def Pattern.endsOfAny (t : Array Char) : List Pattern → Nat → List Nat
  | [], _ => []
  | p :: ps, i => (Pattern.ends t p i ++ Pattern.endsOfAny t ps i).eraseDups

end

/-- Some part of the text matches the pattern. -/
def Pattern.found (p : Pattern) (text : String) : Bool :=
  let t := text.toList.toArray
  (List.range (t.size + 1)).any fun i => !(p.ends t i).isEmpty

end RadioFlash.Journal
