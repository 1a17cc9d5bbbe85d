import RadioFlash.Journal.Pattern.Matcher
import RadioFlash.Journal.Pattern.CodeSet
/-!
# Putting the parts of a pattern together

Parts are put together in a normal form. Matching does not need it, but the automaton built
from a pattern is built from this form, so its size (see `Size`) is counted on it:

* a class of exactly one character is that character;
* a sequence opens up the sequences inside it, leaves out empty parts and joins characters
  written in a row into one run; a sequence of one part is that part, of none the empty pattern;
* an alternation opens up the alternations inside it; alternatives that are all single
  characters, or all classes, are one class; alternatives that are all sequences starting with
  the same parts are those parts followed by the alternation of what is left of each;
* a repetition of a part that matches only the empty string is made at most once; a repetition
  of zero times is the empty pattern, and of exactly one time the part itself.

Each rule keeps the texts a pattern matches. Two capturing groups are never the same part, as
each records a group of its own.
-/

namespace RadioFlash.Journal

/-- A class: one character when it holds exactly one, else the set. -/
def Pattern.ofSet (rs : List (Nat × Nat)) : Pattern :=
  match rs with
  | [(a, b)] => if a = b then .literal [a] else .oneOf rs
  | _ => .oneOf rs

/-- The parts a pattern adds to a sequence it stands in. -/
def Pattern.sequenceParts : Pattern → List Pattern
  | .concat ps => ps
  | .empty => []
  | p => [p]

/-- Neighbouring runs of characters joined into one. -/
def joinLiterals : List Pattern → List Pattern
  | .literal a :: .literal b :: rest => joinLiterals (.literal (a ++ b) :: rest)
  | p :: rest => p :: joinLiterals rest
  | [] => []
termination_by ps => ps.length

/-- Parts in sequence. -/
def Pattern.concatOf (ps : List Pattern) : Pattern :=
  match joinLiterals (ps.flatMap Pattern.sequenceParts) with
  | [] => .empty
  | [p] => p
  | qs => .concat qs

mutual

/-- The two patterns are the same part; capturing groups never are. -/
def Pattern.same : Pattern → Pattern → Bool
  | .empty, .empty => true
  | .literal a, .literal b => a == b
  | .oneOf a, .oneOf b => a == b
  | .look a, .look b => a == b
  | .rep p a b, .rep q c d => a == c && b == d && p.same q
  | .concat ps, .concat qs => Pattern.sameList ps qs
  | .alternation ps, .alternation qs => Pattern.sameList ps qs
  | _, _ => false

/-- The two lists hold the same parts in the same order. -/
def Pattern.sameList : List Pattern → List Pattern → Bool
  | [], [] => true
  | p :: ps, q :: qs => p.same q && Pattern.sameList ps qs
  | _, _ => false

end

/-- The longest run of parts both lists start with. -/
def commonStart : List Pattern → List Pattern → List Pattern
  | p :: ps, q :: qs => if p.same q then p :: commonStart ps qs else []
  | _, _ => []

mutual

/-- The number of parts of a pattern, counting itself. -/
def Pattern.weight : Pattern → Nat
  | .rep p _ _ | .capture p => p.weight + 1
  | .concat ps | .alternation ps => Pattern.totalWeight ps + 1
  | _ => 1

/-- The number of parts of the patterns of a list. -/
def Pattern.totalWeight : List Pattern → Nat
  | [] => 0
  | p :: ps => p.weight + Pattern.totalWeight ps

end

/-- The alternatives a pattern adds to an alternation it stands in. -/
def Pattern.alternativesOf : Pattern → List Pattern
  | .alternation ps => ps
  | p => [p]

/-- The character of a pattern that is one single character. -/
def Pattern.singleChar? : Pattern → Option Nat
  | .literal [c] => some c
  | _ => none

/-- The ranges of a pattern that is a class. -/
def Pattern.classRanges? : Pattern → Option (List (Nat × Nat))
  | .oneOf rs => some rs
  | _ => none

/-- The parts of a pattern that is a sequence. -/
def Pattern.sequence? : Pattern → Option (List Pattern)
  | .concat ps => some ps
  | _ => none

/-- Alternatives, with a common start taken out at most `fuel` times in a row. -/
def Pattern.alternationWithin : Nat → List Pattern → Pattern
  | fuel, ps =>
    let flat := ps.flatMap Pattern.alternativesOf
    let singles := flat.filterMap Pattern.singleChar?
    let classes := flat.filterMap Pattern.classRanges?
    let seqs := flat.filterMap Pattern.sequence?
    let common := (seqs.drop 1).foldl commonStart (seqs.headD [])
    match flat, fuel with
    | [], _ => .oneOf []
    | [p], _ => p
    | _, fuel =>
      if singles.length = flat.length then
        Pattern.ofSet (canonicalRanges (singles.map fun c => (c, c)))
      else if classes.length = flat.length then Pattern.ofSet (canonicalRanges classes.flatten)
      else if seqs.length = flat.length ∧ !common.isEmpty then
        match fuel with
        | 0 => .alternation flat
        | fuel + 1 =>
          let rests := seqs.map fun s => Pattern.concatOf (s.drop common.length)
          Pattern.concatOf (common ++ [Pattern.alternationWithin fuel rests])
      else .alternation flat

/-- Alternatives. A common start can be taken out fewer times in a row than there are parts,
since each time takes a part out of every alternative. -/
def Pattern.alternationOf (ps : List Pattern) : Pattern :=
  Pattern.alternationWithin (Pattern.totalWeight ps) ps

mutual

/-- Every match of the pattern is empty. -/
def Pattern.zeroWidth : Pattern → Bool
  | .empty | .look _ => true
  | .literal _ | .oneOf _ => false
  | .rep p _ _ | .capture p => p.zeroWidth
  | .concat ps | .alternation ps => Pattern.allZeroWidth ps

/-- Every match of every pattern of the list is empty. -/
def Pattern.allZeroWidth : List Pattern → Bool
  | [] => true
  | p :: ps => p.zeroWidth && Pattern.allZeroWidth ps

end

/-- A repetition of a part, from `least` times to `most` times, or without end. -/
def Pattern.repetitionOf (p : Pattern) (least : Nat) (most : Option Nat) : Pattern :=
  let counts := if p.zeroWidth then (min least 1, some (min (most.getD 1) 1)) else (least, most)
  if counts.1 = 0 ∧ counts.2 = some 0 then .empty
  else if counts.1 = 1 ∧ counts.2 = some 1 then p
  else .rep p counts.1 counts.2

end RadioFlash.Journal
