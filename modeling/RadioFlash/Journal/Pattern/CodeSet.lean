/-!
# Sets of code points

A class of characters is a set of code points kept as closed ranges in increasing order, no two
of them overlapping or touching. Classes are built by adding ranges and by union,
intersection, difference, symmetric difference and complement. The complement is taken within
a universe: the Unicode scalar values, where stepping up from `U+D7FF` or down from `U+E000`
steps over the surrogates, or the bytes.

Each set also carries a mark that it is closed under case folding. The mark is kept on the safe
side: the empty set and the whole universe have it, adding ranges drops it, an operation keeps
it only when both sides have it, and an operation that leaves a set as it was leaves the mark
too. Folding a set that lacks the mark is what a pattern asks for when letters match either
case; bytes fold within ASCII, and Unicode folding is not available, so it is refused.
-/

namespace RadioFlash.Journal

/-- Where the complement of a class is taken. -/
inductive Universe where
  | scalars
  | bytes
deriving DecidableEq, Inhabited, Repr

namespace Universe

/-- The greatest member. -/
def top : Universe → Nat
  | scalars => 0x10FFFF
  | bytes => 0xFF

/-- The next member up, stepping over the surrogates. -/
def up (u : Universe) (n : Nat) : Nat :=
  if u = scalars ∧ n = 0xD7FF then 0xE000 else n + 1

/-- The next member down, stepping over the surrogates. -/
def down (u : Universe) (n : Nat) : Nat :=
  if u = scalars ∧ n = 0xE000 then 0xD7FF else n - 1

end Universe

/-- A closed range with its ends in order. -/
def orderedRange (a b : Nat) : Nat × Nat := (min a b, max a b)

/-- Sorted ranges with overlapping or touching neighbours joined. -/
def joinRanges : List (Nat × Nat) → List (Nat × Nat)
  | [] => []
  | [r] => [r]
  | r :: s :: rest =>
    if s.1 ≤ r.2 + 1 then joinRanges ((r.1, max r.2 s.2) :: rest) else r :: joinRanges (s :: rest)
termination_by rs => rs.length

/-- Ranges in the canonical form: ends in order, sorted, none overlapping or touching. -/
def canonicalRanges (rs : List (Nat × Nat)) : List (Nat × Nat) :=
  joinRanges ((rs.map fun r => orderedRange r.1 r.2).mergeSort
    fun x y => x.1 < y.1 || (x.1 == y.1 && x.2 ≤ y.2))

/-- The common part of two ranges, if any. -/
def meetRange (a b : Nat × Nat) : Option (Nat × Nat) :=
  let lo := max a.1 b.1
  let hi := min a.2 b.2
  if lo ≤ hi then some (lo, hi) else none

/-- What is left of a range after taking another out: none, one or two ranges. -/
def cutRange (u : Universe) (b a : Nat × Nat) : List (Nat × Nat) :=
  if b.2 < a.1 ∨ a.2 < b.1 then [a]
  else
    (if a.1 < b.1 then [orderedRange a.1 (u.down b.1)] else []) ++
      (if b.2 < a.2 then [orderedRange (u.up b.2) a.2] else [])

/-- The ranges between canonical ranges, and before and after them, within a universe. -/
def gapRanges (u : Universe) : List (Nat × Nat) → List (Nat × Nat)
  | [] => [(0, u.top)]
  | r :: rest =>
    let before := if r.1 > 0 then [(0, u.down r.1)] else []
    let rec between : Nat × Nat → List (Nat × Nat) → List (Nat × Nat)
      | last, [] => if last.2 < u.top then [(u.up last.2, u.top)] else []
      | last, s :: more => orderedRange (u.up last.2) (u.down s.1) :: between s more
    before ++ between r rest

/-- A set of code points, with the mark that it is closed under case folding. -/
structure CodeSet where
  ranges : List (Nat × Nat) := []
  folded : Bool := true
deriving Inhabited, Repr

namespace CodeSet

/-- The set of some ranges; it is marked folded only when empty. -/
def ofRanges (rs : List (Nat × Nat)) : CodeSet :=
  { ranges := canonicalRanges rs, folded := rs.isEmpty }

/-- Add a range. -/
def push (s : CodeSet) (r : Nat × Nat) : CodeSet :=
  { ranges := canonicalRanges (s.ranges ++ [r]), folded := false }

/-- The union. -/
def union (s t : CodeSet) : CodeSet :=
  if t.ranges.isEmpty || s.ranges == t.ranges then s
  else { ranges := canonicalRanges (s.ranges ++ t.ranges), folded := s.folded && t.folded }

/-- The intersection. -/
def intersect (s t : CodeSet) : CodeSet :=
  if s.ranges.isEmpty then s
  else if t.ranges.isEmpty then {}
  else { ranges := s.ranges.flatMap (fun a => t.ranges.filterMap (meetRange a)),
         folded := s.folded && t.folded }

/-- The members of `s` that are not in `t`. -/
def difference (u : Universe) (s t : CodeSet) : CodeSet :=
  if s.ranges.isEmpty || t.ranges.isEmpty then s
  else { ranges := s.ranges.flatMap (fun a => t.ranges.foldl (fun ps b => ps.flatMap (cutRange u b)) [a]),
         folded := s.folded && t.folded }

/-- The members of exactly one of the two. -/
def symmetricDifference (u : Universe) (s t : CodeSet) : CodeSet :=
  (s.union t).difference u (s.intersect t)

/-- The complement within a universe. -/
def negate (u : Universe) (s : CodeSet) : CodeSet :=
  if s.ranges.isEmpty then { ranges := [(0, u.top)], folded := true }
  else { s with ranges := gapRanges u s.ranges }

/-- The ranges with the other case of their ASCII letters added. -/
def asciiCaseRanges (rs : List (Nat × Nat)) : List (Nat × Nat) :=
  rs ++ rs.flatMap fun r =>
    (match meetRange r (0x61, 0x7A) with
      | some m => [(m.1 - 32, m.2 - 32)]
      | none => []) ++
    (match meetRange r (0x41, 0x5A) with
      | some m => [(m.1 + 32, m.2 + 32)]
      | none => [])

/-- Close a byte class under ASCII case folding. -/
def foldAscii (s : CodeSet) : CodeSet :=
  if s.folded then s else { ranges := canonicalRanges (asciiCaseRanges s.ranges), folded := true }

/-- Close a class of scalar values under case folding, which is possible without Unicode's
case tables only when the set is marked folded already or is empty. -/
def foldScalars? (s : CodeSet) : Option CodeSet :=
  if s.folded then some s
  else if s.ranges.isEmpty then some { s with folded := true }
  else none

/-- Every member is ASCII. -/
def isAscii (s : CodeSet) : Bool :=
  s.ranges.all (·.2 ≤ 0x7F)

end CodeSet

end RadioFlash.Journal
