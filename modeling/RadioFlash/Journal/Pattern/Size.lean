import RadioFlash.Journal.Pattern.Compose
/-!
# How large a pattern's automaton grows

Before a pattern is used, an automaton is built from it twice: once to read forward, with
states that record where groups start and end, and once to read backward, without them. Each
build counts the memory its states take and gives up as soon as the count passes `sizeLimit`,
and a pattern that either build gives up on is refused.

The count is kept here the way the builder keeps it. A state takes 32 bytes; a branching state
takes 4 more for each alternative it gets, and a state that tests several byte ranges 8 more
for each range. A single character is one state for each byte of its UTF-8 form. A class within
ASCII is two states: the test, and the state after it. A class beyond ASCII becomes an automaton
over the UTF-8 forms of its characters: read forward, states with the same continuations are
one state; read backward, each distinct beginning of a byte sequence is one state. Sequences,
alternatives, groups and repetitions add the states that join their parts, and joining from a
branching state gives it one more alternative.

Alternatives that are all runs of characters are built as a tree of their bytes: runs that
start with the same bytes share the states for them. Each node of the tree is a branching state
over tests of the next byte, with a test for each group of bytes between two places where a run
ends. A run that ends where others go on splits the node's bytes into such groups, so that the
shorter run is preferred as it is when matching.

Counting is done on the normal form of `Compose`, which is the form the builder receives.
-/

namespace RadioFlash.Journal

/-- The memory limit of each build, in bytes. -/
def sizeLimit : Nat := 10485760

/-- The memory of a state. -/
def stateBytes : Nat := 32

/-- The memory a branching state takes for each alternative. -/
def branchBytes : Nat := 4

/-- The memory a state that tests several byte ranges takes for each range. -/
def rangeBytes : Nat := 8

/-- The number of bytes of the UTF-8 form of a code point. -/
def utf8Length (c : Nat) : Nat :=
  if c < 0x80 then 1 else if c < 0x800 then 2 else if c < 0x10000 then 3 else 4

/-- The UTF-8 form of a code point. -/
def utf8Form (c : Nat) : List Nat :=
  if c < 0x80 then [c]
  else if c < 0x800 then [0xC0 + c / 0x40, 0x80 + c % 0x40]
  else if c < 0x10000 then [0xE0 + c / 0x1000, 0x80 + c / 0x40 % 0x40, 0x80 + c % 0x40]
  else [0xF0 + c / 0x40000, 0x80 + c / 0x1000 % 0x40, 0x80 + c / 0x40 % 0x40, 0x80 + c % 0x40]

/-- What becomes of a range of code points on its way to byte sequences: it is split in two,
dropped when empty, or given as one sequence of byte ranges, one range for each byte. -/
inductive Utf8Step where
  | split (first second : Nat × Nat)
  | drop
  | done (seq : List (Nat × Nat))

/-- The step for one range. The surrogates are cut out, a range is cut where the length of the
UTF-8 form changes, and then where a byte after the first would not run over every
continuation byte that the bytes before it allow; what is left is one sequence of byte ranges. -/
def utf8Step (r : Nat × Nat) : Utf8Step :=
  let lo := r.1
  let hi := r.2
  if lo < 0xE000 ∧ 0xD7FF < hi then .split (lo, 0xD7FF) (0xE000, hi)
  else if hi < lo then .drop
  else match [0x7F, 0x7FF, 0xFFFF].find? (fun m => lo ≤ m ∧ m < hi) with
    | some m => .split (lo, m) (m + 1, hi)
    | none =>
      if hi ≤ 0x7F then .done [(lo, hi)]
      else
        let cut := fun (m : Nat) =>
          lo / (m + 1) ≠ hi / (m + 1) ∧ (lo % (m + 1) ≠ 0 ∨ hi % (m + 1) ≠ m)
        match [0x3F, 0xFFF, 0x3FFFF].find? cut with
        | some m =>
          if lo % (m + 1) ≠ 0 then
            let top := lo - lo % (m + 1) + m
            .split (lo, top) (top + 1, hi)
          else
            let base := hi - hi % (m + 1)
            .split (lo, base - 1) (base, hi)
        | none => .done ((utf8Form lo).zip (utf8Form hi))

/-- The byte sequences of the ranges on a stack, the top one first, within `fuel` steps. -/
def utf8SequencesOf : Nat → List (Nat × Nat) → List (List (Nat × Nat))
  | 0, _ => []
  | _, [] => []
  | fuel + 1, r :: rest =>
    match utf8Step r with
    | .split a b => utf8SequencesOf fuel (a :: b :: rest)
    | .drop => utf8SequencesOf fuel rest
    | .done s => s :: utf8SequencesOf fuel rest

/-- The UTF-8 byte sequences of a class, in order. One range takes fewer than a hundred steps:
at most four pieces of one UTF-8 length, each cut a few times for each continuation byte. -/
def utf8Sequences (rs : List (Nat × Nat)) : List (List (Nat × Nat)) :=
  rs.flatMap fun r => utf8SequencesOf 1024 [r]

/-- The memory of a class beyond ASCII read forward: the state after the class, and a state for
each distinct set of continuations after a proper beginning of a sequence, testing the distinct
first ranges of those continuations. -/
def forwardClassBytes (seqs : List (List (Nat × Nat))) : Nat :=
  let beginnings := (seqs.flatMap fun s => (List.range s.length).map s.take).eraseDups
  let rests := beginnings.map fun b =>
    seqs.filterMap fun s => if b.isPrefixOf s then some (s.drop b.length) else none
  let states := rests.eraseDups
  states.foldl (fun acc c =>
    acc + stateBytes + rangeBytes * (c.filterMap List.head?).eraseDups.length) stateBytes

/-- The memory of a class beyond ASCII read backward: a branching state with an alternative for
each sequence, the state after the class, and a state for each distinct beginning of a
sequence. -/
def backwardClassBytes (seqs : List (List (Nat × Nat))) : Nat :=
  let beginnings := (seqs.flatMap fun s => (List.range s.length).map fun n => s.take (n + 1)).eraseDups
  2 * stateBytes + stateBytes * beginnings.length + branchBytes * seqs.length

/-- The memory of one character from a set of two or more, or of none: two states and a range
each for a class within ASCII, and the UTF-8 automaton for a class beyond it. -/
def classBytes (forward : Bool) (rs : List (Nat × Nat)) : Nat :=
  if rs.all (fun r => r.2 ≤ 0x7F) then 2 * stateBytes + rangeBytes * rs.length
  else if forward then forwardClassBytes (utf8Sequences rs)
  else backwardClassBytes (utf8Sequences rs)

/-- The sum of a list of numbers. -/
def total (ns : List Nat) : Nat := ns.foldl (· + ·) 0

/-- One group of byte tests at a node of a tree of runs: each byte in order of arrival, with
what is left of the runs that go on through it. -/
abbrev ByteGroup := List (Nat × List (List Nat))

/-- Send what is left of a run through the byte `b` of a group. -/
def ByteGroup.add (g : ByteGroup) (b : Nat) (rest : List Nat) : ByteGroup :=
  if g.any (fun e => e.1 == b) then g.map fun e => if e.1 == b then (e.1, e.2 ++ [rest]) else e
  else g ++ [(b, [rest])]

/-- The groups of byte tests at a node, given what is left of the runs that reach it, in
order. A run that ends at a node closes the group being filled, unless the node has no tests at
all and has been an end already. -/
def byteGroups (rests : List (List Nat)) : List ByteGroup :=
  let step := fun (acc : List ByteGroup × ByteGroup × Bool) (r : List Nat) =>
    match r with
    | [] => if !acc.2.2 && !acc.1.isEmpty then acc else (acc.2.1 :: acc.1, [], acc.2.2)
    | b :: more => (acc.1, acc.2.1.add b more, true)
  let last := rests.foldl step ([], [], false)
  (last.2.1 :: last.1).reverse

/-- The memory of a node of a tree of runs and of the nodes below it, within `fuel` levels: a
node without tests is the common end and takes nothing; any other node is a branching state
with an alternative for each group that has tests and one for each end between groups, a test
state for each group that has tests, and the nodes below it. -/
def runNodeBytes : Nat → List (List Nat) → Nat
  | 0, _ => 0
  | fuel + 1, rests =>
    let groups := byteGroups rests
    let tested := groups.filter fun g => !g.isEmpty
    if tested.isEmpty then 0
    else
      let branching := stateBytes + branchBytes * (groups.length - 1 + tested.length)
      let tests := total (tested.map fun g =>
        if g.length = 1 then stateBytes else stateBytes + rangeBytes * g.length)
      let below := total (groups.flatten.map fun e => runNodeBytes fuel e.2)
      branching + tests + below

/-- The memory of alternatives that are all runs, given as their bytes in the order they are
read: the common end and the tree. -/
def runTreeBytes (runs : List (List Nat)) : Nat :=
  stateBytes + runNodeBytes (runs.foldl (fun n r => max n r.length) 0 + 1) runs

/-- The memory a part takes in one build, and whether it ends in a branching state. -/
structure PartCost where
  bytes : Nat
  endsBranching : Bool
deriving Inhabited, Repr

/-- The memory added by joining the end of a part to what follows it. -/
def PartCost.joinBytes (c : PartCost) : Nat :=
  if c.endsBranching then branchBytes else 0

/-- A part that matches only the empty string: the state that passes on. -/
def PartCost.passing : PartCost := ⟨stateBytes, false⟩

/-- A part made `n` times in a row. -/
def PartCost.times (s : PartCost) (n : Nat) : PartCost :=
  if n = 0 then PartCost.passing
  else ⟨n * s.bytes + (n - 1) * s.joinBytes, s.endsBranching⟩

/-- A repetition of a part, by its least and greatest count; `nonEmpty` says that every match
of the part is at least one byte long. -/
def PartCost.repeated (s : PartCost) (nonEmpty : Bool) : Nat → Option Nat → PartCost
  | 0, some 0 => PartCost.passing
  | 1, some 1 => s
  | 0, some 1 => ⟨s.bytes + 2 * stateBytes + 2 * branchBytes + s.joinBytes, false⟩
  | 0, none =>
    if nonEmpty then ⟨s.bytes + stateBytes + branchBytes + s.joinBytes, true⟩
    else ⟨s.bytes + 3 * stateBytes + 4 * branchBytes + s.joinBytes, false⟩
  | 1, none => ⟨s.bytes + stateBytes + branchBytes + s.joinBytes, true⟩
  | n, none => ⟨n * s.bytes + n * s.joinBytes + stateBytes + branchBytes, true⟩
  | n, some m =>
    if n = m then s.times n
    else
      let first := s.times n
      ⟨first.bytes + first.joinBytes + stateBytes +
        (m - n) * (stateBytes + s.bytes + 2 * branchBytes + s.joinBytes), false⟩

/-- The bytes of a run of characters. -/
def runBytes (cs : List Nat) : List Nat := cs.flatMap utf8Form

mutual

/-- The length in bytes of the shortest match, unknown for a part that matches nothing. -/
def Pattern.shortest : Pattern → Option Nat
  | .empty | .look _ => some 0
  | .literal cs => some (runBytes cs).length
  | .oneOf [] => none
  | .oneOf (r :: _) => some (utf8Length r.1)
  | .rep p least _ => p.shortest.map (· * least)
  | .capture p => p.shortest
  | .concat ps => Pattern.shortestSum ps
  | .alternation ps => Pattern.shortestMin ps

/-- The length of the shortest match of parts in sequence. -/
def Pattern.shortestSum : List Pattern → Option Nat
  | [] => some 0
  | p :: ps => do pure ((← p.shortest) + (← Pattern.shortestSum ps))

/-- The length of the shortest match of one of some alternatives. -/
def Pattern.shortestMin : List Pattern → Option Nat
  | [] => none
  | [p] => p.shortest
  | p :: ps => do pure (min (← p.shortest) (← Pattern.shortestMin ps))

end

mutual

/-- Every match starts at the start of the text. -/
def Pattern.anchoredStart : Pattern → Bool
  | .look .textStart => true
  | .rep p least _ => 0 < least && p.anchoredStart
  | .capture p => p.anchoredStart
  | .concat ps => Pattern.startAnchoredSequence ps
  | .alternation ps => Pattern.allAnchoredStart ps
  | _ => false

/-- Parts in sequence start every match at the start of the text: one of them does, after
parts that match only the empty string. -/
def Pattern.startAnchoredSequence : List Pattern → Bool
  | [] => false
  | p :: ps => p.anchoredStart || (p.zeroWidth && Pattern.startAnchoredSequence ps)

/-- Every alternative starts every match at the start of the text. -/
def Pattern.allAnchoredStart : List Pattern → Bool
  | [] => true
  | p :: ps => p.anchoredStart && Pattern.allAnchoredStart ps

end

mutual

/-- Every match ends at the end of the text. -/
def Pattern.anchoredEnd : Pattern → Bool
  | .look .textEnd => true
  | .rep p least _ => 0 < least && p.anchoredEnd
  | .capture p => p.anchoredEnd
  | .concat ps => Pattern.endAnchoredSequence ps
  | .alternation ps => Pattern.allAnchoredEnd ps
  | _ => false

/-- Parts in sequence end every match at the end of the text: one of them does, before parts
that match only the empty string. -/
def Pattern.endAnchoredSequence : List Pattern → Bool
  | [] => false
  | p :: ps => Pattern.endAnchoredSequence ps || (Pattern.allZeroWidth ps && p.anchoredEnd)

/-- Every alternative ends every match at the end of the text. -/
def Pattern.allAnchoredEnd : List Pattern → Bool
  | [] => true
  | p :: ps => p.anchoredEnd && Pattern.allAnchoredEnd ps

end

/-- The runs of alternatives that are all runs of characters, as bytes in the order a build
reads them. -/
def runsOf (forward : Bool) (ps : List Pattern) : Option (List (List Nat)) :=
  ps.mapM fun p => match p with
    | .literal cs => some (if forward then runBytes cs else (runBytes cs).reverse)
    | _ => none

mutual

/-- The memory of a part in the forward build, or in the backward one, where the parts of a
sequence are built last to first. -/
def Pattern.cost (forward : Bool) : Pattern → PartCost
  | .empty => PartCost.passing
  | .literal cs => ⟨stateBytes * (runBytes cs).length, false⟩
  | .oneOf rs => ⟨classBytes forward rs, false⟩
  | .look _ => PartCost.passing
  | .rep p least most =>
    let nonEmpty := match p.shortest with
      | some n => 0 < n
      | none => false
    (p.cost forward).repeated nonEmpty least most
  | .capture p =>
    let s := p.cost forward
    if forward then ⟨s.bytes + 2 * stateBytes + s.joinBytes, false⟩ else s
  | .concat ps => Pattern.sequenceCost forward ps
  | .alternation ps =>
    match runsOf forward ps with
    | some runs => ⟨runTreeBytes runs, false⟩
    | none => ⟨2 * stateBytes + Pattern.branchCost forward ps, false⟩

/-- The memory of parts in sequence: the parts, and a join from the end of each to the next,
which in the backward build is the one before it. -/
def Pattern.sequenceCost (forward : Bool) : List Pattern → PartCost
  | [] => PartCost.passing
  | [p] => p.cost forward
  | p :: ps =>
    let c := p.cost forward
    let rest := Pattern.sequenceCost forward ps
    if forward then ⟨c.bytes + c.joinBytes + rest.bytes, rest.endsBranching⟩
    else ⟨c.bytes + rest.bytes + rest.joinBytes, c.endsBranching⟩

/-- The memory of alternatives: each alternative, its place in the branching state, and its
join to the common end. -/
def Pattern.branchCost (forward : Bool) : List Pattern → Nat
  | [] => 0
  | p :: ps =>
    let c := p.cost forward
    c.bytes + branchBytes + c.joinBytes + Pattern.branchCost forward ps

end
/-- The memory of the lazy loop over any byte that lets a match start anywhere: a branching
state, a byte test with the state after it, and the joins. -/
def searchLoopBytes : Nat := 3 * stateBytes + rangeBytes + 2 * branchBytes

/-- The memory of the forward build of a whole pattern: the loop over bytes before a match
unless every match starts at the start of the text, the group around the whole pattern, and
the state that reports a match. -/
def Pattern.forwardBytes (p : Pattern) : Nat :=
  let body := p.cost true
  (if p.anchoredStart then stateBytes else searchLoopBytes) + 2 * stateBytes + body.bytes +
    body.joinBytes + stateBytes

/-- The memory of the backward build of a whole pattern, which keeps no groups. -/
def Pattern.backwardBytes (p : Pattern) : Nat :=
  let body := p.cost false
  (if p.anchoredEnd then stateBytes else searchLoopBytes) + body.bytes + body.joinBytes +
    stateBytes

end RadioFlash.Journal
