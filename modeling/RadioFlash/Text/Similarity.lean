/-!
# Similar words

The Jaro similarity of two words: characters match when they are equal and at most half the
longer length (less one) apart, each character matching once, left to right; a transposition is a
pair of matched characters out of order. With `m` matches and `t` transpositions (half the
out-of-order matched places) the similarity is `(m/|a| + m/|b| + (m-t)/m) / 3`, or `0` without a
match.

The score is computed in double precision, each division and sum rounded, and the rounding
decides borderline cases: one matching letter of a one-letter word against a ten-letter word
scores `(1 + 1/10 + 1) / 3`, exactly `7/10` as a fraction but just above the double nearest `0.7`.
A word is suggested for a misspelling when its score is above that double; candidates come from
least to most similar, ties in the order given.
-/

namespace RadioFlash.Text

/-- The least score that suggests nothing: the double nearest `0.7`. -/
def suggestionFloor : Float := 0.7

/-- For each character of `a`, in order, take the first unused equal character of `b` within
`range` places; answer which places of `a` and of `b` matched. -/
def matchPlaces (a b : Array Char) (range : Nat) : Array Bool × Array Bool := Id.run do
  let mut fa := Array.replicate a.size false
  let mut fb := Array.replicate b.size false
  for i in [0:a.size] do
    let lo := i - range
    let hi := min b.size (i + range + 1)
    let mut found := false
    for j in [lo:hi] do
      if !found && a[i]! = b[j]! && !fb[j]! then
        fa := fa.set! i true
        fb := fb.set! j true
        found := true
  return (fa, fb)

/-- The Jaro similarity of two words, in double precision. -/
def jaro (x y : String) : Float :=
  let a := x.toList.toArray
  let b := y.toList.toArray
  if a.size = 0 ∧ b.size = 0 then 1
  else if a.size = 0 ∨ b.size = 0 then 0
  else
    let range := max a.size b.size / 2 - 1
    let (fa, fb) := matchPlaces a b range
    let ma := (List.range a.size).filter (fun i => fa[i]!) |>.map (fun i => a[i]!)
    let mb := (List.range b.size).filter (fun j => fb[j]!) |>.map (fun j => b[j]!)
    let m := ma.length
    let t := ((ma.zip mb).filter (fun p => p.1 ≠ p.2)).length / 2
    if m = 0 then 0
    else (m.toFloat / a.size.toFloat + m.toFloat / b.size.toFloat +
      (m - t).toFloat / m.toFloat) / 3

/-- Insert into a list kept in ascending order, after equal scores. -/
def insertByScore (p : Float × String) : List (Float × String) → List (Float × String)
  | [] => [p]
  | q :: rest => if p.1 < q.1 then p :: q :: rest else q :: insertByScore p rest

/-- The candidates similar to `word`, least similar first. -/
def similarTo (word : String) (candidates : List String) : List String :=
  let scored := candidates.map (fun c => (jaro word c, c)) |>.filter (·.1 > suggestionFloor)
  (scored.foldl (fun acc p => insertByScore p acc) []).map (·.2)

/-- The candidate most similar to `word`, if any is similar enough. -/
def mostSimilar? (word : String) (candidates : List String) : Option String :=
  (similarTo word candidates).getLast?

end RadioFlash.Text
