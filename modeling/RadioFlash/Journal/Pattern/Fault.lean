import RadioFlash.Journal.Pattern.Tree
/-!
# How a refused pattern is shown

The message shows the pattern with carets under the stretches at fault, then the flaw. A
pattern of one line is indented by four spaces. A pattern of several lines is set between two
rules of tildes with its lines numbered, and a stretch that runs over more than one line is
named by its lines and columns below the second rule instead of being marked.

Lines and columns count from one; columns count characters. A line break of CR LF is shown
without its CR, and a pattern that ends in a line feed has an empty last line that is counted
but not shown.
-/

namespace RadioFlash.Journal

/-- Line and column, both from one, of the place before character `i`. -/
def lineColumn (cs : List Char) (i : Nat) : Nat × Nat :=
  let before := cs.take i
  (1 + before.count '\n', (before.reverse.takeWhile (· ≠ '\n')).length + 1)

/-- The lines of a pattern: a line feed ends a line, and a CR before it is dropped. -/
def patternLines (s : String) : List String :=
  let parts := s.splitOn "\n"
  let ended := parts.dropLast.map fun l => if l.endsWith "\r" then String.ofList l.toList.dropLast else l
  match parts.getLast? with
  | some "" | none => ended
  | some last => ended ++ [last]

/-- Stretches in order of where they start, then where they stop. -/
def sortExtents (es : List Extent) : List Extent :=
  es.mergeSort fun a b => a.start < b.start || (a.start == b.start && a.stop ≤ b.stop)

/-- The caret line under one line of the pattern: after `indent` spaces, carets under each
stretch, at least one for an empty stretch. -/
def caretLine (cs : List Char) (indent : Nat) (es : List Extent) : String :=
  let step := fun (acc : String × Nat) (e : Extent) =>
    let startCol := (lineColumn cs e.start).2
    let stopCol := (lineColumn cs e.stop).2
    let gap := (startCol - 1) - acc.2
    let width := max 1 (stopCol - startCol)
    (acc.1 ++ String.ofList (List.replicate gap ' ') ++ String.ofList (List.replicate width '^'),
      max acc.2 (startCol - 1) + width)
  String.ofList (List.replicate indent ' ') ++ (es.foldl step ("", 0)).1

/-- The text of a refusal of `pattern`. -/
def PatternFault.render (pattern : String) : PatternFault → String
  | .wordsUnavailable => "error building NFA"
  | .tooBig limit => "Compiled regex exceeds size limit of " ++ toString limit ++ " bytes."
  | .rejected flaw place other =>
    let cs := pattern.toList
    let lineOf := fun (i : Nat) => (lineColumn cs i).1
    let spans := sortExtents (place :: other.toList)
    let oneLine := spans.filter fun e => lineOf e.start = lineOf e.stop
    let manyLines := spans.filter fun e => lineOf e.start ≠ lineOf e.stop
    let lines := patternLines pattern
    let count := lines.length + (if pattern.endsWith "\n" then 1 else 0)
    let width := if count ≤ 1 then 0 else (toString count).length
    let indent := if width = 0 then 4 else 2 + width
    let shown := lines.zipIdx.map fun (l, i) =>
      let number := toString (i + 1)
      let lead := if width = 0 then "    "
        else String.ofList (List.replicate (width - number.length) ' ') ++ number ++ ": "
      let under := oneLine.filter fun e => lineOf e.start = i + 1
      lead ++ l ++ "\n" ++ (if under.isEmpty then "" else caretLine cs indent under ++ "\n")
    let notated := String.join shown
    let message := "error: " ++ flaw.message
    if cs.contains '\n' then
      let rule := String.ofList (List.replicate 79 '~')
      let spanNotes := manyLines.map fun e =>
        let (sl, sc) := lineColumn cs e.start
        let (el, ec) := lineColumn cs e.stop
        "on line " ++ toString sl ++ " (column " ++ toString sc ++ ") through line " ++
          toString el ++ " (column " ++ toString (ec - 1) ++ ")"
      "regex parse error:\n" ++ rule ++ "\n" ++ notated ++ rule ++ "\n" ++
        (if spanNotes.isEmpty then "" else "\n".intercalate spanNotes ++ "\n") ++ message
    else "regex parse error:\n" ++ notated ++ message

end RadioFlash.Journal
