import RadioFlash.Journal
import RadioFlash.Text.Tone
/-!
# Notes as lines of text

A shown note is written as a bracketed header and its text: `[INFO ] text`. The header may start
with the time and may end with the note's origin: `[<time> DEBUG xbflash::device] text`. The
severity is padded to five characters. Every line after the first of a text is indented by four
blanks, and the note ends with a line break.

In colour, the brackets are grey and the severity has its own colour: bold red for errors,
yellow for warnings, green for information, blue for debugging and cyan for tracing.
-/

namespace RadioFlash.Journal

open Text

/-- How headers are written. -/
structure LineStyle where
  /-- The time text to show first, if any. -/
  time : Option String := none
  /-- Show the note's origin after the severity. -/
  origin : Bool := false
  /-- Colour the brackets and the severity. -/
  colour : Bool := false
deriving Inhabited, Repr

/-- A severity label padded to five characters. -/
def paddedLabel (l : Level) : String :=
  let s := l.label
  s ++ String.ofList (List.replicate (5 - s.length) ' ')

/-- The colour of a severity. -/
def levelTone : Level → Tone
  | .error => .boldRed
  | .warn => .yellow
  | .info => .green
  | .debug => .blue
  | .trace => .cyan

/-- The header of a note, with its brackets. -/
def header (style : LineStyle) (n : Note) : String :=
  let parts := (style.time.map (fun t => [Toned.plain t])).getD [] ++
    [Toned.paint (levelTone n.level) (paddedLabel n.level)] ++
    (if style.origin then [Toned.plain n.origin] else [])
  Toned.render style.colour
    (Toned.paint .grey "[" ++ Toned.joinWith " " parts ++ Toned.paint .grey "]")

/-- The full text of a note; without colour, cleared of escape sequences. -/
def line (style : LineStyle) (n : Note) : String :=
  let text := header style n ++ " " ++ n.text.replace "\n" "\n    " ++ "\n"
  if style.colour then text else stripEscapes text

end RadioFlash.Journal
