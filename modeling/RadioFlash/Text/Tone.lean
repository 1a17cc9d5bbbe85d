import RadioFlash.Text.Escapes
/-!
# Toned text

Text meant for a terminal is kept as stretches, each with the tone it is shown in. Rendering is
the one place where tones become escape codes: with colour, a toned stretch is wrapped in its
codes and a reset, even when it is empty; without colour, only the text is kept. So the text
without colour is the same whatever the tones.

A stream that shows no colour still receives the codes and drops them, with every other escape
sequence and control character in the text.
-/

namespace RadioFlash.Text

/-- How a stretch of text looks on a terminal that shows colour. -/
inductive Tone where
  | plain
  | bold
  | boldUnderlined
  | boldRed
  | red
  | green
  | yellow
  | blue
  | cyan
  | grey
deriving DecidableEq, Inhabited, Repr

namespace Tone

/-- The escape codes that switch a terminal to this tone: the effects first, then the colour. -/
def codes : Tone → String
  | .plain => ""
  | .bold => "\x1b[1m"
  | .boldUnderlined => "\x1b[1m\x1b[4m"
  | .boldRed => "\x1b[1m\x1b[31m"
  | .red => "\x1b[31m"
  | .green => "\x1b[32m"
  | .yellow => "\x1b[33m"
  | .blue => "\x1b[34m"
  | .cyan => "\x1b[36m"
  | .grey => "\x1b[90m"

/-- The escape code that returns a terminal to plain text. -/
def reset : String := "\x1b[0m"

end Tone

/-- A stretch of text in one tone. -/
structure Stretch where
  tone : Tone := .plain
  text : String
deriving Inhabited, Repr

/-- The text of a stretch, in its codes when colour is shown and the tone is not plain. -/
def Stretch.render (colour : Bool) (s : Stretch) : String :=
  if colour && s.tone != .plain then s.tone.codes ++ s.text ++ Tone.reset else s.text

/-- Text made of stretches, each in its own tone. -/
abbrev Toned := List Stretch

namespace Toned

/-- Plain text. -/
def plain (s : String) : Toned := [{ text := s }]

/-- Text in one tone. -/
def paint (tone : Tone) (s : String) : Toned := [{ tone, text := s }]

/-- Join toned texts with a plain separator. -/
def joinWith (sep : String) : List Toned → Toned
  | [] => []
  | [t] => t
  | t :: rest => t ++ plain sep ++ joinWith sep rest

/-- The text as written, with colour or without. -/
def render (colour : Bool) (t : Toned) : String :=
  String.join (t.map (Stretch.render colour))

/-- The text without colour. -/
def text (t : Toned) : String :=
  render false t

/-- The text as a terminal stream writes it: with colour, codes and all; without, the coloured
text cleared of escape sequences. -/
def write (colour : Bool) (t : Toned) : String :=
  if colour then render true t else stripEscapes (render true t)

end Toned

end RadioFlash.Text
