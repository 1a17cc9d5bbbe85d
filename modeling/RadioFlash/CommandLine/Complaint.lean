import RadioFlash.Text.Tone
/-!
# Usage complaints

A complaint about the command line is one sentence, then tips, then the usage line of the command
concerned, then a pointer to `--help`. Tips naming a similar subcommand, option or value come
first; the other tips follow. Every complaint ends the program with exit status 2.

In colour, `error:` is bold red, the word at fault yellow, a word to use instead green, a flag
named in passing bold, and the usage heading bold and underlined.
-/

namespace RadioFlash.CommandLine

open Text

/-- A complaint about the command line. -/
structure Complaint where
  /-- What is wrong, in one sentence. -/
  message : Toned
  /-- Subcommands spelled like the word given, least similar first. -/
  similarCommands : List String := []
  /-- An option spelled like the one given. -/
  similarOption : Option String := none
  /-- An accepted value spelled like the one given. -/
  similarValue : Option String := none
  /-- Further tips, in order. -/
  tips : List Toned := []
  /-- The usage line to show, if any. -/
  usage : Option Toned := none
deriving Inhabited, Repr

namespace Complaint

/-- Quote each word, in green, and join with commas. -/
def quotedList (ws : List String) : Toned :=
  Toned.joinWith ", " (ws.map fun w => Toned.plain "'" ++ Toned.paint .green w ++ Toned.plain "'")

/-- The tips naming similar words; the first is set off by a blank line. -/
def similarTips (c : Complaint) : List Toned :=
  (if c.similarCommands.isEmpty then []
   else if c.similarCommands.length = 1 then
     [Toned.plain "a similar subcommand exists: " ++ quotedList c.similarCommands]
   else [Toned.plain "some similar subcommands exist: " ++ quotedList c.similarCommands]) ++
  (match c.similarOption with
   | some o => [Toned.plain "a similar argument exists: " ++ quotedList [o]]
   | none => []) ++
  (match c.similarValue with
   | some v => [Toned.plain "a similar value exists: " ++ quotedList [v]]
   | none => [])

/-- The full text, as written to standard error, with colour or without. -/
def render (colour : Bool) (c : Complaint) : String :=
  let tips := c.similarTips ++ c.tips
  let tipText := if tips.isEmpty then [] else
    Toned.plain "\n" ++ (tips.map fun t => Toned.plain "\n  " ++ Toned.paint .green "tip:" ++
      Toned.plain " " ++ t).flatten
  let usageText := match c.usage with
    | some u => Toned.plain "\n\n" ++ Toned.paint .boldUnderlined "Usage:" ++ Toned.plain " " ++ u
    | none => []
  Toned.write colour (Toned.paint .boldRed "error:" ++ Toned.plain " " ++ c.message ++ tipText ++
    usageText ++ Toned.plain "\n\nFor more information, try '" ++ Toned.paint .bold "--help" ++
    Toned.plain "'.\n")

end Complaint

end RadioFlash.CommandLine
