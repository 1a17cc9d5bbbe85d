import RadioFlash.CommandLine.Grammar
import RadioFlash.Text.Tone
/-!
# Usage lines and help pages

A help page is the command's one-line description, its usage line, then its subcommands, operands
and options in sections, each entry with its help text in a column. The short page puts the help
beside the flags, aligned after the widest entry of its section; the long page, offered only where
some value has a description of its own, puts each help under its flags and lists the described
values. Texts are not wrapped.

After an option's help come its notes: the environment variable with its current value, and, on
the short page, the accepted values. Options are listed by their place in the grammar, then by
flag.

In colour, headings are bold and underlined, and the command's name, flags, subcommands and
described values are bold; placeholders and help texts stay plain.
-/

namespace RadioFlash.CommandLine

open Text

/-- Blanks. -/
def blanks (n : Nat) : String :=
  String.ofList (List.replicate n ' ')

namespace Opt

/-- The option as usage lines and help entries write it: the long flag in bold, then the
placeholder. Without colour this is `display`. -/
def toned (o : Opt) : Toned :=
  let name := Toned.paint .bold ("--" ++ o.long)
  match o.arity with
  | .value p _ _ => name ++ Toned.plain (" <" ++ p ++ ">")
  | .counted => name ++ Toned.plain "..."
  | _ => name

/-- The flags as help pages list them, the short flag in bold too. Without colour this is
`flagsText`. -/
def flagsToned (o : Opt) : Toned :=
  let lead := match o.short with
    | some c => Toned.paint .bold ("-" ++ c.toString) ++ Toned.plain ", "
    | none => Toned.plain "    "
  lead ++ o.toned

end Opt

namespace Level

/-- The usage line on a help page: the words, `[OPTIONS]` when there are options besides help and
version, the operands, and `<COMMAND>` when a subcommand must follow. -/
def usage (l : Level) : Toned :=
  if l.namesCommands then Toned.paint .bold l.binName ++ Toned.plain " [COMMAND]..."
  else
    let opts := if l.opts.any (fun o => !o.isBuiltIn) then " [OPTIONS]" else ""
    let ops := String.join (l.operands.map (fun a => " " ++ a.display))
    let sub := if l.subcommands.isEmpty then "" else " <COMMAND>"
    Toned.paint .bold l.binName ++ Toned.plain (opts ++ ops ++ sub)

/-- The usage line of a message about what was given: the options used, each once, then the
operands, then `<COMMAND>` when a subcommand must follow. Nothing used gives the page's line. -/
def usageWith (l : Level) (used : List String) : Toned :=
  if used.isEmpty then l.usage
  else
    let shown := used.filterMap (fun k => l.opts.find? (·.key = k))
    let opts := shown.foldl (fun acc o => if acc.any (·.key = o.key) then acc else acc ++ [o]) []
    let parts := opts.map Opt.toned ++ l.operands.map (fun a => Toned.plain a.display)
    let sub := if l.subcommands.isEmpty then "" else " <COMMAND>"
    Toned.paint .bold l.binName ++ (parts.map (Toned.plain " " ++ ·)).flatten ++ Toned.plain sub

end Level

/-- The accepted values as messages list them. -/
def choiceList (cs : List Choice) : String :=
  ", ".intercalate (cs.map (·.name))

/-- An option's notes: its environment variable with the current value, then, unless the long
page describes them, its accepted values. -/
def notes (o : Opt) (env : String → Option String) (long : Bool) : List String :=
  let envNote := match o.env with
    | some name => ["[env: " ++ name ++ "=" ++ (env name).getD "" ++ "]"]
    | none => []
  let cs := o.choices
  let valueNote :=
    if cs.isEmpty || (long && describesChoices cs) then []
    else ["[possible values: " ++ choiceList cs ++ "]"]
  envNote ++ valueNote

/-- An operand's notes: its accepted values. -/
def operandNotes (a : Operand) (long : Bool) : List String :=
  if a.choices.isEmpty || (long && describesChoices a.choices) then []
  else ["[possible values: " ++ choiceList a.choices ++ "]"]

/-- Put `indent` after every line break, so that continuation lines line up. -/
def indentAfterBreaks (indent : String) (text : String) : String :=
  text.replace "\n" ("\n" ++ indent)

/-- A help text beside its flags, followed by its notes. -/
def besideText (about : String) (ns : List String) : String :=
  if ns.isEmpty then about else about ++ " " ++ " ".intercalate ns

/-- The indentation of help texts on the long page. -/
def underIndent : Nat := 10

/-- The list of described values on the long page, each name in bold. -/
def choiceBlock (cs : List Choice) : Toned :=
  let width := (cs.map (·.name.length)).foldl max 0
  let line := fun (c : Choice) =>
    let descr := match c.help with
      | some h => ": " ++ blanks (width - c.name.length) ++ h
      | none => ""
    Toned.plain ("\n" ++ blanks underIndent ++ "- ") ++ Toned.paint .bold c.name ++
      Toned.plain (indentAfterBreaks (blanks (underIndent + 2)) descr)
  Toned.plain ("\n\n" ++ blanks underIndent ++ "Possible values:") ++ (cs.map line).flatten

/-- A help text under its flags: the text, the described values, then the notes a paragraph
below. -/
def underText (about : String) (cs : List Choice) (ns : List String) : Toned :=
  let pad := blanks underIndent
  let head := indentAfterBreaks pad about
  let block := if describesChoices cs then choiceBlock cs else []
  let tail :=
    if ns.isEmpty then ""
    else indentAfterBreaks pad ("\n\n" ++ "\n".intercalate ns)
  Toned.plain ("\n" ++ pad ++ head) ++ block ++ Toned.plain tail

/-- Sort options for listing, stably. -/
def sortOpts (opts : List Opt) : List Opt :=
  let before := fun (a b : Opt) =>
    let ka := a.sortKey
    let kb := b.sortKey
    ka.1 < kb.1 ∨ (ka.1 = kb.1 ∧ ka.2 ≤ kb.2)
  opts.mergeSort (fun a b => decide (before a b))

/-- A section: its heading, bold and underlined, then its entries. -/
def helpSection (heading : String) (sep : String) (entries : List Toned) : Toned :=
  Toned.paint .boldUnderlined (heading ++ ":") ++ Toned.plain "\n" ++ Toned.joinWith sep entries

/-- The section of options. -/
def optionSection (opts : List Opt) (env : String → Option String) (long : Bool) : Toned :=
  let sorted := sortOpts opts
  let width := (sorted.map (·.flagsText.length)).foldl max 2
  let entry := fun (o : Opt) =>
    if long then
      Toned.plain "  " ++ o.flagsToned ++
        underText (o.longHelp.getD o.help) o.choices (notes o env true)
    else
      Toned.plain "  " ++ o.flagsToned ++ Toned.plain (blanks (width + 2 - o.flagsText.length) ++
        indentAfterBreaks (blanks (width + 4)) (besideText o.help (notes o env false)))
  helpSection "Options" (if long then "\n\n" else "\n") (sorted.map entry)

/-- The section of operands. -/
def operandSection (l : Level) (long : Bool) : Toned :=
  let shown := fun (a : Operand) => if l.namesCommands then "[" ++ a.placeholder ++ "]..." else a.display
  let width := (l.operands.map (fun a => (shown a).length)).foldl max 2
  let entry := fun (a : Operand) =>
    if long then Toned.plain ("  " ++ shown a) ++ underText a.help a.choices (operandNotes a true)
    else
      Toned.plain ("  " ++ shown a ++ blanks (width + 2 - (shown a).length) ++
        indentAfterBreaks (blanks (width + 4)) (besideText a.help (operandNotes a false)))
  helpSection "Arguments" (if long then "\n\n" else "\n") (l.operands.map entry)

/-- The section of subcommands. -/
def commandSection (subs : List (String × String)) : Toned :=
  let width := (subs.map (·.1.length)).foldl max 2
  let entry := fun (s : String × String) =>
    Toned.plain "  " ++ Toned.paint .bold s.1 ++ Toned.plain (blanks (width + 2 - s.1.length) ++ s.2)
  helpSection "Commands" "\n" (subs.map entry)

/-- A help page; `long` asks for the long page, given only where one exists. -/
def Level.helpPage (l : Level) (env : String → Option String) (long : Bool) : Toned :=
  let long := long && l.hasLongHelp
  let sections :=
    (if l.subcommands.isEmpty then [] else [commandSection l.subcommands]) ++
    (if l.operands.isEmpty then [] else [operandSection l long]) ++
    (if l.opts.isEmpty then [] else [optionSection l.opts env long])
  Toned.plain (l.about ++ "\n\n") ++ Toned.paint .boldUnderlined "Usage:" ++ Toned.plain " " ++
    l.usage ++ Toned.plain "\n\n" ++ Toned.joinWith "\n\n" sections ++ Toned.plain "\n"

/-- The version line: the words joined by dashes, then the version. -/
def Level.versionLine (l : Level) (version : String) : Toned :=
  Toned.plain ("-".intercalate l.path ++ " " ++ version ++ "\n")

end RadioFlash.CommandLine
