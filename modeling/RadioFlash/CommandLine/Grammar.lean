/-!
# Command-line grammars

A grammar names a program's options and subcommands: which options take a value, which are
counted, which may come from an environment variable, which values are accepted, and the one-line
help of each. The parser, the help pages and the shell completion scripts are all read off one
grammar value, so that they cannot disagree.

Options given to the program itself are global: every subcommand accepts them too. Every command
also has `-h`/`--help` and `-V`/`--version`, and the program has a `help` subcommand; these are
added here rather than written into each grammar.
-/

namespace RadioFlash.CommandLine

/-- What kind of text a value is, for shells that complete it. -/
inductive ValueKind where
  /-- Free text. -/
  | text
  /-- A file system path. -/
  | path
deriving DecidableEq, Inhabited, Repr

/-- One accepted value of an argument, with an optional description. -/
structure Choice where
  name : String
  help : Option String := none
deriving DecidableEq, Inhabited, Repr

/-- How an option uses the command line. -/
inductive Arity where
  /-- A switch: given or not. -/
  | switch
  /-- Counted: each use adds one. -/
  | counted
  /-- Takes one value, shown as the placeholder; `choices` lists the accepted values, if limited. -/
  | value (placeholder : String) (kind : ValueKind) (choices : List Choice)
  /-- Shows the help page and stops. -/
  | showHelp
  /-- Shows the version and stops. -/
  | showVersion
deriving DecidableEq, Inhabited, Repr

/-- A named option. -/
structure Opt where
  /-- The key the parsed value is stored under. -/
  key : String
  short : Option Char := none
  long : String
  help : String
  /-- The text of the long help page, when it differs. -/
  longHelp : Option String := none
  /-- The environment variable that supplies the value when the option is not given. -/
  env : Option String := none
  arity : Arity
  /-- Place in help listings; options of equal place are ordered by their flags. -/
  order : Nat
deriving DecidableEq, Inhabited, Repr

/-- A positional argument; every operand of this grammar is required. -/
structure Operand where
  key : String
  placeholder : String
  help : String
  kind : ValueKind
  choices : List Choice := []
deriving DecidableEq, Inhabited, Repr

/-- A subcommand with its own operands and options. -/
structure Subcommand where
  name : String
  about : String
  operands : List Operand
  opts : List Opt
deriving DecidableEq, Inhabited, Repr

/-- A program's whole command line. -/
structure Grammar where
  name : String
  version : String
  about : String
  /-- Options accepted before and after the subcommand. -/
  globals : List Opt
  subcommands : List Subcommand
deriving Inhabited, Repr

namespace Opt

/-- The option takes a value. -/
def takesValue (o : Opt) : Bool :=
  match o.arity with
  | .value .. => true
  | _ => false

/-- The accepted values, if limited. -/
def choices (o : Opt) : List Choice :=
  match o.arity with
  | .value _ _ cs => cs
  | _ => []

/-- The option is `--help` or `--version`. -/
def isBuiltIn (o : Opt) : Bool :=
  match o.arity with
  | .showHelp | .showVersion => true
  | _ => false

/-- How the option is written in messages: `--port <PORT>`, `--quiet`, `--verbose...`. -/
def display (o : Opt) : String :=
  let name := "--" ++ o.long
  match o.arity with
  | .value p _ _ => name ++ " <" ++ p ++ ">"
  | .counted => name ++ "..."
  | _ => name

/-- The flags as help pages list them: `-p, --port <PORT>`, or four blanks for a missing short. -/
def flagsText (o : Opt) : String :=
  let lead := match o.short with
    | some c => "-" ++ c.toString ++ ", "
    | none => "    "
  lead ++ o.display

/-- Listing order: place, then the short flag (lower case first), then the long flag. -/
def sortKey (o : Opt) : Nat × String :=
  match o.short with
  | some c => (o.order, c.toLower.toString ++ (if c.isLower then "0" else "1"))
  | none => (o.order, o.long)

end Opt

namespace Operand

/-- How the operand is written in messages: `<FIRMWARE>`. -/
def display (a : Operand) : String :=
  "<" ++ a.placeholder ++ ">"

end Operand

/-- Some accepted value has a description of its own. -/
def describesChoices (cs : List Choice) : Bool :=
  cs.any (·.help.isSome)

/-- One command of a grammar as the parser and the help pages see it: the program itself, one
of its subcommands, or its `help` subcommand. -/
structure Level where
  /-- The words that call it: the program's name, then the subcommand's. -/
  path : List String
  about : String
  operands : List Operand
  /-- Every option accepted here: the command's own, the globals, then help and version. -/
  opts : List Opt
  /-- Names and one-line help of the subcommands, for the program itself. -/
  subcommands : List (String × String)
  /-- Only the `help` subcommand: its operands name commands, any number of them. -/
  namesCommands : Bool := false
deriving Inhabited

namespace Level

/-- The name shown in usage lines: the words joined by blanks. -/
def binName (l : Level) : String :=
  " ".intercalate l.path

/-- A long help page exists when some option describes its accepted values one by one. -/
def hasLongHelp (l : Level) : Bool :=
  l.opts.any (fun o => describesChoices o.choices) ||
    l.operands.any (fun a => describesChoices a.choices)

/-- The option with this long name. -/
def findLong (l : Level) (name : String) : Option Opt :=
  l.opts.find? (·.long = name)

/-- The option with this short name. -/
def findShort (l : Level) (c : Char) : Option Opt :=
  l.opts.find? (·.short = some c)

end Level

namespace Grammar

/-- The text of `help` as a subcommand. -/
def helpAbout : String := "Print this message or the help of the given subcommand(s)"

/-- The help option; its text points to the other page when a long one exists. -/
def helpOpt (long : Bool) : Opt :=
  { key := "help", short := some 'h', long := "help", arity := .showHelp, order := 999,
    help := if long then "Print help (see more with '--help')" else "Print help",
    longHelp := if long then some "Print help (see a summary with '-h')" else none }

/-- The version option. -/
def versionOpt : Opt :=
  { key := "version", short := some 'V', long := "version", arity := .showVersion, order := 999,
    help := "Print version" }

/-- Attach help and version to a list of options. -/
def withBuiltIns (opts : List Opt) (operands : List Operand) : List Opt :=
  let long := opts.any (fun o => describesChoices o.choices) ||
    operands.any (fun a => describesChoices a.choices)
  opts ++ [helpOpt long, versionOpt]

/-- The program itself as a level. -/
def root (g : Grammar) : Level :=
  { path := [g.name], about := g.about, operands := [],
    opts := withBuiltIns g.globals [],
    subcommands := g.subcommands.map (fun s => (s.name, s.about)) ++ [("help", helpAbout)] }

/-- A subcommand as a level: its own options, then the globals. -/
def level (g : Grammar) (s : Subcommand) : Level :=
  { path := [g.name, s.name], about := s.about, operands := s.operands,
    opts := withBuiltIns (s.opts ++ g.globals) s.operands, subcommands := [] }

/-- The `help` subcommand as a level. -/
def helpLevel (g : Grammar) : Level :=
  { path := [g.name, "help"], about := helpAbout,
    operands := [{ key := "subcommand", placeholder := "COMMAND",
                   help := "Print help for the subcommand(s)", kind := .text }],
    opts := [], subcommands := [], namesCommands := true }

/-- Find a subcommand by name. -/
def find? (g : Grammar) (name : String) : Option Subcommand :=
  g.subcommands.find? (·.name = name)

end Grammar

end RadioFlash.CommandLine
