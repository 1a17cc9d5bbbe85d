import RadioFlash.CommandLine.Grammar
/-!
# Commands as completion scripts see them

Completion scripts walk every command a grammar offers: the program, each subcommand, the `help`
subcommand, and under `help` one entry per command it can describe, itself included. Each entry
has its words, its one-line description, its options in grammar order (its own, the globals,
then help and version), its operands and the names of its subcommands. `help` and the entries
under it take no options.

Options are split the way scripts treat them: those that take a value, and flags.
-/

namespace RadioFlash.CommandLine

/-- One command of a completion script. -/
structure Command where
  /-- The words that call it, the program's name first. -/
  path : List String
  about : String
  opts : List Opt
  operands : List Operand
  /-- Its subcommands, with their descriptions. -/
  subcommands : List (String × String)
deriving Inhabited

namespace Command

/-- The words joined by blanks. -/
def binName (c : Command) : String :=
  " ".intercalate c.path

/-- The last word. -/
def name (c : Command) : String :=
  c.path.getLast?.getD ""

/-- Options that take a value, in order. -/
def valued (c : Command) : List Opt :=
  c.opts.filter (·.takesValue)

/-- Options that take no value, in order. -/
def flags (c : Command) : List Opt :=
  c.opts.filter (!·.takesValue)

end Command

/-- Every command of a grammar, each followed by those below it. -/
def Grammar.commands (g : Grammar) : List Command :=
  let root := g.root
  let top : Command :=
    { path := root.path, about := root.about, opts := root.opts, operands := [],
      subcommands := root.subcommands }
  let subs := g.subcommands.map fun s =>
    let l := g.level s
    ({ path := l.path, about := l.about, opts := l.opts, operands := l.operands,
       subcommands := [] } : Command)
  let helpCmd : Command :=
    { path := [g.name, "help"], about := Grammar.helpAbout, opts := [], operands := [],
      subcommands := root.subcommands }
  let underHelp := root.subcommands.map fun (n, a) =>
    ({ path := [g.name, "help", n], about := a, opts := [], operands := [],
       subcommands := [] } : Command)
  top :: subs ++ helpCmd :: underHelp

end RadioFlash.CommandLine
