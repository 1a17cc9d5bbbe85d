import RadioFlash.CommandLine.Completion
/-!
# Completion script for fish

The script defines helpers that tell whether a subcommand has been named yet and which, then
declares one completion per flag and per subcommand, each under the condition that the right
command is being completed. Options that take a value ask for one, offering its accepted values
with their descriptions, or file names for paths. Commands nested two deep below the program are
the last described.
-/

namespace RadioFlash.CommandLine.Fish

/-- Quote text for single quotes. -/
def escapeText (s : String) : String :=
  (s.replace "\\" "\\\\").replace "'" "\\'"

/-- Quote a description: line breaks become blanks. -/
def escapeHelp (s : String) : String :=
  escapeText (s.replace "\n" " ")

/-- The program's options as the argument parser of fish spells them. -/
def optSpecs (c : Command) : String :=
  String.join (c.opts.map fun o =>
    let lead := match o.short with
      | some s => s.toString ++ "/"
      | none => ""
    " " ++ lead ++ escapeText o.long ++ (if o.takesValue then "=" else ""))

/-- What completes an option's value. -/
def valueCompletion (o : Opt) : String :=
  match o.arity with
  | .value _ kind cs =>
    if cs.isEmpty then
      match kind with
      | .path => " -r -F"
      | .text => " -r"
    else
      " -r -f -a \"" ++ "\n".intercalate (cs.map fun ch =>
        escapeText ch.name ++ "\\t'" ++ escapeHelp (ch.help.getD "") ++ "'") ++ "\""
  | _ => ""

/-- The condition under which a command's completions apply; none for commands nested deeper
than two. -/
def condition (bin : String) (c : Command) : Option String :=
  match c.path with
  | [_] => if c.subcommands.isEmpty then some "" else some (" -n \"__fish_" ++ bin ++ "_needs_command\"")
  | [_, cmd] =>
    let rest := if c.subcommands.isEmpty then ""
      else "; and not __fish_seen_subcommand_from" ++ String.join (c.subcommands.map (" " ++ ·.1))
    some (" -n \"__fish_" ++ bin ++ "_using_subcommand " ++ cmd ++ rest ++ "\"")
  | [_, cmd, sub] =>
    some (" -n \"__fish_" ++ bin ++ "_using_subcommand " ++ cmd ++
      "; and __fish_seen_subcommand_from " ++ sub ++ "\"")
  | _ => none

/-- The completion lines of one command. -/
def commandLines (root bin : String) (c : Command) : List String :=
  match condition bin c with
  | none => []
  | some cond =>
    let base := "complete -c " ++ root ++ cond
    let optLine := fun (o : Opt) (tail : String) =>
      base ++ ((o.short.map (fun s => " -s " ++ s.toString)).getD "") ++ " -l " ++ escapeText o.long ++
        " -d '" ++ escapeHelp o.help ++ "'" ++ tail
    let valued := c.valued.map (fun o => optLine o (valueCompletion o))
    let flags := c.flags.map (fun o => optLine o "")
    let subBase := if c.operands.isEmpty then base ++ " -f" else base
    let subs := c.subcommands.map fun (n, a) => subBase ++ " -a \"" ++ n ++ "\" -d '" ++ escapeHelp a ++ "'"
    valued ++ flags ++ subs

/-- The completion script. -/
def script (g : Grammar) : String :=
  let bin := g.name.replace "-" "_"
  let cmds := g.commands
  let rootOpts := ((cmds.head?.map optSpecs).getD "")
  "# Print an optspec for argparse to handle cmd's options that are independent of any subcommand.\n" ++
  "function __fish_" ++ bin ++ "_global_optspecs\n" ++
  "    string join \\n" ++ rootOpts ++ "\n" ++
  "end\n" ++
  "\n" ++
  "function __fish_" ++ bin ++ "_needs_command\n" ++
  "    # Figure out if the current invocation already has a command.\n" ++
  "    set -l cmd (commandline -opc)\n" ++
  "    set -e cmd[1]\n" ++
  "    argparse -s (__fish_" ++ bin ++ "_global_optspecs) -- $cmd 2>/dev/null\n" ++
  "    or return\n" ++
  "    if set -q argv[1]\n" ++
  "        # Also print the command, so this can be used to figure out what it is.\n" ++
  "        echo $argv[1]\n" ++
  "        return 1\n" ++
  "    end\n" ++
  "    return 0\n" ++
  "end\n" ++
  "\n" ++
  "function __fish_" ++ bin ++ "_using_subcommand\n" ++
  "    set -l cmd (__fish_" ++ bin ++ "_needs_command)\n" ++
  "    test -z \"$cmd\"\n" ++
  "    and return 1\n" ++
  "    contains -- $cmd[1] $argv\n" ++
  "end\n" ++
  "\n" ++
  String.join ((cmds.flatMap (commandLines g.name bin)).map (· ++ "\n"))

end RadioFlash.CommandLine.Fish
