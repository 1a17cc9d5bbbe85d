import RadioFlash.CommandLine.Completion
/-!
# Completion script for bash

One shell function completes the program. It first finds which command the words so far name,
walking from the program through known subcommand names, then offers that command's flags,
accepted operand values and subcommand names. After an option that takes a value it offers that
option's accepted values, or file names.

Each command is named in the script by its words joined with `__subcmd__`, a dash inside a word
also becoming `__subcmd__`, so that no two commands share a name.
-/

namespace RadioFlash.CommandLine.Bash

/-- The script's name for a command. -/
def fnName : List String → String
  | [] => ""
  | root :: rest =>
    rest.foldl (fun acc w => acc ++ "__subcmd__" ++ w.replace "-" "__subcmd__") (root.replace "-" "__")

/-- What the completion of an option's value runs. -/
def valuesFor (o : Opt) : String :=
  match o.choices with
  | [] => "$(compgen -f \"$\x7bcur\x7d\")"
  | cs => "$(compgen -W \"" ++ " ".intercalate (cs.map (·.name)) ++ "\" -- \"$\x7bcur\x7d\")"

/-- Everything offered at a command: flags, accepted operand values, subcommand names. -/
def offered (c : Command) : String :=
  let shorts := c.opts.filterMap (fun o => o.short.map (fun s => "-" ++ s.toString))
  let longs := c.opts.map (fun o => "--" ++ o.long)
  let values := c.operands.flatMap (fun a => a.choices.map (·.name))
  " ".intercalate (shorts ++ longs ++ values ++ c.subcommands.map (·.1))

/-- The cases completing the value after each option that takes one. -/
def valueCases (c : Command) : String :=
  let entry := fun (flag : String) (o : Opt) =>
    "\n                " ++ flag ++ ")\n                    COMPREPLY=(" ++ valuesFor o ++
    ")\n                    return 0\n                    ;;"
  String.join (c.valued.map fun o =>
    entry ("--" ++ o.long) o ++ (o.short.map (fun s => entry ("-" ++ s.toString) o)).getD "")

/-- The case of one command. -/
def commandCase (c : Command) : String :=
  fnName c.path ++ ")\n" ++
  "            opts=\"" ++ offered c ++ "\"\n" ++
  "            if [[ $\x7bcur\x7d == -* || $\x7bCOMP_CWORD\x7d -eq " ++ toString c.path.length ++ " ]] ; then\n" ++
  "                COMPREPLY=( $(compgen -W \"$\x7bopts\x7d\" -- \"$\x7bcur\x7d\") )\n" ++
  "                return 0\n" ++
  "            fi\n" ++
  "            case \"$\x7bprev\x7d\" in" ++ valueCases c ++ "\n" ++
  "                *)\n" ++
  "                    COMPREPLY=()\n" ++
  "                    ;;\n" ++
  "            esac\n" ++
  "            COMPREPLY=( $(compgen -W \"$\x7bopts\x7d\" -- \"$\x7bcur\x7d\") )\n" ++
  "            return 0\n" ++
  "            ;;"

/-- The step from a command to one of its subcommands, while walking the words. -/
def stepCase (parent name fn : String) : String :=
  "\n            " ++ parent ++ "," ++ name ++ ")\n                cmd=\"" ++ fn ++ "\"\n                ;;"

/-- Order triples of texts. -/
def tripleLe (a b : String × String × String) : Bool :=
  a.1 < b.1 || (a.1 == b.1 && (a.2.1 < b.2.1 || (a.2.1 == b.2.1 && a.2.2 ≤ b.2.2)))

/-- The completion script. -/
def script (g : Grammar) : String :=
  let cmds := g.commands
  let name := g.name
  let rootFn := fnName [name]
  let steps := (cmds.filter (·.path.length > 1)).map (fun c =>
    (fnName c.path.dropLast, c.name, fnName c.path))
  let steps := steps.mergeSort tripleLe
  let cases := (cmds.mergeSort (fun a b => fnName a.path ≤ fnName b.path)).map commandCase
  "_" ++ rootFn ++ "() \x7b\n" ++
  "    local i cur prev opts cmd\n" ++
  "    COMPREPLY=()\n" ++
  "    if [[ \"$\x7bBASH_VERSINFO[0]\x7d\" -ge 4 ]]; then\n" ++
  "        cur=\"$2\"\n" ++
  "    else\n" ++
  "        cur=\"$\x7bCOMP_WORDS[COMP_CWORD]\x7d\"\n" ++
  "    fi\n" ++
  "    prev=\"$3\"\n" ++
  "    cmd=\"\"\n" ++
  "    opts=\"\"\n" ++
  "\n" ++
  "    for i in \"$\x7bCOMP_WORDS[@]:0:COMP_CWORD\x7d\"\n" ++
  "    do\n" ++
  "        case \"$\x7bcmd\x7d,$\x7bi\x7d\" in\n" ++
  "            \",$1\")\n" ++
  "                cmd=\"" ++ rootFn ++ "\"\n" ++
  "                ;;" ++ String.join (steps.map fun (p, n, f) => stepCase p n f) ++ "\n" ++
  "            *)\n" ++
  "                ;;\n" ++
  "        esac\n" ++
  "    done\n" ++
  "\n" ++
  "    case \"$\x7bcmd\x7d\" in\n" ++
  "        " ++ "\n        ".intercalate cases ++ "\n" ++
  "    esac\n" ++
  "\x7d\n" ++
  "\n" ++
  "if [[ \"$\x7bBASH_VERSINFO[0]\x7d\" -eq 4 && \"$\x7bBASH_VERSINFO[1]\x7d\" -ge 4 || \"$\x7bBASH_VERSINFO[0]\x7d\" -gt 4 ]]; then\n" ++
  "    complete -F _" ++ rootFn ++ " -o nosort -o bashdefault -o default " ++ name ++ "\n" ++
  "else\n" ++
  "    complete -F _" ++ rootFn ++ " -o bashdefault -o default " ++ name ++ "\n" ++
  "fi\n"

end RadioFlash.CommandLine.Bash
