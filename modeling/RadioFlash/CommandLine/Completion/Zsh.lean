import RadioFlash.CommandLine.Completion
/-!
# Completion script for zsh

The script describes each command to the `_arguments` helper: every option with its
description, whether it may repeat, and how its value completes; every operand with its
description; and, for a command with subcommands, a helper listing them, through which the
completion continues in the subcommand named. Descriptions are escaped for single quotes and
brackets.
-/

namespace RadioFlash.CommandLine.Zsh

/-- Escape a description for single quotes and brackets. -/
def escapeHelp (s : String) : String :=
  ((((((((s.replace "\\" "\\\\").replace "'" "'\\''").replace "[" "\\[").replace "]" "\\]").replace
    ":" "\\:").replace "$" "\\$").replace "`" "\\`").replace "\n" " ")

/-- Escape an accepted value for single quotes and parentheses. -/
def escapeValue (s : String) : String :=
  ((((escapeHelp s).replace "(" "\\(").replace ")" "\\)").replace " " "\\ ")

/-- How a value completes: its accepted values, with descriptions when they have them, or files
for a path, or anything. -/
def valueCompletion (kind : ValueKind) (cs : List Choice) : String :=
  if cs.isEmpty then
    match kind with
    | .path => "_files"
    | .text => "_default"
  else if describesChoices cs then
    "((" ++ "\n".intercalate (cs.map fun c =>
      escapeValue c.name ++ "\\:\"" ++ escapeHelp (c.help.getD "") ++ "\"") ++ "))"
  else "(" ++ " ".intercalate (cs.map (·.name)) ++ ")"

/-- The lines of the options that take a value. -/
def valuedLines (c : Command) : List String :=
  c.valued.flatMap fun o =>
    match o.arity with
    | .value p kind cs =>
      let help := escapeHelp o.help
      let vc := ":" ++ p ++ ":" ++ valueCompletion kind cs
      ((o.short.map (fun s => ["'-" ++ s.toString ++ "+[" ++ help ++ "]" ++ vc ++ "' \\"])).getD []) ++
        ["'--" ++ o.long ++ "=[" ++ help ++ "]" ++ vc ++ "' \\"]
    | _ => []

/-- The lines of the flags; counted ones may repeat. -/
def flagLines (c : Command) : List String :=
  c.flags.flatMap fun o =>
    let help := escapeHelp o.help
    let many := match o.arity with
      | .counted => "*"
      | _ => ""
    ((o.short.map (fun s => ["'" ++ many ++ "-" ++ s.toString ++ "[" ++ help ++ "]' \\"])).getD []) ++
      ["'" ++ many ++ "--" ++ o.long ++ "[" ++ help ++ "]' \\"]

/-- The lines of the operands. -/
def operandLines (c : Command) : List String :=
  c.operands.map fun a =>
    let help := ((((" -- " ++ a.help).replace "[" "\\[").replace "]" "\\]").replace "'" "'\\''").replace ":" "\\:"
    "':" ++ a.key ++ help ++ ":" ++ valueCompletion a.kind a.choices ++ "' \\"

/-- The name of the helper listing a command's subcommands. -/
def commandsFn (c : Command) : String :=
  "_" ++ "__".intercalate c.path ++ "_commands"

/-- The `_arguments` call of a command. -/
def argumentsOf (c : Command) : String :=
  let subs := if c.subcommands.isEmpty then []
    else ["\":: :" ++ commandsFn c ++ "\" \\", "\"*::: :->" ++ c.name ++ "\" \\"]
  "\n".intercalate (["_arguments \"$\x7b_arguments_options[@]\x7d\" : \\"] ++
    valuedLines c ++ flagLines c ++ operandLines c ++ subs ++ ["&& ret=0"])

/-- The commands directly below `c`. -/
def children (all : List Command) (c : Command) : List Command :=
  all.filter (fun d => d.path.length = c.path.length + 1 && d.path.take c.path.length == c.path)

/-- The dispatch to the subcommands of `c`, each with its own arguments and dispatch; `fuel`
bounds the depth. -/
def dispatch (all : List Command) : Nat → Command → String
  | 0, _ => ""
  | fuel + 1, c =>
    let kids := children all c
    if kids.isEmpty then ""
    else
      let cases := kids.map fun k =>
        let inner := dispatch all fuel k
        "\n".intercalate (["(" ++ k.name ++ ")", argumentsOf k] ++
          (if inner.isEmpty then [] else [inner]) ++ [";;"])
      "\n" ++
      "    case $state in\n" ++
      "    (" ++ c.name ++ ")\n" ++
      "        words=($line[1] \"$\x7bwords[@]\x7d\")\n" ++
      "        (( CURRENT += 1 ))\n" ++
      "        curcontext=\"$\x7bcurcontext%:*:*\x7d:" ++ "-".intercalate c.path ++ "-command-$line[1]:\"\n" ++
      "        case $line[1] in\n" ++
      "            " ++ "\n".intercalate cases ++ "\n" ++
      "        esac\n" ++
      "    ;;\n" ++
      "esac"

/-- The helper listing the subcommands of a command. -/
def commandsHelper (c : Command) : String :=
  let items := c.subcommands.map fun (n, a) => "'" ++ n ++ ":" ++ escapeHelp a ++ "' \\"
  let body := if items.isEmpty then "" else "\n" ++ "\n".intercalate items ++ "\n    "
  "(( $+functions[" ++ commandsFn c ++ "] )) ||\n" ++
  commandsFn c ++ "() \x7b\n" ++
  "    local commands; commands=(" ++ body ++ ")\n" ++
  "    _describe -t commands '" ++ c.binName ++ " commands' commands \"$@\"\n" ++
  "\x7d"

/-- The completion script. -/
def script (g : Grammar) : String :=
  let all := g.commands
  let name := g.name
  match all with
  | [] => ""
  | root :: rest =>
    let helpers := commandsHelper root ::
      (rest.mergeSort (fun a b => a.binName ≤ b.binName)).map commandsHelper
    "#compdef " ++ name ++ "\n" ++
    "\n" ++
    "autoload -U is-at-least\n" ++
    "\n" ++
    "_" ++ name ++ "() \x7b\n" ++
    "    typeset -A opt_args\n" ++
    "    typeset -a _arguments_options\n" ++
    "    local ret=1\n" ++
    "\n" ++
    "    if is-at-least 5.2; then\n" ++
    "        _arguments_options=(-s -S -C)\n" ++
    "    else\n" ++
    "        _arguments_options=(-s -C)\n" ++
    "    fi\n" ++
    "\n" ++
    "    local context curcontext=\"$curcontext\" state line\n" ++
    "    " ++ argumentsOf root ++ dispatch all 4 root ++ "\n" ++
    "\x7d\n" ++
    "\n" ++
    "\n".intercalate helpers ++ "\n" ++
    "\n" ++
    "if [ \"$funcstack[1]\" = \"_" ++ name ++ "\" ]; then\n" ++
    "    _" ++ name ++ " \"$@\"\n" ++
    "else\n" ++
    "    compdef _" ++ name ++ " " ++ name ++ "\n" ++
    "fi\n"

end RadioFlash.CommandLine.Zsh
