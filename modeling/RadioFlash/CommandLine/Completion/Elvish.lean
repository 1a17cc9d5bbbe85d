import RadioFlash.CommandLine.Completion
/-!
# Completion script for elvish

The script maps each command, written as its words joined by `;`, to the candidates it offers:
every short and long flag with its description, then its subcommands with theirs. The command
being completed is read off the words before the first option.
-/

namespace RadioFlash.CommandLine.Elvish

/-- Quote text for single quotes. -/
def escapeText (s : String) : String :=
  s.replace "'" "''"

/-- The candidate lines of one command. -/
def candidates (c : Command) : String :=
  let cand := fun (text descr : String) => "\n            cand " ++ text ++ " '" ++ escapeText descr ++ "'"
  let optCands := fun (o : Opt) =>
    ((o.short.map (fun s => cand ("-" ++ s.toString) o.help)).getD "") ++ cand ("--" ++ o.long) o.help
  String.join (c.valued.map optCands) ++ String.join (c.flags.map optCands) ++
    String.join (c.subcommands.map fun (n, a) => cand n a)

/-- The entry of one command. -/
def entry (c : Command) : String :=
  "\n        &'" ++ ";".intercalate c.path ++ "'= \x7b" ++ candidates c ++ "\n        \x7d"

/-- The completion script. -/
def script (g : Grammar) : String :=
  let name := g.name
  "\n" ++
  "use builtin;\n" ++
  "use str;\n" ++
  "\n" ++
  "set edit:completion:arg-completer[" ++ name ++ "] = \x7b|@words|\n" ++
  "    fn spaces \x7b|n|\n" ++
  "        builtin:repeat $n ' ' | str:join ''\n" ++
  "    \x7d\n" ++
  "    fn cand \x7b|text desc|\n" ++
  "        edit:complex-candidate $text &display=$text' '(spaces (- 14 (wcswidth $text)))$desc\n" ++
  "    \x7d\n" ++
  "    var command = '" ++ name ++ "'\n" ++
  "    for word $words[1..-1] \x7b\n" ++
  "        if (str:has-prefix $word '-') \x7b\n" ++
  "            break\n" ++
  "        \x7d\n" ++
  "        set command = $command';'$word\n" ++
  "    \x7d\n" ++
  "    var completions = [" ++ String.join (g.commands.map entry) ++ "\n" ++
  "    ]\n" ++
  "    $completions[$command]\n" ++
  "\x7d\n"

end RadioFlash.CommandLine.Elvish
