import RadioFlash.CommandLine.Completion
/-!
# Completion script for PowerShell

The script registers an argument completer that reads the command being completed off the
leading bare words, then offers that command's results: every short and long flag, then its
subcommands, each with its description. A short flag in upper case is listed with a trailing
blank, so that it stays apart from its lower-case twin.
-/

namespace RadioFlash.CommandLine.PowerShell

/-- Quote text for single quotes. -/
def escapeText (s : String) : String :=
  s.replace "'" "''"

/-- The results of one command. -/
def results (c : Command) : String :=
  let pre := "\n            [CompletionResult]::new("
  let optResults := fun (o : Opt) =>
    let tip := escapeText o.help
    ((o.short.map (fun s =>
      pre ++ "'-" ++ s.toString ++ "', '-" ++ s.toString ++ (if s.isUpper then " " else "") ++
        "', [CompletionResultType]::ParameterName, '" ++ tip ++ "')")).getD "") ++
    pre ++ "'--" ++ o.long ++ "', '--" ++ o.long ++ "', [CompletionResultType]::ParameterName, '" ++ tip ++ "')"
  String.join (c.valued.map optResults) ++ String.join (c.flags.map optResults) ++
    String.join (c.subcommands.map fun (n, a) =>
      pre ++ "'" ++ n ++ "', '" ++ n ++ "', [CompletionResultType]::ParameterValue, '" ++ escapeText a ++ "')")

/-- The case of one command. -/
def entry (c : Command) : String :=
  "\n        '" ++ ";".intercalate c.path ++ "' \x7b" ++ results c ++ "\n            break\n        \x7d"

/-- The completion script. -/
def script (g : Grammar) : String :=
  let name := g.name
  "\n" ++
  "using namespace System.Management.Automation\n" ++
  "using namespace System.Management.Automation.Language\n" ++
  "\n" ++
  "Register-ArgumentCompleter -Native -CommandName '" ++ name ++ "' -ScriptBlock \x7b\n" ++
  "    param($wordToComplete, $commandAst, $cursorPosition)\n" ++
  "\n" ++
  "    $commandElements = $commandAst.CommandElements\n" ++
  "    $command = @(\n" ++
  "        '" ++ name ++ "'\n" ++
  "        for ($i = 1; $i -lt $commandElements.Count; $i++) \x7b\n" ++
  "            $element = $commandElements[$i]\n" ++
  "            if ($element -isnot [StringConstantExpressionAst] -or\n" ++
  "                $element.StringConstantType -ne [StringConstantType]::BareWord -or\n" ++
  "                $element.Value.StartsWith('-') -or\n" ++
  "                $element.Value -eq $wordToComplete) \x7b\n" ++
  "                break\n" ++
  "        \x7d\n" ++
  "        $element.Value\n" ++
  "    \x7d) -join ';'\n" ++
  "\n" ++
  "    $completions = @(switch ($command) \x7b" ++ String.join (g.commands.map entry) ++ "\n" ++
  "    \x7d)\n" ++
  "\n" ++
  "    $completions.Where\x7b $_.CompletionText -like \"$wordToComplete*\" \x7d |\n" ++
  "        Sort-Object -Property ListItemText\n" ++
  "\x7d\n"

end RadioFlash.CommandLine.PowerShell
