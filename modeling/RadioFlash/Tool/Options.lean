import RadioFlash.CommandLine.Grammar
/-!
# The flasher's command line

`xbflash` installs firmware on a radio module, describes firmware images, lists serial ports and
writes shell completion scripts. The port, the verbosity, quiet and non-interactive modes and a
configuration file may be named before or after the subcommand; the port, the install procedure
and non-interactive mode may also come from the environment.
-/

namespace RadioFlash.Tool

open CommandLine

/-- The program's version. -/
def version : String := "0.1.0"

/-- Options every subcommand accepts. -/
def globalOptions : List Opt := [
  { key := "port", short := some 'p', long := "port",
    help := "Serial port to use (auto-detected if not specified)", env := some "XBFLASH_PORT",
    arity := .value "PORT" .text [], order := 0 },
  { key := "verbose", short := some 'v', long := "verbose",
    help := "Verbose output level (-v, -vv, -vvv for increasing detail)", arity := .counted,
    order := 1 },
  { key := "quiet", short := some 'q', long := "quiet",
    help := "Quiet mode (suppress non-essential output)", arity := .switch, order := 2 },
  { key := "non_interactive", long := "non-interactive",
    help := "Non-interactive mode (fail instead of guessing)", env := some "XBFLASH_NON_INTERACTIVE",
    arity := .switch, order := 3 },
  { key := "config", long := "config", help := "Path to a configuration file",
    arity := .value "PATH" .path [], order := 4 }]

/-- The firmware image operand. -/
def firmwareOperand : Operand :=
  { key := "firmware", placeholder := "FIRMWARE", help := "Firmware image (.ebl or .oem)",
    kind := .path }

/-- The install procedures, as the command line names them. -/
def procedureChoices : List Choice := [
  { name := "ebl", help := some "`.ebl` image over XMODEM (XBee ZB / ZNet 2.5)" },
  { name := "hcs08", help := some "HCS08 application on programmable modules" },
  { name := "oem", help := some "`.oem` image (DigiMesh 900, XTend, XStream)" }]

/-- The shells completion scripts are written for. -/
def shellChoices : List Choice :=
  ["bash", "elvish", "fish", "powershell", "zsh"].map fun n => { name := n }

/-- The `--json` switch. -/
def jsonOption : Opt :=
  { key := "json", long := "json", help := "Output as JSON", arity := .switch, order := 0 }

/-- The whole command line. -/
def grammar : Grammar where
  name := "xbflash"
  version := version
  about := "Command-line tool for installing firmware on XBee radio modules"
  globals := globalOptions
  subcommands := [
    { name := "install", about := "Install a firmware image on the attached module",
      operands := [firmwareOperand],
      opts := [
        { key := "kind", short := some 'k', long := "kind",
          help := "Install procedure (detected from the image when omitted)",
          env := some "XBFLASH_KIND", arity := .value "KIND" .text procedureChoices, order := 0 },
        { key := "force", short := some 'f', long := "force",
          help := "Install even if the module already runs this version", arity := .switch,
          order := 1 }] },
    { name := "info", about := "Show information about a firmware image",
      operands := [firmwareOperand], opts := [jsonOption] },
    { name := "list-ports", about := "List available serial ports", operands := [],
      opts := [jsonOption] },
    { name := "completions", about := "Generate shell completion scripts",
      operands := [{ key := "shell", placeholder := "SHELL", help := "Shell type", kind := .text,
                     choices := shellChoices }],
      opts := [] }]

end RadioFlash.Tool
