import RadioFlash.CommandLine.Parse
import RadioFlash.CommandLine.Completion.Bash
import RadioFlash.CommandLine.Completion.Elvish
import RadioFlash.CommandLine.Completion.Fish
import RadioFlash.CommandLine.Completion.PowerShell
import RadioFlash.CommandLine.Completion.Zsh
import RadioFlash.Tool.Options
import RadioFlash.Tool.Load
import RadioFlash.Tool.Inspect
import RadioFlash.Tool.Install
/-!
# One run of the flasher

A run reads its command line, sets up logging, loads the settings and does one command, then ends
with an exit code and what it wrote. The world it runs in is given whole: its arguments, its
environment, the files it can reach, the device on the far end of a pseudo-terminal, and the
text that stands for the time in log lines.

A command line that cannot be read ends with its complaint and code 2, unless it asked for help
or the version, which end with code 0. A failed command ends with `Error:` and its message, and
code 2 when the invocation was at fault, 1 otherwise. A run that waits forever has no code.
-/

namespace RadioFlash.Tool

open CommandLine Text Run

/-- Everything a run can see. -/
structure World where
  args : List String
  env : List (String × String) := []
  workspace : Workspace := {}
  /-- The rules of the device on the pseudo-terminal. -/
  cues : List Cue := []
  /-- The text standing for the time in detailed log lines. -/
  time : String := "<TS>"

/-- How a run ended: its exit code (none when it never ends) and what it wrote. -/
structure Ending where
  code : Option Nat
  stdout : String
  stderr : String
deriving Inhabited, Repr

/-- The value of an environment variable. -/
def World.lookupEnv (w : World) (name : String) : Option String :=
  (w.env.find? (·.1 == name)).map (·.2)

/-- An install procedure as the command line names it. -/
def procedureNamed : String → Option InstallKind
  | "ebl" => some .ebl
  | "hcs08" => some .hcs08
  | "oem" => some .oem
  | _ => none

/-- The completion script for a shell the command line accepts. -/
def completionScript : String → String
  | "bash" => Bash.script grammar
  | "elvish" => Elvish.script grammar
  | "fish" => Fish.script grammar
  | "powershell" => PowerShell.script grammar
  | _ => Zsh.script grammar

/-- A listed port as a JSON object. -/
def portJson (p : DetectedPort) : Json :=
  let num (v : Option UInt16) : Json := (v.map fun n => Json.num n.toNat).getD .null
  let text (v : Option String) : Json := (v.map Json.str).getD .null
  .record [("name", .str p.name), ("device", .str p.device.tag), ("vid", num p.vid),
    ("pid", num p.pid), ("manufacturer", text p.manufacturer), ("product", text p.product),
    ("serial", text p.serial)]

/-- The `info` command. -/
def showImage (ws : Workspace) (path : String) (json : Bool) : Run Unit := do
  let bytes ← loadFirmware ws path
  match inspectImage path bytes.toList.toArray with
  | .error e => fail e
  | .ok report =>
    if json then println (Json.render report.document)
    else (report.lines path).forM eprintln

/-- The `list-ports` command. -/
def listPorts (m : Machine) (json : Bool) : Run Unit := do
  let ports := m.discoverPorts
  if json then
    println (Json.render (.record [("ok", .bool true),
      ("data", .record [("ports", .arr (ports.map portJson))])]))
  else
    eprintln "Serial ports"
    if ports.isEmpty then
      eprintln "  No serial ports found"
    else
      ports.forM fun p => eprintln ("  • " ++ p.describe)
      let (found, notes) := m.autoDetect
      logAll notes
      match found with
      | .ok p => eprintln ("\n→ Auto-detected: " ++ p.name)
      | .error _ => pure ()

/-- Do the command the command line names, after loading the settings. -/
def dispatch (w : World) (r : Reading) : Run Unit := do
  let env := w.lookupEnv
  let (loaded, notes) := loadSettings w.workspace env (r.value? "config")
  logAll notes
  let settings ← match loaded with
    | .stalls => throw .stalled
    | .found s => pure (s.getD {})
  let operand := r.operands.headD ""
  match r.subcommand with
  | "install" =>
    install w.workspace { cues := w.cues } settings
      { firmware := operand, kind := (r.value? "kind").bind procedureNamed,
        force := r.switch "force" || settings.force, port := r.value? "port",
        nonInteractive := r.switch "non_interactive", quiet := r.switch "quiet" }
  | "info" => showImage w.workspace operand (r.switch "json")
  | "list-ports" => listPorts w.workspace.machine (r.switch "json")
  | _ => modify fun c => { c with out := c.out ++ completionScript operand }

/-- The verbosity as a count that stops at 255. -/
def verbosity (r : Reading) : Nat :=
  min 255 (r.count "verbose")

/-- Run the program once. -/
def runProgram (w : World) : Ending :=
  match CommandLine.read { grammar, env := w.lookupEnv } w.args with
  | .error (.page text) =>
    { code := some 0, stdout := text.write (colourForced w.lookupEnv), stderr := "" }
  | .error (.complain c) => { code := some 2, stdout := "", stderr := c.render (colourForced w.lookupEnv) }
  | .error (.bareHelp text) =>
    { code := some 2, stdout := "", stderr := text.write (colourForced w.lookupEnv) }
  | .ok r =>
    let quiet := r.switch "quiet"
    let verbose := verbosity r
    let console := (Console.setUp w.lookupEnv quiet verbose w.time).say .debug programOrigin
      ("xbflash v" ++ version ++ " (verbose level: " ++ toString verbose ++ ")")
    let (outcome, c) := (dispatch w r).run console
    match outcome with
    | .ok () => { code := some 0, stdout := c.out, stderr := c.err }
    | .error (.failed message code) =>
      { code := some code, stdout := c.out, stderr := c.err ++ "Error: " ++ message ++ "\n" }
    | .error .stalled => { code := none, stdout := c.out, stderr := c.err }

end RadioFlash.Tool
