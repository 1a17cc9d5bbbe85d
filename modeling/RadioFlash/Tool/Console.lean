import RadioFlash.Journal.Filter
import RadioFlash.Journal.Line
/-!
# The program's output

What the program writes: standard output, standard error, and the notes it logs, which go to
standard error when the filter shows them. The filter comes from the `RUST_LOG` variable when it
is set, and otherwise from the verbosity: warnings in quiet mode, then information, debugging
and tracing for zero, one, and two or more `-v`. From two `-v` on, log lines show the time and
the origin.

Colour is shown only when asked for, since neither stream is a terminal here: `NO_COLOR` set to
anything but the empty text forbids it, and otherwise `CLICOLOR_FORCE` set to anything but `0`
forces it. For log lines, `RUST_LOG_STYLE` set to exactly `always` or `never` decides first.
-/

namespace RadioFlash.Tool

/-- Whether text for the terminal streams is written in colour. -/
def colourForced (env : String → Option String) : Bool :=
  (env "NO_COLOR").getD "" == "" &&
    match env "CLICOLOR_FORCE" with
    | some v => v != "0"
    | none => false

/-- Whether log lines are written in colour. -/
def logColour (env : String → Option String) : Bool :=
  match env "RUST_LOG_STYLE" with
  | some "always" => true
  | some "never" => false
  | _ => colourForced env

/-- What the program has written so far, and how it logs. -/
structure Console where
  out : String := ""
  err : String := ""
  filter : Journal.Filter := (Journal.Spec.read "info").filter
  style : Journal.LineStyle := {}
deriving Inhabited

namespace Console

/-- Write a line to standard output. -/
def println (c : Console) (text : String) : Console :=
  { c with out := c.out ++ text ++ "\n" }

/-- Write a line to standard error. -/
def eprintln (c : Console) (text : String) : Console :=
  { c with err := c.err ++ text ++ "\n" }

/-- Log a note, if the filter shows it. -/
def log (c : Console) (n : Note) : Console :=
  if c.filter.shows n then { c with err := c.err ++ Journal.line c.style n } else c

/-- Log notes in order. -/
def logAll (c : Console) (ns : List Note) : Console :=
  ns.foldl log c

/-- Log a note of the program's own. -/
def say (c : Console) (level : Level) (origin text : String) : Console :=
  c.log { level, origin, text }

/-- The default filter text for a verbosity. -/
def defaultSpec (quiet : Bool) (verbose : Nat) : String :=
  if quiet then "warn"
  else match verbose with
    | 0 => "info"
    | 1 => "debug"
    | _ => "trace"

/-- Set up logging: the filter spec from `RUST_LOG`, else from the verbosity; warnings about a
malformed spec are written at once. -/
def setUp (env : String → Option String) (quiet : Bool) (verbose : Nat) (time : String) :
    Console :=
  let spec := Journal.Spec.read ((env "RUST_LOG").getD (defaultSpec quiet verbose))
  let style : Journal.LineStyle :=
    if verbose ≥ 2 then { time := some time, origin := true, colour := logColour env }
    else { colour := logColour env }
  let c : Console := { filter := spec.filter, style }
  spec.warnings.foldl (fun c w => c.eprintln ("warning: " ++ w ++ ", ignoring it")) c

end Console

/-- Why a command stopped before its end. -/
inductive Halt where
  /-- It failed with a message and an exit code: 2 for a bad invocation, 1 otherwise. -/
  | failed (message : String) (code : Nat)
  /-- It waits forever, for input that never comes. -/
  | stalled
deriving Inhabited, Repr

/-- A command's work: it writes to the console and may stop early. Output written before a stop
stays written. -/
abbrev Run := ExceptT Halt (StateM Console)

namespace Run

/-- Write a line to standard output. -/
def println (text : String) : Run Unit :=
  modify (·.println text)

/-- Write a line to standard error. -/
def eprintln (text : String) : Run Unit :=
  modify (·.eprintln text)

/-- Log notes in order. -/
def logAll (ns : List Note) : Run Unit :=
  modify (·.logAll ns)

/-- Log a note of the program's own. -/
def say (level : Level) (origin text : String) : Run Unit :=
  modify (·.say level origin text)

/-- Stop with a failure. -/
def fail {α : Type} (message : String) : Run α :=
  throw (.failed message 1)

/-- Stop because the invocation cannot work. -/
def refuse {α : Type} (message : String) : Run α :=
  throw (.failed message 2)

/-- Run from a console: how it stopped, if it did, and the console after. -/
def run {α : Type} (m : Run α) (c : Console) : Except Halt α × Console :=
  (ExceptT.run m).run c

end Run

end RadioFlash.Tool
