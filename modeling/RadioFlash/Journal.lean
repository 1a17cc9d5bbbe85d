/-!
# Diagnostic notes

Engines and ports report what they do as notes: a severity, the part of the program that speaks,
and a sentence. Where notes go is the caller's choice; a port keeps or discards them, and a
command line prints those at or above its chosen severity.
-/

namespace RadioFlash

/-- Severity of a note, from the most to the least urgent. -/
inductive Level where
  | error
  | warn
  | info
  | debug
  | trace
deriving DecidableEq, Inhabited, Repr

namespace Level

/-- Rank of a severity; smaller is more urgent. -/
def rank : Level → Nat
  | error => 1
  | warn => 2
  | info => 3
  | debug => 4
  | trace => 5

/-- Upper-case name, as log lines print it. -/
def label : Level → String
  | error => "ERROR"
  | warn => "WARN"
  | info => "INFO"
  | debug => "DEBUG"
  | trace => "TRACE"

end Level

/-- One diagnostic note. -/
structure Note where
  level : Level
  /-- The part of the program that speaks, as a path of module names. -/
  origin : String
  text : String
deriving Inhabited, Repr

end RadioFlash
