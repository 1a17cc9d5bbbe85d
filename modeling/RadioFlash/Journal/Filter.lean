import RadioFlash.Journal
import RadioFlash.Text.Ascii
import RadioFlash.Journal.Pattern
/-!
# Which notes are shown

A filter is a list of directives, each a ceiling of severity for the notes whose origin starts
with a given scope (or for all notes). A note is shown when the directive with the longest
matching scope lets its severity through; with no matching directive it is hidden.

Filters are written as comma-separated directives, optionally followed by `/` and a pattern
that some part of the shown text must match. A directive is a severity alone (for every origin), a scope
alone (everything from that scope), or `scope=severity`. Severities are `off`, `error`, `warn`,
`info`, `debug` and `trace`, in any letter case. A spec with no directive at all shows errors
only. Malformed directives are skipped, each with a warning, and so is a pattern that cannot be
read.
-/

namespace RadioFlash.Journal

/-- The most detailed severity a directive lets through; `none` silences. -/
abbrev Ceiling := Option Level

/-- Read a severity name, in any letter case. -/
def ceilingOf? (s : String) : Option Ceiling :=
  match Text.asciiLower s with
  | "off" => some none
  | "error" => some (some .error)
  | "warn" => some (some .warn)
  | "info" => some (some .info)
  | "debug" => some (some .debug)
  | "trace" => some (some .trace)
  | _ => none

/-- A ceiling lets a severity through. -/
def admits (c : Ceiling) (l : Level) : Bool :=
  match c with
  | none => false
  | some top => l.rank ≤ top.rank

/-- One directive: a ceiling for one scope, or for every origin. -/
structure Directive where
  scope : Option String
  ceiling : Ceiling
deriving Inhabited, Repr

/-- The length in bytes by which directives are ordered; the catch-all counts as empty. -/
def Directive.scopeLength (d : Directive) : Nat :=
  (d.scope.map String.utf8ByteSize).getD 0

/-- A directive applies to an origin. -/
def Directive.covers (d : Directive) (origin : String) : Bool :=
  match d.scope with
  | none => true
  | some s => origin.startsWith s

/-- What reading a spec gives: directives in order, the pattern, and the warnings. -/
structure Spec where
  directives : List Directive := []
  pattern : Option Pattern := none
  warnings : List String := []
deriving Inhabited, Repr

/-- Read one comma-separated piece, already trimmed and not empty. -/
def readDirective (piece : String) : Except String Directive :=
  match piece.splitOn "=" with
  | [only] =>
    match ceilingOf? only with
    | some c => .ok { scope := none, ceiling := c }
    | none => .ok { scope := some only, ceiling := some .trace }
  | [name, level] =>
    let level := Text.trimBlanks level
    if level.isEmpty then .ok { scope := some name, ceiling := some .trace }
    else match ceilingOf? level with
      | some c => .ok { scope := some name, ceiling := c }
      | none => .error ("invalid logging spec '" ++ level ++ "'")
  | _ => .error ("invalid logging spec '" ++ piece ++ "'")

/-- Read a filter spec. -/
def Spec.read (text : String) : Spec :=
  match text.splitOn "/" with
  | [] => {}
  | [mods] => readMods mods none
  | [mods, pattern] => readMods mods (some pattern)
  | _ => { warnings := ["invalid logging spec '" ++ text ++ "' (too many '/'s)"] }
where
  readMods (mods : String) (pattern : Option String) : Spec :=
    let pieces := (mods.splitOn ",").map Text.trimBlanks |>.filter (!·.isEmpty)
    let step := fun (s : Spec) (piece : String) =>
      match readDirective piece with
      | .ok d => { s with directives := s.directives ++ [d] }
      | .error w => { s with warnings := s.warnings ++ [w] }
    let s := pieces.foldl step {}
    match pattern.map Pattern.read with
    | none => s
    | some (.ok p) => { s with pattern := some p }
    | some (.error f) =>
      { s with warnings := s.warnings ++ ["invalid regex filter - " ++ f.render (pattern.getD "")] }

/-- Add a directive; one for the same scope is replaced where it stands. -/
def insertDirective (ds : List Directive) (d : Directive) : List Directive :=
  if ds.any (·.scope == d.scope) then ds.map (fun e => if e.scope == d.scope then d else e)
  else ds ++ [d]

/-- A filter ready for use: directives from the shortest scope to the longest. -/
structure Filter where
  directives : List Directive
  pattern : Option Pattern
deriving Inhabited, Repr

/-- Build the filter of a spec; a spec without directives shows errors only. -/
def Spec.filter (s : Spec) : Filter :=
  let ds := s.directives.foldl insertDirective []
  let ds := if ds.isEmpty then [{ scope := none, ceiling := some .error }]
    else ds.mergeSort (fun a b => decide (a.scopeLength ≤ b.scopeLength))
  { directives := ds, pattern := s.pattern }

/-- The filter shows a note of this severity from this origin with this text. -/
def Filter.shows (f : Filter) (n : Note) : Bool :=
  let byScope := match (f.directives.reverse.find? (·.covers n.origin)) with
    | some d => admits d.ceiling n.level
    | none => false
  byScope && match f.pattern with
    | some p => p.found n.text
    | none => true

end RadioFlash.Journal
