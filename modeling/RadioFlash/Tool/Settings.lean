import RadioFlash.Toml.Document
import RadioFlash.Link.Basic
import RadioFlash.Target.CommandMode
import RadioFlash.Text.Quote
/-!
# The flasher's settings files

A settings file is a TOML document with three optional sections:

* `connection`: `port` (a text) and `reset_line` (`"dtr"` or `"none"`);
* `atmode`: `guard_time_ms` and `idle_timeout` (whole numbers below 2³²) and `escape_char` (one
  character);
* `install`: `force` (a boolean).

Other keys are ignored. A section may also be written as an array giving its fields in order;
a date-time in place of a section leaves it empty. Fields are read in the order the document
gives them, and the first one of the wrong type is the complaint, pointing at its value.

Settings from several files are merged: a field given later wins, and `force` is kept once set.
-/

namespace RadioFlash.Tool

open Toml

/-- Settings read from configuration files. -/
structure Settings where
  port : Option String := none
  resetLine : Option ResetLine := none
  guardTimeMs : Option UInt32 := none
  idleTimeout : Option UInt32 := none
  escapeChar : Option Char := none
  force : Bool := false
deriving Inhabited, Repr

namespace Settings

/-- Lay `later` over `s`: the fields `later` gives win, and `force` stays once set. -/
def merge (s later : Settings) : Settings where
  port := later.port <|> s.port
  resetLine := later.resetLine <|> s.resetLine
  guardTimeMs := later.guardTimeMs <|> s.guardTimeMs
  idleTimeout := later.idleTimeout <|> s.idleTimeout
  escapeChar := later.escapeChar <|> s.escapeChar
  force := s.force || later.force

/-- The command-mode settings, defaults filling the gaps; the escape character must be ASCII. -/
def atConfig (s : Settings) : Except String AtConfig :=
  let base : AtConfig := {}
  match s.escapeChar with
  | some c =>
    if c.toNat < 128 then
      .ok { guardTimeMs := s.guardTimeMs.getD base.guardTimeMs,
            idleTimeout := s.idleTimeout.getD base.idleTimeout, escapeChar := c.toNat.toUInt8 }
    else .error ("escape_char " ++ Text.quoteChar c ++ " is not an ASCII character")
  | none =>
    .ok { guardTimeMs := s.guardTimeMs.getD base.guardTimeMs,
          idleTimeout := s.idleTimeout.getD base.idleTimeout, escapeChar := base.escapeChar }

end Settings

/-- What a node is, as complaints about types describe it. -/
def describeNode : Node → String
  | .string s _ => "string " ++ Text.quoteText s
  | .integer n _ => "integer `" ++ toString n ++ "`"
  | .float x _ => "floating point `" ++ x.display ++ "`"
  | .boolean b _ => "boolean `" ++ (if b then "true" else "false") ++ "`"
  | .datetime .. | .table .. => "map"
  | .array .. | .tables .. => "sequence"

/-- A complaint that a node is not of the expected type. -/
def wrongType (n : Node) (expected : String) : Complaint :=
  { message := "invalid type: " ++ describeNode n ++ ", expected " ++ expected, span := n.span? }

/-- A complaint about a node without a place gets the node's place, or the key's. -/
def placed (k : Key) (n : Node) (c : Complaint) : Complaint :=
  match c.span with
  | some _ => c
  | none => { c with span := some ((n.span?).getD k.span) }

/-- A text. -/
def readText (n : Node) : Except Complaint String :=
  match n with
  | .string s _ => .ok s
  | _ => .error (wrongType n "a string")

/-- A whole number below 2³². -/
def readWord (n : Node) : Except Complaint UInt32 :=
  match n with
  | .integer v sp =>
    if 0 ≤ v ∧ v < 4294967296 then .ok v.toNat.toUInt32
    else .error { message := "invalid value: integer `" ++ toString v ++ "`, expected u32", span := some sp }
  | _ => .error (wrongType n "u32")

/-- One character. -/
def readChar (n : Node) : Except Complaint Char :=
  match n with
  | .string s sp =>
    match s.toList with
    | [c] => .ok c
    | _ => .error { message := "invalid value: string " ++ Text.quoteText s ++ ", expected a character",
                    span := some sp }
  | _ => .error (wrongType n "a character")

/-- A boolean. -/
def readBool (n : Node) : Except Complaint Bool :=
  match n with
  | .boolean b _ => .ok b
  | _ => .error (wrongType n "a boolean")

/-- A reset line named by its variant. -/
def resetVariant (name : String) (sp : Option Span) : Except Complaint ResetLine :=
  match name with
  | "dtr" => .ok .dtr
  | "none" => .ok .unwired
  | _ => .error { message := "unknown variant `" ++ name ++ "`, expected `dtr` or `none`", span := sp }

/-- The body of a variant without data: empty, or a complaint. An array of tables is never
empty; an array with items is refused as a table that is not empty. -/
def unitBody (n : Node) : Except Complaint Unit :=
  match n with
  | .array [] _ | .tables [] | .table [] _ _ => .ok ()
  | .array _ sp => .error { message := "expected empty table", span := some sp }
  | .tables _ => .error { message := "expected empty array", span := n.span? }
  | .table _ _ sp => .error { message := "expected empty table", span := sp }
  | other => .error { message := "expected table, found " ++ other.typeName, span := other.span? }

/-- A reset line: its name, or a table with the name as its only key, which is where an unknown
name is pointed at. -/
def readResetLine (n : Node) : Except Complaint ResetLine :=
  match n with
  | .string s sp => resetVariant s (some sp)
  | .table entries _ sp =>
    match entries with
    | [] => .error { message := "wanted exactly 1 element, found 0 elements", span := sp }
    | (k, body) :: rest =>
      if !rest.isEmpty then
        .error { message := "wanted exactly 1 element, more than 1 element", span := sp }
      else do
        let line ← resetVariant k.name (some k.span)
        match unitBody body with
        | .ok () => .ok line
        | .error c => .error { c with span := c.span <|> sp }
  | _ => .error { message := "wanted string or table", span := n.span? }

/-- The fields of a section, each with its reader into the settings. -/
abbrev Fields := List (String × (Node → Settings → Except Complaint Settings))

/-- Read the fields of a section from a table, in the document's order. -/
def readEntries (fields : Fields) (entries : List (Key × Node)) (s : Settings) :
    Except Complaint Settings :=
  entries.foldlM (fun s (k, n) =>
    match fields.find? (·.1 == k.name) with
    | some (_, f) =>
      match f n s with
      | .ok s' => .ok s'
      | .error c => .error (placed k n c)
    | none => .ok s) s

/-- Read the fields of a section from an array, element by element in the section's order; a
missing element is a complaint when the section's fields are `required`. -/
def readSequence (what : String) (required : Bool) (fields : Fields) (items : List Node)
    (sp : Option Span) (s : Settings) : Except Complaint Settings :=
  (fields.zipIdx).foldlM (fun s ((_, f), i) =>
    match items[i]? with
    | some n =>
      match f n s with
      | .ok s' => .ok s'
      | .error c => .error { c with span := c.span <|> n.span? <|> sp }
    | none =>
      if required then
        .error { message := "invalid length " ++ toString i ++ ", expected " ++ what ++
                   " with " ++ toString fields.length ++ " elements", span := sp }
      else .ok s) s

/-- Read a section. -/
def readSection (what : String) (required : Bool) (fields : Fields) (n : Node) (s : Settings) :
    Except Complaint Settings :=
  match n with
  | .table entries _ _ => readEntries fields entries s
  | .datetime .. => .ok s
  | .array items sp => readSequence what required fields items (some sp) s
  | .tables items => readSequence what required fields items none s
  | _ => .error (wrongType n what)

/-- The fields of the `connection` section. -/
def connectionFields : Fields := [
  ("port", fun n s => do let v ← readText n; pure { s with port := some v }),
  ("reset_line", fun n s => do let v ← readResetLine n; pure { s with resetLine := some v })]

/-- The fields of the `atmode` section. -/
def atmodeFields : Fields := [
  ("guard_time_ms", fun n s => do let v ← readWord n; pure { s with guardTimeMs := some v }),
  ("idle_timeout", fun n s => do let v ← readWord n; pure { s with idleTimeout := some v }),
  ("escape_char", fun n s => do let v ← readChar n; pure { s with escapeChar := some v })]

/-- The fields of the `install` section. -/
def installFields : Fields := [
  ("force", fun n s => do let v ← readBool n; pure { s with force := v })]

/-- The sections of a settings file. -/
def sections : Fields := [
  ("connection", readSection "struct ConnectionConfig" true connectionFields),
  ("atmode", readSection "struct AtModeSection" true atmodeFields),
  ("install", readSection "struct InstallConfig" false installFields)]

/-- Read settings from the text of a file. -/
def Settings.parse (text : String) : Except Complaint Settings := do
  let root ← parseDocument text
  readEntries sections root {}

end RadioFlash.Tool
