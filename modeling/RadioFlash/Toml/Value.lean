import RadioFlash.Binary64
/-!
# TOML documents as trees

A document is a tree of tables. Each table keeps its entries in the order they were made. A
node remembers the byte range it was written at, where it has one, so that a complaint about it
can point into the document.

Tables come in five forms, which decide what may still be added to them: tables written inline
(`{ … }`), subtables of those made by dotted keys, tables opened by a `[header]`, tables made
on the way to a deeper header (which a later header may still open), and tables made by dotted
keys (`a.b = 1`).

Floating-point numbers are kept as the double nearest to what was written; their text is the
shortest digits that name the same double, written out without an exponent.
-/

namespace RadioFlash.Toml

/-- A byte range of the document, end excluded. -/
structure Span where
  start : Nat
  stop : Nat
deriving DecidableEq, Inhabited, Repr

/-- A floating-point number. -/
inductive Floating where
  /-- A finite double with its sign. -/
  | finite (negative : Bool) (magnitude : Binary64)
  | infinite (negative : Bool)
  | nan
deriving Inhabited, Repr

/-- A key as written, with its place. -/
structure Key where
  name : String
  span : Span
  /-- The key as written, with its quotes and escapes. -/
  written : String := ""
deriving Inhabited, Repr

/-- How a table came to be. -/
inductive Form where
  /-- Written inline, between braces. -/
  | inline
  /-- Made inside an inline table by a dotted key. -/
  | inlineDotted
  /-- Opened by a header. -/
  | opened
  /-- Made on the way to a deeper header. -/
  | implied
  /-- Made by a dotted key. -/
  | dotted
deriving DecidableEq, Inhabited, Repr

namespace Form

/-- The table is a value, written inline. -/
def isInline : Form → Bool
  | inline | inlineDotted => true
  | _ => false

/-- The table was made by a dotted key. -/
def isDotted : Form → Bool
  | inlineDotted | dotted => true
  | _ => false

/-- The table was made without being written out, so a header may still claim it. -/
def isImplied : Form → Bool
  | implied | dotted | inlineDotted => true
  | _ => false

end Form

/-- A node of a document. -/
inductive Node where
  | string (s : String) (span : Span)
  | integer (n : Int) (span : Span)
  | float (x : Floating) (span : Span)
  | boolean (b : Bool) (span : Span)
  | datetime (text : String) (span : Span)
  | array (items : List Node) (span : Span)
  | table (entries : List (Key × Node)) (form : Form) (span : Option Span)
  /-- An array of tables, each opened by a `[[header]]`. -/
  | tables (items : List Node)
deriving Inhabited, Repr

namespace Node

/-- Where a table of an array of tables was written: from its header to its last value. -/
def tableSpan? : Node → Option Span
  | table _ _ s => s
  | _ => none

/-- Where the node was written, if it was; an array of tables stretches from its first table
to its last. -/
def span? : Node → Option Span
  | string _ s | integer _ s | float _ s | boolean _ s | datetime _ s | array _ s => some s
  | table _ _ s => s
  | tables items =>
    match items.head?.bind tableSpan?, items.getLast?.bind tableSpan? with
    | some first, some last => some ⟨first.start, last.stop⟩
    | _, _ => none

/-- The node with its place set; tables opened by headers and arrays of tables keep theirs. -/
def withSpan (n : Node) (sp : Span) : Node :=
  match n with
  | string s _ => string s sp
  | integer i _ => integer i sp
  | float x _ => float x sp
  | boolean b _ => boolean b sp
  | datetime t _ => datetime t sp
  | array xs _ => array xs sp
  | table es f _ => table es f (some sp)
  | tables ts => tables ts

/-- The node is a value: anything but a table that is not inline, or an array of tables. -/
def isValue : Node → Bool
  | table _ f _ => f.isInline
  | tables _ => false
  | _ => true

/-- The kind of a node, as messages name it. -/
def typeName : Node → String
  | string .. => "string"
  | integer .. => "integer"
  | float .. => "float"
  | boolean .. => "boolean"
  | datetime .. => "datetime"
  | array .. => "array"
  | table _ f _ => if f.isInline then "inline table" else "table"
  | tables _ => "array of tables"

end Node

/-- Find the entry of a key. -/
def lookup (entries : List (Key × Node)) (name : String) : Option Node :=
  (entries.find? (·.1.name == name)).map (·.2)

namespace Floating

/-- Digits written out around a decimal point, with no exponent. -/
def positional (digits : Nat) (exponent : Int) : String :=
  let ds := toString digits
  if exponent ≥ 0 then ds ++ String.ofList (List.replicate exponent.toNat '0')
  else
    let shift := (-exponent).toNat
    if shift ≥ ds.length then "0." ++ String.ofList (List.replicate (shift - ds.length) '0') ++ ds
    else String.ofList (ds.toList.take (ds.length - shift)) ++ "." ++
      String.ofList (ds.toList.drop (ds.length - shift))

/-- The number's text: the fewest digits, written out in full, with `.0` added to a whole
number; infinities are `inf` and `-inf`, and not-a-number is `NaN`. -/
def display : Floating → String
  | nan => "NaN"
  | infinite neg => if neg then "-inf" else "inf"
  | finite neg x =>
    let sign := if neg then "-" else ""
    let (d, e) := x.shortest
    let body := if d = 0 then "0" else positional d e
    sign ++ body ++ (if body.contains '.' then "" else ".0")

end Floating

end RadioFlash.Toml
