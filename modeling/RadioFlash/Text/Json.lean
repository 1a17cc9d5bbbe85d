/-!
# JSON documents

The commands' machine-readable answers are JSON documents written in the indented layout: each
element of a non-empty array and each member of a non-empty object on a line of its own,
indented by two blanks per level, a member written `"key": value`, and empty containers written
`[]` and `{}`.

Objects hold their members in increasing key order; `Json.record` sorts them when the object is
built, so the writer keeps the order it is given. Strings escape the quote, the backslash and
the control characters below the blank, using the short escapes where they exist; all other
characters stand for themselves.
-/

namespace RadioFlash.Text

/-- A JSON value whose numbers are natural numbers. -/
inductive Json where
  | null
  | bool (b : Bool)
  | num (n : Nat)
  | str (s : String)
  | arr (items : List Json)
  | obj (members : List (String × Json))
deriving Inhabited, Repr

namespace Json

/-- An object with its members sorted by key. -/
def record (members : List (String × Json)) : Json :=
  .obj (members.mergeSort (fun a b => decide (a.1 ≤ b.1)))

/-- A value or `null`. -/
def opt (f : α → Json) : Option α → Json
  | some a => f a
  | none => .null

/-- A hexadecimal digit, in lower case. -/
def hexDigit (n : Nat) : Char :=
  if n < 10 then Char.ofNat (48 + n) else Char.ofNat (87 + n)

/-- The escaped form of one character inside a string. -/
def escapeChar (c : Char) : String :=
  match c with
  | '"' => "\\\""
  | '\\' => "\\\\"
  | '\n' => "\\n"
  | '\r' => "\\r"
  | '\t' => "\\t"
  | '\x08' => "\\b"
  | '\x0c' => "\\f"
  | c =>
    if c.toNat < 32 then
      "\\u00" ++ String.ofList [hexDigit (c.toNat / 16), hexDigit (c.toNat % 16)]
    else String.singleton c

/-- A string in quotes, escaped. -/
def quote (s : String) : String :=
  "\"" ++ String.join (s.toList.map escapeChar) ++ "\""

/-- Blanks for a nesting depth. -/
def pad (depth : Nat) : String :=
  String.ofList (List.replicate (2 * depth) ' ')

mutual

/-- A value at nesting depth `d`, without leading blanks. -/
def pretty (d : Nat) : Json → String
  | .null => "null"
  | .bool b => if b then "true" else "false"
  | .num n => toString n
  | .str s => quote s
  | .arr [] => "[]"
  | .arr (x :: xs) => "[\n" ++ ",\n".intercalate (prettyItems (d + 1) (x :: xs)) ++ "\n" ++ pad d ++ "]"
  | .obj [] => "\x7b\x7d"
  | .obj (m :: ms) =>
    "\x7b\n" ++ ",\n".intercalate (prettyMembers (d + 1) (m :: ms)) ++ "\n" ++ pad d ++ "\x7d"

/-- Array elements at depth `d`, each with its indentation. -/
def prettyItems (d : Nat) : List Json → List String
  | [] => []
  | x :: xs => (pad d ++ pretty d x) :: prettyItems d xs

/-- Object members at depth `d`, each with its indentation. -/
def prettyMembers (d : Nat) : List (String × Json) → List String
  | [] => []
  | m :: ms => prettyMember d m :: prettyMembers d ms

/-- One member at depth `d`. -/
def prettyMember (d : Nat) : String × Json → String
  | (k, v) => pad d ++ quote k ++ ": " ++ pretty d v

end

/-- A whole document in the indented layout. -/
def render (j : Json) : String :=
  pretty 0 j

end Json

end RadioFlash.Text
