import RadioFlash.Text.Hex
import RadioFlash.Text.GraphemeExtend
/-!
# Quoted text in diagnostics

Notes and some messages show a character in single quotes and a text in double quotes, with
escapes: `\t`, `\r`, `\n`, `\0`, the backslash and the active quote mark get a backslash, and a
character that does not print, or that attaches to the character before it, is written
`\u{hex}` in lower-case hexadecimal.
-/

namespace RadioFlash.Text

/-- The character is shown escaped: it attaches to the one before it, or leaves no mark. -/
def hidden (c : Char) : Bool :=
  extendsGrapheme c || unprintable c

/-- The escaped form of one character; `quote` is the active quote mark. -/
def escapeChar (quote : Char) (c : Char) : String :=
  if c = '\t' then "\\t"
  else if c = '\r' then "\\r"
  else if c = '\n' then "\\n"
  else if c = '\x00' then "\\0"
  else if c = '\\' then "\\\\"
  else if c = quote then "\\" ++ c.toString
  else if hidden c then "\\u\x7b" ++ hexPadded false 1 c.toNat ++ "\x7d"
  else c.toString

/-- A character in single quotes, escaped. -/
def quoteChar (c : Char) : String :=
  "'" ++ escapeChar '\'' c ++ "'"

/-- A text in double quotes, escaped. -/
def quoteText (s : String) : String :=
  "\"" ++ String.join (s.toList.map (escapeChar '"')) ++ "\""

end RadioFlash.Text
