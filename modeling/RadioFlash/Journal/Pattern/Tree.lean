/-!
# The written form of a message pattern

A message pattern is first read into a tree that keeps, for every part, the stretch of the
pattern it was written at, so that a part that cannot be given a meaning can be pointed at.
Stretches count characters from the start of the pattern.

The tree follows the text closely: a sequence of parts, alternatives, groups (capturing, named,
or plain with flags), flags that hold for the rest of their group, repetitions, characters
with how they were written, `.`, assertions, the class escapes `\d`, `\s`, `\w` and `\p`, and
bracketed classes. A bracketed class holds a union of members, or a set operation (`&&`, `--`,
`~~`) between two such bodies; members are characters, ranges, named ASCII classes, class
escapes and nested brackets.

A pattern that is refused carries a `Flaw`, the stretch at fault, and for a clash the stretch
it clashes with.
-/

namespace RadioFlash.Journal

/-- A stretch of a pattern, by character index, end excluded. -/
structure Extent where
  start : Nat
  stop : Nat
deriving DecidableEq, Inhabited, Repr

/-- A character written in a pattern; `byteEscape` marks one written as `\xNN`, which names a
byte rather than a character when Unicode is off. -/
structure Literal where
  place : Extent
  char : Char
  byteEscape : Bool := false
deriving Inhabited, Repr

/-- The named classes of ASCII characters, written `[:name:]` inside brackets. -/
inductive AsciiClass where
  | alnum | alpha | ascii | blank | cntrl | digit | graph | lower | print | punct | space
  | upper | word | xdigit
deriving DecidableEq, Inhabited, Repr

/-- The class escapes: `\d` digits, `\s` white space, `\w` word characters. -/
inductive PerlClass where
  | digit | space | word
deriving DecidableEq, Inhabited, Repr

/-- A Unicode property as `\p` names it: one letter, a name, or a name with a value. -/
inductive PropertyQuery where
  | oneLetter (c : Char)
  | named (name : String)
  | namedValue (name value : String)
deriving Inhabited, Repr

/-- The set operations inside brackets. -/
inductive SetOp where
  | intersection | difference | symmetricDifference
deriving DecidableEq, Inhabited, Repr

/-- The assertions: `^`, `$`, `\A`, `\z`, `\b`, `\B`, and the word edges `\b{start}`, `\<`,
`\b{end}`, `\>`, `\b{start-half}` and `\b{end-half}`. -/
inductive Assertion where
  | lineStart | lineEnd | textStart | textEnd | wordBoundary | notWordBoundary
  | wordStart | wordEnd | wordStartHalf | wordEndHalf
deriving DecidableEq, Inhabited, Repr

/-- The flags: `i` either case, `m` lines, `s` dot matches a line feed, `U` lazy by default,
`u` Unicode, `R` lines end in CR LF, `x` blanks and comments ignored. -/
inductive Flag where
  | caseless | multiLine | dotAll | swapGreed | unicode | crlf | verbose
deriving DecidableEq, Inhabited, Repr

/-- The body of a bracketed class. -/
inductive SetTree where
  | empty (place : Extent)
  | literal (lit : Literal)
  | range (place : Extent) (lo hi : Literal)
  | ascii (place : Extent) (kind : AsciiClass) (negated : Bool)
  | property (place : Extent) (negated : Bool) (query : PropertyQuery)
  | perl (place : Extent) (kind : PerlClass) (negated : Bool)
  | bracket (place : Extent) (negated : Bool) (body : SetTree)
  | union (place : Extent) (items : List SetTree)
  | op (place : Extent) (kind : SetOp) (lhs rhs : SetTree)
deriving Inhabited, Repr

/-- Where a member of a class was written. -/
def SetTree.place : SetTree → Extent
  | empty p | range p .. | ascii p .. | property p .. | perl p .. | bracket p .. | union p _
  | op p .. => p
  | literal lit => lit.place

/-- What a group is: capturing, capturing under a name, or plain with flags of its own. -/
inductive GroupKind where
  | capture
  | named (name : String)
  | plain (flags : List (Flag × Bool))
deriving Inhabited, Repr

/-- A pattern as written. Flags are kept as each flag with whether it is turned on. -/
inductive Tree where
  | empty (place : Extent)
  | flags (place : Extent) (flags : List (Flag × Bool))
  | literal (lit : Literal)
  | dot (place : Extent)
  | assertion (place : Extent) (kind : Assertion)
  | property (place : Extent) (negated : Bool) (query : PropertyQuery)
  | perl (place : Extent) (kind : PerlClass) (negated : Bool)
  | bracket (place : Extent) (negated : Bool) (body : SetTree)
  | repetition (place : Extent) (least : Nat) (most : Option Nat) (body : Tree)
  | group (place : Extent) (kind : GroupKind) (body : Tree)
  | alternation (place : Extent) (branches : List Tree)
  | concat (place : Extent) (parts : List Tree)
deriving Inhabited, Repr

/-- Where a part was written. -/
def Tree.place : Tree → Extent
  | empty p | flags p _ | dot p | assertion p _ | property p .. | perl p .. | bracket p ..
  | repetition p .. | group p .. | alternation p _ | concat p _ => p
  | literal lit => lit.place

/-- Why a pattern is refused. -/
inductive Flaw where
  | classEscapeInvalid
  | classRangeInvalid
  | classRangeLiteral
  | classUnclosed
  | decimalInvalid
  | hexEmpty
  | hexInvalid
  | hexInvalidDigit
  | escapeUnexpectedEnd
  | escapeUnrecognized
  | flagDanglingNegation
  | flagDuplicate
  | flagRepeatedNegation
  | flagUnexpectedEnd
  | flagUnrecognized
  | groupNameDuplicate
  | groupNameEmpty
  | groupNameInvalid
  | groupNameUnexpectedEnd
  | groupUnclosed
  | groupUnopened
  | nestLimitExceeded (limit : Nat)
  | repetitionCountInvalid
  | repetitionCountDecimalEmpty
  | repetitionCountUnclosed
  | repetitionMissing
  | specialWordBoundaryUnclosed
  | specialWordBoundaryUnrecognized
  | specialWordOrRepetitionUnexpectedEnd
  | unicodeClassInvalid
  | backreference
  | lookAround
  | unicodeNotAllowed
  | invalidUtf8
  | propertyNotFound
  | propertyValueNotFound
  | perlClassUnavailable
  | caseFoldingUnavailable
deriving DecidableEq, Inhabited, Repr

/-- The wording of a flaw. -/
def Flaw.message : Flaw → String
  | classEscapeInvalid => "invalid escape sequence found in character class"
  | classRangeInvalid => "invalid character class range, the start must be <= the end"
  | classRangeLiteral => "invalid range boundary, must be a literal"
  | classUnclosed => "unclosed character class"
  | decimalInvalid => "decimal literal invalid"
  | hexEmpty => "hexadecimal literal empty"
  | hexInvalid => "hexadecimal literal is not a Unicode scalar value"
  | hexInvalidDigit => "invalid hexadecimal digit"
  | escapeUnexpectedEnd => "incomplete escape sequence, reached end of pattern prematurely"
  | escapeUnrecognized => "unrecognized escape sequence"
  | flagDanglingNegation => "dangling flag negation operator"
  | flagDuplicate => "duplicate flag"
  | flagRepeatedNegation => "flag negation operator repeated"
  | flagUnexpectedEnd => "expected flag but got end of regex"
  | flagUnrecognized => "unrecognized flag"
  | groupNameDuplicate => "duplicate capture group name"
  | groupNameEmpty => "empty capture group name"
  | groupNameInvalid => "invalid capture group character"
  | groupNameUnexpectedEnd => "unclosed capture group name"
  | groupUnclosed => "unclosed group"
  | groupUnopened => "unopened group"
  | nestLimitExceeded limit =>
    "exceed the maximum number of nested parentheses/brackets (" ++ toString limit ++ ")"
  | repetitionCountInvalid => "invalid repetition count range, the start must be <= the end"
  | repetitionCountDecimalEmpty => "repetition quantifier expects a valid decimal"
  | repetitionCountUnclosed => "unclosed counted repetition"
  | repetitionMissing => "repetition operator missing expression"
  | specialWordBoundaryUnclosed =>
    "special word boundary assertion is either unclosed or contains an invalid character"
  | specialWordBoundaryUnrecognized =>
    "unrecognized special word boundary assertion, valid choices are: start, end, start-half or end-half"
  | specialWordOrRepetitionUnexpectedEnd =>
    "found either the beginning of a special word boundary or a bounded repetition on a \\b with an opening brace, but no closing brace"
  | unicodeClassInvalid => "invalid Unicode character class"
  | backreference => "backreferences are not supported"
  | lookAround => "look-around, including look-ahead and look-behind, is not supported"
  | unicodeNotAllowed => "Unicode not allowed here"
  | invalidUtf8 => "pattern can match invalid UTF-8"
  | propertyNotFound => "Unicode property not found"
  | propertyValueNotFound => "Unicode property value not found"
  | perlClassUnavailable =>
    "Unicode-aware Perl class not found (make sure the unicode-perl feature is enabled)"
  | caseFoldingUnavailable =>
    "Unicode-aware case insensitivity matching is not available (make sure the unicode-case feature is enabled)"

/-- Why a pattern cannot be used. -/
inductive PatternFault where
  /-- The pattern breaks a rule: the flaw, the stretch at fault, and for a clash the stretch
  it clashes with. -/
  | rejected (flaw : Flaw) (place : Extent) (other : Option Extent)
  /-- The pattern needs word boundaries by Unicode's idea of a word, which are not available. -/
  | wordsUnavailable
  /-- The automaton built from the pattern would take more memory than the limit, in bytes. -/
  | tooBig (limit : Nat)
deriving Inhabited, Repr

end RadioFlash.Journal
