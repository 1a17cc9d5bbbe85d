import RadioFlash.Journal.Pattern.Reader
import RadioFlash.Journal.Pattern.Meaning
import RadioFlash.Journal.Pattern.Fault
import RadioFlash.Journal.Pattern.Size
/-!
# Message patterns

The part of a filter spec after `/` is a regular expression, and a note is shown only when some
part of its text matches it. A pattern is read into its written form, given its meaning under
its flags, and then used for matching; it is refused when it cannot be read, when a part has no
meaning without Unicode's tables, when it needs word boundaries by Unicode's idea of a word, or
when its automaton grows past the size limit. The forward automaton is built first, then the
word boundaries are looked at, then the backward automaton is built.
-/

namespace RadioFlash.Journal

/-- Read a pattern and settle its meaning, or say why it is refused. -/
def Pattern.read (text : String) : Except PatternFault Pattern := do
  let t ← Tree.read text
  let (p, _) ← t.meaning {}
  if sizeLimit < p.forwardBytes then throw (.tooBig sizeLimit)
  if p.needsUnicodeWords then throw .wordsUnavailable
  if sizeLimit < p.backwardBytes then throw (.tooBig sizeLimit)
  pure p

end RadioFlash.Journal
