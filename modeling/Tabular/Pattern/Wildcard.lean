import Tabular.Pattern.Escape

set_option autoImplicit false

/-! # Wildcards

In a wildcard text `%` stands for any run of characters and `_` for any one character; all other
characters stand for themselves. A wildcard text is matched against a whole text. It is turned into
the text of a pattern that is anchored at both ends, in which every character that would mean
something is escaped.
-/

namespace Tabular.Wildcard

/-- The pattern text for one character of a wildcard text. -/
def patternOf (c : Char) : List Char :=
  if c = '%' then ['.', '*']
  else if c = '_' then ['.']
  else if isMeta c then ['\\', c]
  else [c]

/-- The text of the pattern that a wildcard text stands for. -/
def patternText (text : List Char) : List Char := '^' :: (text.flatMap patternOf ++ ['$'])

end Tabular.Wildcard
