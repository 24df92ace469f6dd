import Tabular.Pattern.Search
import Tabular.Pattern.Size

set_option autoImplicit false

/-! # Pattern engines

Filters leave patterns to an engine. It reads the text of a pattern, refuses one that is too large,
and says whether a pattern matches somewhere in a text. Nothing about filters depends on how an
engine does this; the one that runs is `PatternEngine.standard`.
-/

namespace Tabular

/-- A **pattern engine**. -/
structure PatternEngine where
  /-- What the text of a pattern is read as. -/
  Compiled : Type
  /-- Reads the text of a pattern, whose letters may match in both cases. -/
  read? (ignoreCase : Bool) (text : List Char) : Option Compiled
  /-- Whether a pattern is not too large. -/
  fits : Compiled → Bool
  /-- Whether a pattern matches somewhere in a text. -/
  occursIn : Compiled → List Char → Bool

namespace PatternEngine

/-- Compiles the text of a pattern. A text that is no pattern, or one that is too large, gives
none. -/
def compile? (E : PatternEngine) (ignoreCase : Bool) (text : List Char) : Option E.Compiled :=
  (E.read? ignoreCase text).filter E.fits

/-- The engine that reads texts as patterns of this library and searches for these. -/
@[reducible] def standard : PatternEngine where
  Compiled := Pattern
  read? ignoreCase := Pattern.read? { ignoreCase }
  fits := Pattern.fits
  occursIn := Pattern.occursIn

end PatternEngine

end Tabular
