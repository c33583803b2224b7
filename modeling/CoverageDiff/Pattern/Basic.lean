import CoverageDiff.Pattern.Match
import CoverageDiff.Pattern.Reader

/-!
# CoverageDiff.Pattern.Basic

A pattern: a regular expression together with the text it was read from.
-/

namespace CoverageDiff

/-- A regular expression that was read from a text. -/
structure Pattern where
  /-- The text. -/
  source : String
  /-- The flags for the whole expression. -/
  flags : Pattern.Flags
  /-- The expression. -/
  expr : Pattern.Expr
  deriving DecidableEq

namespace Pattern

/-- The pattern that a text denotes. -/
def ofText? (source : String) : Except ReadError Pattern :=
  (readExpr? source.toList).map fun (flags, expr) => ⟨source, flags, expr⟩

/-- Whether a pattern matches the whole of a text. -/
def matchesWhole (p : Pattern) (text : String) : Bool :=
  p.expr.matchesWhole p.flags text.toList

end Pattern

end CoverageDiff
