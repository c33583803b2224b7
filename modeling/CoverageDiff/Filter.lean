import CoverageDiff.Pattern.Basic
import CoverageDiff.Project
import CoverageDiff.Text.Quoted

/-!
# CoverageDiff.Filter

Selecting classes by name.

1. A class passes if one of the include patterns matches its whole name, or
   there are none, and no exclude pattern does.
2. Patterns are trimmed; blank ones and repetitions are dropped.
3. A filter can be given as one text of words: include patterns, then the
   word `-exclude` and exclude patterns.
-/

namespace CoverageDiff

/-- A pattern that is not a regular expression. -/
structure FilterError where
  pattern : String
  /-- What is wrong with it. -/
  cause : Pattern.ReadError
  deriving DecidableEq

namespace FilterError

/-- The wording of an error. -/
def message (e : FilterError) : String :=
  match e.cause with
  | .boundTooLarge => "the repetition number is too large"
  | .boundTooLong count => Text.tooManyDigits (some count)
  | .flagsConflict => "ASCII and UNICODE flags are incompatible"
  | _ => "invalid class pattern " ++ Text.quote e.pattern

end FilterError

/-- Patterns that class names are selected by. -/
structure ClassFilter where
  /-- One of these has to match, unless there are none. -/
  included : List Pattern := []
  /-- None of these may match. -/
  excluded : List Pattern := []
  deriving DecidableEq

/-- The texts that a filter is made from. -/
structure FilterPlan where
  /-- Include patterns. -/
  included : List String := []
  /-- Exclude patterns. -/
  excluded : List String := []
  deriving DecidableEq

namespace FilterPlan

/-- The word that exclude patterns follow. -/
def excludeMarker : String := "-exclude"

/-- Include and exclude patterns given as one text. -/
def ofText (text : String) : FilterPlan :=
  let words := Text.wordsOf text
  ⟨words.takeWhile (· != excludeMarker),
    (words.dropWhile (· != excludeMarker)).filter (· != excludeMarker)⟩

/-- The patterns of both. -/
def append (a b : FilterPlan) : FilterPlan :=
  ⟨a.included ++ b.included, a.excluded ++ b.excluded⟩

end FilterPlan

namespace ClassFilter

/-! ## Making a filter -/

/-- The texts that become patterns: trimmed, not blank, each once. -/
def keptTexts (texts : List String) : List String :=
  ((texts.map Text.trimmed).filter fun t => t != "").eraseDups

/-- The pattern of a text. -/
def pattern? (text : String) : Except FilterError Pattern :=
  (Pattern.ofText? text).mapError fun cause => ⟨text, cause⟩

/-- The patterns of a list of texts. -/
def patterns? (texts : List String) : Except FilterError (List Pattern) :=
  (keptTexts texts).mapM pattern?

/-- The filter of a plan. -/
def ofPlan? (plan : FilterPlan) : Except FilterError ClassFilter := do
  return ⟨← patterns? plan.included, ← patterns? plan.excluded⟩

/-! ## Selecting -/

/-- Whether a filter has no patterns. -/
def isEmpty (f : ClassFilter) : Bool :=
  f.included.isEmpty && f.excluded.isEmpty

/-- Whether a class name passes. -/
def allow (f : ClassFilter) (name : String) : Bool :=
  (f.included.isEmpty || f.included.any fun p => p.matchesWhole name)
    && !f.excluded.any fun p => p.matchesWhole name

end ClassFilter

/-- The project with only the classes that a filter lets pass. -/
def Project.select (p : Project) (f : ClassFilter) : Project :=
  p.filter f.allow

end CoverageDiff
