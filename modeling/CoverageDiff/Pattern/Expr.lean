import CoverageDiff.Text.Blank
import CoverageDiff.Text.Digit
import CoverageDiff.Text.Letters

/-!
# CoverageDiff.Pattern.Expr

Regular expressions: their parts, which characters a set holds, and how long
the texts are that an expression matches.

1. Without regard to case, two characters are alike if their small letters
   are the same or share a capital.
2. With the flag for ASCII, the named classes and rule 1 know ASCII only.
-/

namespace CoverageDiff.Pattern

open Text

/-! ## Flags -/

/-- What changes the reading of an expression. -/
structure Flags where
  /-- Case does not matter. -/
  ignoreCase : Bool := false
  /-- Anchors match at line ends. -/
  multiLine : Bool := false
  /-- The dot matches line ends. -/
  dotAll : Bool := false
  /-- Blanks and comments in the expression are skipped. -/
  verbose : Bool := false
  /-- Named classes know ASCII only. -/
  ascii : Bool := false
  /-- Named classes know all characters; this is the rule, and said only for emphasis. -/
  unicode : Bool := false
  deriving DecidableEq

namespace Flags

/-- The flag of a letter. -/
def ofLetter? : Char → Option Flags
  | 'i' => some { ignoreCase := true }
  | 'm' => some { multiLine := true }
  | 's' => some { dotAll := true }
  | 'x' => some { verbose := true }
  | 'a' => some { ascii := true }
  | 'u' => some { unicode := true }
  | _ => none

/-- The flags of either side. -/
def union (a b : Flags) : Flags where
  ignoreCase := a.ignoreCase || b.ignoreCase
  multiLine := a.multiLine || b.multiLine
  dotAll := a.dotAll || b.dotAll
  verbose := a.verbose || b.verbose
  ascii := a.ascii || b.ascii
  unicode := a.unicode || b.unicode

/-- Whether a flag is on both sides. -/
def meets (a b : Flags) : Bool :=
  a.ignoreCase && b.ignoreCase || a.multiLine && b.multiLine || a.dotAll && b.dotAll
    || a.verbose && b.verbose || a.ascii && b.ascii || a.unicode && b.unicode

/-- The flags without those of `b`. -/
def without (a b : Flags) : Flags where
  ignoreCase := a.ignoreCase && !b.ignoreCase
  multiLine := a.multiLine && !b.multiLine
  dotAll := a.dotAll && !b.dotAll
  verbose := a.verbose && !b.verbose
  ascii := a.ascii && !b.ascii
  unicode := a.unicode && !b.unicode

/-- The flags inside a part that switches some on and some off. -/
def change (flags on off : Flags) : Flags :=
  let base := if on.ascii || on.unicode then { flags with ascii := false, unicode := false }
    else flags
  (base.union on).without off

end Flags

/-! ## Sets of characters -/

/-- A named class of characters. -/
inductive Category where
  /-- Decimal digits. -/
  | digit
  | blank
  /-- Letters, numbers and the underscore. -/
  | word
  deriving DecidableEq

/-- Whether a character is in a named class. -/
def Category.holds (flags : Flags) (category : Category) (c : Char) : Bool :=
  match category with
  | digit => if flags.ascii then c.isDigit else (digitValue? c).isSome
  | blank => if flags.ascii then [9, 10, 11, 12, 13, 32].contains c.toNat else isBlank c
  | word => c == '_' || if flags.ascii then c.isAlphanum else isLetterOrNumber c

/-- A part of a set of characters. -/
inductive SetItem where
  /-- A single character, by code point. -/
  | code (n : Nat)
  /-- All characters from one to another. -/
  | range (lo hi : Nat)
  /-- A named class, or its complement. -/
  | category (c : Category) (negated : Bool)
  deriving DecidableEq

/-- A set of characters. -/
inductive CharSet where
  /-- Any character but a line feed. -/
  | any
  /-- What the items hold, or, negated, all the rest. -/
  | items (negated : Bool) (items : List SetItem)
  deriving DecidableEq

namespace CharSet

/-- The code point of a small letter. -/
def foldCode (flags : Flags) (n : Nat) : Nat :=
  if flags.ascii then (if 65 ≤ n ∧ n ≤ 90 then n + 32 else n) else lowerCode n

/-- The small letters that are like a small letter, itself included. -/
def likes (flags : Flags) (n : Nat) : List Nat :=
  if flags.ascii then [n] else (siblingGroups.find? fun group => group.contains n).getD [n]

/-- The code points whose small letter is `n`. -/
def sources (flags : Flags) (n : Nat) : List Nat :=
  if flags.ascii then (if 97 ≤ n ∧ n ≤ 122 then [n, n - 32] else [n])
  else
    n :: lowerRuns.filterMap fun (first, last, step, distance) =>
      let source := ((n : Int) - distance).toNat
      if first ≤ source ∧ source ≤ last ∧ (source - first) % step = 0 then some source else none

/-- Whether an item holds a character. -/
def itemHolds (flags : Flags) (c : Char) : SetItem → Bool
  | .code n =>
    if flags.ignoreCase then (likes flags (foldCode flags n)).contains (foldCode flags c.toNat)
    else c.toNat == n
  | .range lo hi =>
    if flags.ignoreCase then
      ((likes flags (foldCode flags c.toNat)).flatMap (sources flags)).any fun n =>
        decide (lo ≤ n) && decide (n ≤ hi)
    else decide (lo ≤ c.toNat) && decide (c.toNat ≤ hi)
  | .category category negated =>
    let c := if flags.ignoreCase then Char.ofNat (foldCode flags c.toNat) else c
    category.holds flags c != negated

/-- Whether a set holds a character. -/
def holds (flags : Flags) (c : Char) : CharSet → Bool
  | any => flags.dotAll || c != '\n'
  | items negated is => is.any (itemHolds flags c) != negated

end CharSet

/-! ## Expressions -/

/-- A condition on a position. -/
inductive Anchor where
  /-- The start of the text, or of a line. -/
  | start
  /-- The end of the text or before a final line feed, or the end of a line. -/
  | finish
  | textStart
  | textEnd
  /-- Between a word character and another, or, negated, nowhere such. -/
  | wordEdge (negated : Bool)
  deriving DecidableEq

/-- In which order numbers of repetitions are tried. -/
inductive Greed where
  /-- Many first. -/
  | greedy
  /-- Few first. -/
  | lazy
  /-- As many as possible and no other number. -/
  | possessive
  deriving DecidableEq

/-- A regular expression. -/
inductive Expr where
  /-- The empty text. -/
  | empty
  /-- One after the other. -/
  | seq (a b : Expr)
  /-- The first or else the second. -/
  | alt (a b : Expr)
  /-- One character of a set. -/
  | one (set : CharSet)
  /-- A condition on the position. -/
  | anchor (a : Anchor)
  /-- Repetitions, at least `min` and at most `max`. -/
  | loop (greed : Greed) (min : Nat) (max : Option Nat) (body : Expr)
  /-- A group whose text is kept. -/
  | capture (group : Nat) (body : Expr)
  /-- A part with flags switched. -/
  | flagged (on off : Flags) (body : Expr)
  /-- The text that a group matched. -/
  | backref (group : Nat)
  /-- A condition on what follows. -/
  | ahead (negated : Bool) (body : Expr)
  /-- A condition on the `width` characters that precede. -/
  | behind (negated : Bool) (width : Nat) (body : Expr)
  /-- A part of which only the first match is tried. -/
  | atomic (body : Expr)
  /-- A choice by whether a group has matched. -/
  | ifGroup (group : Nat) (yes no : Expr)
  deriving DecidableEq

namespace Expr

/-! ### Length of what is matched -/

/-- The least and the greatest length of a matched text. -/
structure Width where
  /-- The least length. -/
  least : Nat
  /-- The greatest length. -/
  greatest : Nat
  deriving DecidableEq

/-- Repetitions without an upper bound count as this many. -/
def endless : Nat := 4294967295

/-- The lengths that an expression matches, given those of the groups. -/
def width (groups : Nat → Width) : Expr → Width
  | empty => ⟨0, 0⟩
  | seq a b =>
    let x := a.width groups
    let y := b.width groups
    ⟨x.least + y.least, x.greatest + y.greatest⟩
  | alt a b =>
    let x := a.width groups
    let y := b.width groups
    ⟨min x.least y.least, max x.greatest y.greatest⟩
  | one _ => ⟨1, 1⟩
  | anchor _ => ⟨0, 0⟩
  | loop _ min max body =>
    let x := body.width groups
    ⟨x.least * min, x.greatest * max.getD endless⟩
  | capture _ body => body.width groups
  | flagged _ _ body => body.width groups
  | backref group => groups group
  | ahead _ _ => ⟨0, 0⟩
  | behind _ _ _ => ⟨0, 0⟩
  | atomic body => body.width groups
  | ifGroup _ yes no =>
    let x := yes.width groups
    let y := no.width groups
    ⟨min x.least y.least, max x.greatest y.greatest⟩

/-! ### Groups that matter -/

/-- The groups that an expression refers to. -/
def references : Expr → List Nat
  | empty => []
  | seq a b => a.references ++ b.references
  | alt a b => a.references ++ b.references
  | one _ => []
  | anchor _ => []
  | loop _ _ _ body => body.references
  | capture _ body => body.references
  | flagged _ _ body => body.references
  | backref group => [group]
  | ahead _ body => body.references
  | behind _ _ body => body.references
  | atomic body => body.references
  | ifGroup group yes no => group :: (yes.references ++ no.references)

/-- The expression without the captures of groups that nothing refers to. -/
def forget (kept : List Nat) : Expr → Expr
  | empty => empty
  | seq a b => seq (a.forget kept) (b.forget kept)
  | alt a b => alt (a.forget kept) (b.forget kept)
  | one set => one set
  | anchor a => anchor a
  | loop greed min max body => loop greed min max (body.forget kept)
  | capture group body =>
    if kept.contains group then capture group (body.forget kept) else body.forget kept
  | flagged on off body => flagged on off (body.forget kept)
  | backref group => backref group
  | ahead negated body => ahead negated (body.forget kept)
  | behind negated width body => behind negated width (body.forget kept)
  | atomic body => atomic (body.forget kept)
  | ifGroup group yes no => ifGroup group (yes.forget kept) (no.forget kept)

/-- Several expressions one after the other. -/
def sequence : List Expr → Expr
  | [] => empty
  | [e] => e
  | e :: es => seq e (sequence es)

/-- Several expressions to choose from, the earlier preferred. -/
def choice : List Expr → Expr
  | [] => empty
  | [e] => e
  | e :: es => alt e (choice es)

end Expr

end CoverageDiff.Pattern
