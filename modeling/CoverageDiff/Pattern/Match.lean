import CoverageDiff.Pattern.Expr

/-!
# CoverageDiff.Pattern.Match

Matching by trying.

1. `Expr.run` gives the states that an expression can reach from a state, in
   the order in which they are tried, each once.
2. A repetition that matches the empty text is not repeated further.
3. A condition, an atomic part and a possessive repetition take the first
   state that is reached and no other.
4. An expression matches a whole text if one of the states is at its end.
-/

namespace CoverageDiff.Pattern

open Text

/-! ## States -/

/-- A position in a text, and the texts of the groups that have matched. -/
structure State where
  /-- What precedes the position, last character first. -/
  before : List Char
  /-- What follows the position. -/
  after : List Char
  /-- The groups with what they matched last. -/
  groups : List (Nat × List Char) := []
  deriving DecidableEq

namespace State

/-- The state past the next character, if the text goes on. -/
def next? (s : State) : Option (Char × State) :=
  match s.after with
  | [] => none
  | c :: rest => some (c, { s with before := c :: s.before, after := rest })

/-- The state with `n` characters of `before` in front again. -/
def back (n : Nat) (s : State) : State :=
  { s with before := s.before.drop n, after := (s.before.take n).reverse ++ s.after }

/-- The state at the position of another. -/
def moveTo (s position : State) : State :=
  { s with before := position.before, after := position.after }

/-- The text between a state and a later one. -/
def textTo (s later : State) : List Char :=
  s.after.take (s.after.length - later.after.length)

/-- The state with the text of a group. -/
def setGroup (group : Nat) (text : List Char) (s : State) : State :=
  { s with groups := (group, text) :: s.groups.filter fun g => g.1 != group }

end State

/-! ## Conditions on a position -/

/-- Whether a character stands at the start of a text and is in the class of words. -/
def startsWithWord (flags : Flags) : List Char → Bool
  | [] => false
  | c :: _ => Category.word.holds flags c

/-- Whether a position meets a condition. -/
def Anchor.holds (flags : Flags) (s : State) : Anchor → Bool
  | .start => s.before.isEmpty || flags.multiLine && s.before.head? == some '\n'
  | .finish =>
    s.after.isEmpty || s.after == ['\n'] || flags.multiLine && s.after.head? == some '\n'
  | .textStart => s.before.isEmpty
  | .textEnd => s.after.isEmpty
  | .wordEdge negated =>
    !(s.before.isEmpty && s.after.isEmpty)
      && (startsWithWord flags s.before != startsWithWord flags s.after) != negated

/-! ## Repetitions -/

/-- States that were already tried, with the repetitions that were left. -/
abbrev Tried := List (Option Nat × State)

/-- One repetition less. -/
def lessOne : Option Nat → Option Nat
  | none => none
  | some n => some (n - 1)

/-- The states after exactly `n` repetitions, starting from each of several states. -/
def exactly (f : State → List State) : Nat → List State → List State
  | 0, states => states
  | n + 1, states =>
    if states.isEmpty then []
    else
      let next := (states.flatMap f).eraseDups
      if next = states then states else exactly f n next

/-- The states after at most `left` further repetitions that were not tried before. -/
def upTo (greedy : Bool) (f : State → List State) (left : Option Nat) (s : State) (tried : Tried) :
    List State × Tried :=
  if tried.contains (left, s) then ([], tried)
  else if left = some 0 then ([s], (left, s) :: tried)
  else
    let more := (f s).foldl (fun (acc : List State × Tried) s' =>
      if _h : s'.after.length < s.after.length then
        let r := upTo greedy f (lessOne left) s' acc.2
        (acc.1 ++ r.1, r.2)
      else (acc.1 ++ [s'], acc.2)) ([], (left, s) :: tried)
    (if greedy then more.1 ++ [s] else s :: more.1, more.2)
termination_by s.after.length

/-- The state after as many repetitions as are possible, but at most `left`. -/
def asMany (f : State → List State) (left : Option Nat) (s : State) : State :=
  if left = some 0 then s
  else
    match f s with
    | [] => s
    | s' :: _ =>
      if _h : s'.after.length < s.after.length then asMany f (lessOne left) s' else s'
termination_by s.after.length

/-- The first of the reached states, if any. -/
def firstOnly (f : State → List State) (s : State) : List State :=
  (f s).take 1

/-- The states after repetitions. -/
def repeated (greed : Greed) (min : Nat) (max : Option Nat) (f : State → List State) (s : State) :
    List State :=
  let left := max.map (· - min)
  match greed with
  | .possessive => (exactly (firstOnly f) min [s]).map (asMany f left)
  | .greedy => (exactly f min [s]).flatMap fun s' => (upTo true f left s' []).1
  | .lazy => (exactly f min [s]).flatMap fun s' => (upTo false f left s' []).1

/-! ## Back references -/

/-- The rest of a text after a given start. -/
def afterStart? (like : Char → Char → Bool) : List Char → List Char → Option (List Char)
  | [], text => some text
  | c :: cs, d :: text => if like c d then afterStart? like cs text else none
  | _ :: _, [] => none

/-- Whether two characters count as the same. -/
def likeChars (flags : Flags) (c d : Char) : Bool :=
  if flags.ignoreCase then CharSet.foldCode flags c.toNat == CharSet.foldCode flags d.toNat
  else c == d

/-- The state past the text that a group matched. -/
def pastGroup (flags : Flags) (group : Nat) (s : State) : List State :=
  match s.groups.lookup group with
  | none => []
  | some text =>
    match afterStart? (likeChars flags) text s.after with
    | none => []
    | some rest =>
      [{ s with before := (s.after.take text.length).reverse ++ s.before, after := rest }]

/-! ## Expressions -/

/-- The state past the next character, if a set holds it. -/
def pastChar (flags : Flags) (set : CharSet) (s : State) : List State :=
  match s.next? with
  | some (c, s') => if set.holds flags c then [s'] else []
  | none => []

/-- The same position if a condition on the text around it holds. -/
def condition (negated : Bool) (reached : List State) (s : State) : List State :=
  match reached with
  | [] => if negated then [s] else []
  | s' :: _ => if negated then [] else [s'.moveTo s]

/-- The states that an expression can reach, in the order of trying. -/
def Expr.run (flags : Flags) : Expr → State → List State
  | empty, s => [s]
  | seq a b, s => ((a.run flags s).flatMap (b.run flags)).eraseDups
  | alt a b, s => (a.run flags s ++ b.run flags s).eraseDups
  | one set, s => pastChar flags set s
  | anchor a, s => if a.holds flags s then [s] else []
  | loop greed min max body, s => (repeated greed min max (body.run flags) s).eraseDups
  | capture group body, s =>
    ((body.run flags s).map fun s' => s'.setGroup group (s.textTo s')).eraseDups
  | flagged on off body, s => body.run (flags.change on off) s
  | backref group, s => pastGroup flags group s
  | ahead negated body, s => condition negated (body.run flags s) s
  | behind negated width body, s =>
    if s.before.length < width then (if negated then [s] else [])
    else condition negated (body.run flags (s.back width)) s
  | atomic body, s => (body.run flags s).take 1
  | ifGroup group yes no, s =>
    if (s.groups.lookup group).isSome then yes.run flags s else no.run flags s

/-- Whether an expression matches the whole of a text. -/
def Expr.matchesWhole (flags : Flags) (e : Expr) (text : List Char) : Bool :=
  (e.run flags { before := [], after := text }).any fun s => s.after.isEmpty

end CoverageDiff.Pattern
