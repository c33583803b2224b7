import CoverageDiff.Shelf

/-!
# CoverageDiff.Branch

The two kinds of branch points within a line.

1. A jump has two outcomes, each with a count.
2. A switch has one count for each of its keys and one for the default case.
   It is built by `Switch.make?`, which refuses keys and counts of different
   number.
3. An outcome or case is *covered* if its count is positive; a branch is
   *touched* if something of it is covered, *fully covered* if everything is.
4. Merging adds counts.  The keys of a merged switch are those of both sides,
   each once, ascending.
-/

namespace CoverageDiff

/-! ## Jumps -/

/-- A conditional branch with two outcomes. -/
structure Jump where
  /-- Position among the jumps of its line. -/
  index : Int
  /-- How often the condition held. -/
  trueHits : Int
  /-- How often it did not. -/
  falseHits : Int
  deriving DecidableEq

namespace Jump

/-- Jumps are filed by index. -/
instance : Filed Jump Int := ⟨index⟩

/-- Which of the two outcomes were taken. -/
def outcome (j : Jump) : Bool × Bool :=
  (decide (0 < j.trueHits), decide (0 < j.falseHits))

/-- Both outcomes were taken. -/
def fullyCovered (j : Jump) : Bool :=
  j.outcome.1 && j.outcome.2

/-- Some outcome was taken. -/
def touched (j : Jump) : Bool :=
  j.outcome.1 || j.outcome.2

/-- The jump with the counts of both. -/
def merge (a b : Jump) : Jump :=
  ⟨a.index, a.trueHits + b.trueHits, a.falseHits + b.falseHits⟩

@[simp] theorem key_eq (j : Jump) : key j = j.index := rfl

@[simp] theorem index_merge (a b : Jump) : (a.merge b).index = a.index := rfl

end Jump

/-! ## Switches -/

/-- The keys and the counts of a switch differ in number. -/
structure UnevenSwitch where
  /-- Number of keys. -/
  keys : Nat
  /-- Number of counts. -/
  hits : Nat
  deriving DecidableEq

/-- A branch with one case per key and a default case. -/
structure Switch where
  /-- Position among the switches of its line. -/
  index : Int
  /-- The keys of the cases. -/
  keys : List Int
  /-- The count of each key's case, in the order of the keys. -/
  hits : List Int
  /-- The count of the default case. -/
  defaultHits : Int
  deriving DecidableEq

namespace Switch

/-- Switches are filed by index. -/
instance : Filed Switch Int := ⟨index⟩

@[simp] theorem key_eq (s : Switch) : key s = s.index := rfl

/-- A switch with exactly one count for each key. -/
def make? (index : Int) (keys hits : List Int) (defaultHits : Int) : Except UnevenSwitch Switch :=
  if keys.length = hits.length then .ok ⟨index, keys, hits, defaultHits⟩
  else .error ⟨keys.length, hits.length⟩

/-- The label of the default case. -/
def defaultLabel : String := "default"

/-- The labels of the cases, the default last.  Keys are shown in full, as every key that is read
can be: a number of at most 4300 digits. -/
def caseLabels (s : Switch) : List String :=
  s.keys.map toString ++ [defaultLabel]

/-- The counts of the cases, the default last. -/
def caseHits (s : Switch) : List Int :=
  s.hits ++ [s.defaultHits]

/-- The labels of the covered cases, ascending, each once. -/
def coveredCases (s : Switch) : List String :=
  let covered := (s.caseLabels.zip s.caseHits).filter fun (_, n) => decide (0 < n)
  Shelf.keys (Shelf.ofList covered)

/-- Every case was taken. -/
def fullyCovered (s : Switch) : Bool :=
  s.caseHits.all fun n => decide (0 < n)

/-- Some case was taken. -/
def touched (s : Switch) : Bool :=
  s.caseHits.any fun n => decide (0 < n)

/-! ### Merging -/

/-- A key's case with its count; of two with one key the counts are added. -/
def addCase (old new : Int × Int) : Int × Int :=
  (old.1, old.2 + new.2)

/-- Keys and counts as pairs, ascending; of a repeated key the last count stays. -/
def cases (s : Switch) : List (Int × Int) :=
  Shelf.ofList (s.keys.zip s.hits)

/-- The switch with the cases of both. -/
def merge (a b : Switch) : Switch :=
  let cases := Shelf.merge addCase a.cases (b.keys.zip b.hits)
  ⟨a.index, cases.map Prod.fst, cases.map Prod.snd, a.defaultHits + b.defaultHits⟩

@[simp] theorem index_merge (a b : Switch) : (a.merge b).index = a.index := rfl

end Switch

end CoverageDiff
