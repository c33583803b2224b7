import CoverageDiff.Shelf

/-!
# CoverageDiff.Matching

Matching two collections by key.

1. `pair xs ys` lists every key of either side once, ascending, with what the
   sides hold under it.
2. Neither side needs an order; of two values with one key the later counts.
3. `Matching.of` sorts the pairs into the three parts of the partition.
-/

namespace CoverageDiff

/-- What two sides hold under one key. -/
inductive Pairing (α : Type) where
  /-- Only the first side has the key. -/
  | onlyA (a : α)
  /-- Only the second side has the key. -/
  | onlyB (b : α)
  /-- Both sides have the key. -/
  | both (a b : α)
  deriving DecidableEq

namespace Pairing

variable {α κ : Type}

/-- The key of a pairing. -/
def keyOf [Filed α κ] : Pairing α → κ
  | onlyA a => key a
  | onlyB b => key b
  | both a _ => key a

/-- What only the first side has. -/
def onlyA? : Pairing α → Option α
  | onlyA a => some a
  | _ => none

/-- What only the second side has. -/
def onlyB? : Pairing α → Option α
  | onlyB b => some b
  | _ => none

/-- What both sides have. -/
def both? : Pairing α → Option (α × α)
  | both a b => some (a, b)
  | _ => none

/-- The pairing seen from the other side. -/
def swap : Pairing α → Pairing α
  | onlyA a => onlyB a
  | onlyB b => onlyA b
  | both a b => both b a

end Pairing

section

variable {α κ : Type} [Filed α κ] [LT κ] [DecidableLT κ]

/-- Two ascending lists paired up in one walk. -/
def pairAscending : List α → List α → List (Pairing α)
  | [], bs => bs.map .onlyB
  | as, [] => as.map .onlyA
  | a :: as, b :: bs =>
    if key a < key b then .onlyA a :: pairAscending as (b :: bs)
    else if key b < key a then .onlyB b :: pairAscending (a :: as) bs
    else .both a b :: pairAscending as bs
termination_by as bs => as.length + bs.length

variable [DecidableEq κ]

/-- The keys of two sides, ascending, each with what the sides hold under it. -/
def pair (xs ys : List α) : List (Pairing α) :=
  pairAscending (Shelf.ofList xs) (Shelf.ofList ys)

/-- What both sides hold under the same key, ascending. -/
def shared (xs ys : List α) : List (α × α) :=
  (pair xs ys).filterMap Pairing.both?

/-- The partition of the keys of two sides. -/
structure Matching (α : Type) where
  /-- What both sides have, ascending. -/
  matched : List (α × α)
  /-- What only the first side has, ascending. -/
  onlyA : List α
  /-- What only the second side has, ascending. -/
  onlyB : List α

/-- Match two sides by key. -/
def Matching.of (xs ys : List α) : Matching α where
  matched := shared xs ys
  onlyA := (pair xs ys).filterMap Pairing.onlyA?
  onlyB := (pair xs ys).filterMap Pairing.onlyB?

end

end CoverageDiff
