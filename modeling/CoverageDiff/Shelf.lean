/-!
# CoverageDiff.Shelf

Lists of values that carry their own key, kept in ascending order of the
keys.  Every level of a coverage tree is such a shelf: a project is a shelf
of classes, a class a shelf of lines, a line a shelf of jumps and one of
switches.

Rules of a shelf:

1. `Shelf.putWith join a` files `a` at its place; a value already filed
   under the same key is joined with it and stays where it is.
2. `Shelf.put` is rule 1 with the newcomer winning.
3. `Shelf.merge join xs ys` files the values of `ys` one after another.
4. `Shelf.find?` returns the value filed under a key.

No operation needs the list to be in order already; from an ordered list
each gives an ordered list.

`Shelf.putByScan` is another way to file a value: the list is scanned for its
key, and the value found there is replaced; a value whose key is new is
appended, and the list is sorted.
-/

namespace CoverageDiff

/-- Values that carry the key they are filed under. -/
class Filed (α : Type) (κ : outParam Type) where
  /-- The key of a value. -/
  key : α → κ

export Filed (key)

/-- A pair is filed under its first part. -/
instance {κ β : Type} : Filed (κ × β) κ := ⟨Prod.fst⟩

namespace Shelf

variable {α κ : Type} [Filed α κ]

/-- The keys of a shelf, in its order. -/
def keys (xs : List α) : List κ :=
  xs.map key

/-- Strictly ascending keys: the form every shelf of a coverage tree has. -/
def Ascending [LT κ] (xs : List α) : Prop :=
  xs.Pairwise fun a b => key a < key b

@[simp] theorem ascending_nil [LT κ] : Ascending ([] : List α) := List.Pairwise.nil

/-! ## Looking up -/

section Lookup

variable [DecidableEq κ]

/-- The value filed under `k`. -/
def find? (k : κ) (xs : List α) : Option α :=
  xs.find? fun a => decide (key a = k)

@[simp] theorem find?_nil (k : κ) : find? k ([] : List α) = none := rfl

theorem find?_cons (k : κ) (a : α) (xs : List α) :
    find? k (a :: xs) = if key a = k then some a else find? k xs := by
  by_cases h : key a = k <;> simp [find?, h]

/-- What is found under a key carries that key. -/
theorem key_of_find? {k : κ} {xs : List α} {a : α} (h : find? k xs = some a) : key a = k := by
  simpa using List.find?_some h

/-- What is found is on the shelf. -/
theorem mem_of_find? {k : κ} {xs : List α} {a : α} (h : find? k xs = some a) : a ∈ xs :=
  List.mem_of_find?_eq_some h

end Lookup

/-! ## Filing -/

section Filing

variable [LT κ] [DecidableLT κ] [DecidableEq κ]

/-- File `a`; `join old a` takes the place of a value `old` with the same key. -/
def putWith (join : α → α → α) (a : α) : List α → List α
  | [] => [a]
  | b :: bs =>
    if key a < key b then a :: b :: bs
    else if key a = key b then join b a :: bs
    else b :: putWith join a bs

/-- File `a`, replacing a value with the same key. -/
def put (a : α) (xs : List α) : List α :=
  putWith (fun _ new => new) a xs

/-- File the values of `ys` into `xs`, joining those that meet. -/
def merge (join : α → α → α) (xs ys : List α) : List α :=
  ys.foldl (fun acc y => putWith join y acc) xs

/-- The shelf of a list in any order; of two values with one key the later stays. -/
def ofList (xs : List α) : List α :=
  xs.foldl (fun acc x => put x acc) []

@[simp] theorem merge_nil (join : α → α → α) (xs : List α) : merge join xs [] = xs := rfl

end Filing

/-! ## Filing by scanning -/

section Scanning

variable [LE κ] [DecidableLE κ] [DecidableEq κ]

/-- File `a` by scanning the list: where a value with its key stands, `a` replaces it; if there is
none, `a` is appended and the list is sorted. -/
def putByScan (a : α) (xs : List α) : List α :=
  match xs.findIdx? fun b => key b = key a with
  | some i => xs.set i a
  | none => (xs ++ [a]).mergeSort fun b c => key b ≤ key c

/-- File values one after another by scanning. -/
def scanAll (xs : List α) : List α :=
  xs.foldl (fun acc x => putByScan x acc) []

end Scanning

end Shelf

end CoverageDiff
