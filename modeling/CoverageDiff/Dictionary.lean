import CoverageDiff.Shelf

/-!
# CoverageDiff.Dictionary

Dictionaries: values stored under keys, in the order in which the keys were
first set.

1. The key stands beside its value.  Nothing ties it to what the value says
   of itself, so a value may be stored under a key that is not its own.
2. Setting a key that is there replaces its value and leaves its place; a new
   key comes last.
3. `Dictionary.values` goes through the values by ascending key.
-/

namespace CoverageDiff

/-- Values stored under keys. -/
structure Dictionary (κ β : Type) where
  /-- The keys with their values, in the order of setting. -/
  entries : List (κ × β)
  /-- No key is there twice. -/
  nodup : (Shelf.keys entries).Nodup

namespace Dictionary

variable {κ β : Type}

/-- The dictionary without keys. -/
def empty : Dictionary κ β := ⟨[], List.nodup_nil⟩

section Lookup

variable [DecidableEq κ]

/-- The value under a key. -/
def get? (d : Dictionary κ β) (k : κ) : Option β :=
  (Shelf.find? k d.entries).map Prod.snd

/-- The entries with a value set under a key. -/
def setEntry (k : κ) (b : β) : List (κ × β) → List (κ × β)
  | [] => [(k, b)]
  | e :: es => if e.1 = k then (k, b) :: es else e :: setEntry k b es

theorem mem_keys_setEntry {k j : κ} {b : β} {es : List (κ × β)} :
    j ∈ Shelf.keys (setEntry k b es) ↔ j = k ∨ j ∈ Shelf.keys es := by
  induction es with
  | nil => simp [setEntry, Shelf.keys, Filed.key]
  | cons e es ih =>
      have hcons : ∀ x (xs : List (κ × β)), Shelf.keys (x :: xs) = x.1 :: Shelf.keys xs :=
        fun _ _ => rfl
      unfold setEntry
      split
      · next h => rw [hcons, hcons, h, List.mem_cons, ← or_assoc, or_self]
      · rw [hcons, hcons, List.mem_cons, List.mem_cons, ih, or_left_comm]

theorem nodup_keys_setEntry (k : κ) (b : β) {es : List (κ × β)} (h : (Shelf.keys es).Nodup) :
    (Shelf.keys (setEntry k b es)).Nodup := by
  induction es with
  | nil => exact List.pairwise_singleton _ k
  | cons e es ih =>
      obtain ⟨he, hes⟩ := List.nodup_cons.mp h
      unfold setEntry
      split
      · next heq => exact heq ▸ h
      · next hne =>
          refine List.nodup_cons.mpr ⟨fun hmem => ?_, ih hes⟩
          exact (mem_keys_setEntry.mp hmem).elim hne he

/-- The dictionary with a value set under a key. -/
def set (d : Dictionary κ β) (k : κ) (b : β) : Dictionary κ β :=
  ⟨setEntry k b d.entries, nodup_keys_setEntry k b d.nodup⟩

/-- The dictionary of values under their own keys, set one after another. -/
def ofValues [Filed β κ] (bs : List β) : Dictionary κ β :=
  bs.foldl (fun d b => d.set (key b) b) empty

end Lookup

/-- The entries whose key passes. -/
def filter (d : Dictionary κ β) (p : κ → Bool) : Dictionary κ β :=
  ⟨d.entries.filter fun e => p e.1, d.nodup.sublist (List.filter_sublist.map _)⟩

/-- The values, ascending by key. -/
def values [LT κ] [DecidableLT κ] [DecidableEq κ] (d : Dictionary κ β) : List β :=
  (Shelf.ofList d.entries).map Prod.snd

end Dictionary

end CoverageDiff
