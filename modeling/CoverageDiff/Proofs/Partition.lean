import Mathlib.Data.List.Sort
import Mathlib.Data.String.Basic
import CoverageDiff.Proofs.Matching

/-!
# CoverageDiff.Proofs.Partition

The three parts of a matching are a partition of the keys of two sides.

What the parts hold is said of the sides alone, without the walk that fills
them: `Partitions` tells which values stand in which part and that each part is
ascending.  The matching of two sides is such a partition (`partitions_of`),
and there is no other (`Partitions.unique`), so every law of matching follows
from the symmetry of the description: the order of a side does not matter
(`Partitions.perm`), and sides that change places exchange the parts
(`Partitions.swap`).
-/

namespace CoverageDiff

open CoverageDiff.Shelf

variable {α κ : Type} [Filed α κ]

/-! ## What a side alone has -/

namespace Pairing

theorem onlyA?_eq_some_iff {p : Pairing α} {a : α} : p.onlyA? = some a ↔ p = onlyA a := by
  cases p <;> simp [onlyA?]

theorem onlyB?_eq_some_iff {p : Pairing α} {b : α} : p.onlyB? = some b ↔ p = onlyB b := by
  cases p <;> simp [onlyB?]

end Pairing

/-! ## Partitions -/

namespace Matching

/-- The keys of what both sides have. -/
def sharedKeys (m : Matching α) : List κ :=
  m.matched.map fun p => key p.1

/-- The keys of the three parts, one part after another. -/
def keys (m : Matching α) : List κ :=
  m.sharedKeys ++ Shelf.keys m.onlyA ++ Shelf.keys m.onlyB

/-- The matching seen from the other side. -/
def swap (m : Matching α) : Matching α where
  matched := m.matched.map Prod.swap
  onlyA := m.onlyB
  onlyB := m.onlyA

/-- A matching holds the values of two sides, each in the part that its key calls for, and every
part is strictly ascending by key. -/
structure Partitions [LT κ] (m : Matching α) (xs ys : List α) : Prop where
  mem_matched : ∀ a b, (a, b) ∈ m.matched ↔ a ∈ xs ∧ b ∈ ys ∧ key a = key b
  mem_onlyA : ∀ a, a ∈ m.onlyA ↔ a ∈ xs ∧ key a ∉ Shelf.keys ys
  mem_onlyB : ∀ b, b ∈ m.onlyB ↔ b ∈ ys ∧ key b ∉ Shelf.keys xs
  ascending_matched : m.matched.Pairwise fun p q => key p.1 < key q.1
  ascending_onlyA : Ascending m.onlyA
  ascending_onlyB : Ascending m.onlyB

namespace Partitions

section Keys

variable [LT κ] {m : Matching α} {xs ys : List α}

/-- What both sides have is filed under the common keys. -/
theorem mem_sharedKeys (h : m.Partitions xs ys) (k : κ) :
    k ∈ m.sharedKeys ↔ k ∈ Shelf.keys xs ∧ k ∈ Shelf.keys ys := by
  simp only [sharedKeys, List.mem_map, Prod.exists, h.mem_matched, mem_keys]
  constructor
  · rintro ⟨a, b, ⟨ha, hb, hkey⟩, rfl⟩
    exact ⟨⟨a, ha, rfl⟩, b, hb, hkey.symm⟩
  · rintro ⟨⟨a, ha, rfl⟩, b, hb, hkey⟩
    exact ⟨a, b, ⟨ha, hb, hkey.symm⟩, rfl⟩

theorem mem_keys_onlyA (h : m.Partitions xs ys) (k : κ) :
    k ∈ Shelf.keys m.onlyA ↔ k ∈ Shelf.keys xs ∧ k ∉ Shelf.keys ys := by
  rw [Shelf.mem_keys, Shelf.mem_keys]
  simp only [h.mem_onlyA]
  constructor
  · rintro ⟨a, ⟨ha, hk⟩, rfl⟩
    exact ⟨⟨a, ha, rfl⟩, hk⟩
  · rintro ⟨⟨a, ha, rfl⟩, hk⟩
    exact ⟨a, ⟨ha, hk⟩, rfl⟩

/-- The order of the sides does not matter. -/
theorem perm (h : m.Partitions xs ys) {xs' ys' : List α} (hx : xs'.Perm xs) (hy : ys'.Perm ys) :
    m.Partitions xs' ys' := by
  have hkx : ∀ k, k ∈ Shelf.keys xs' ↔ k ∈ Shelf.keys xs := fun _ => (hx.map key).mem_iff
  have hky : ∀ k, k ∈ Shelf.keys ys' ↔ k ∈ Shelf.keys ys := fun _ => (hy.map key).mem_iff
  refine ⟨fun a b => ?_, fun a => ?_, fun b => ?_, h.ascending_matched, h.ascending_onlyA,
    h.ascending_onlyB⟩
  · rw [h.mem_matched, hx.mem_iff, hy.mem_iff]
  · rw [h.mem_onlyA, hx.mem_iff, hky]
  · rw [h.mem_onlyB, hy.mem_iff, hkx]

/-- Sides that change places exchange the parts. -/
theorem swap (h : m.Partitions xs ys) : m.swap.Partitions ys xs where
  mem_matched b a := by
    have hswap : (b, a) ∈ m.swap.matched ↔ (a, b) ∈ m.matched := by simp [Matching.swap]
    rw [hswap, h.mem_matched]
    exact ⟨fun ⟨ha, hb, hkey⟩ => ⟨hb, ha, hkey.symm⟩, fun ⟨hb, ha, hkey⟩ => ⟨ha, hb, hkey.symm⟩⟩
  mem_onlyA := h.mem_onlyB
  mem_onlyB := h.mem_onlyA
  ascending_matched := by
    -- two values that are matched have one key, so either may stand for it
    refine List.pairwise_map.mpr (h.ascending_matched.imp_of_mem ?_)
    intro p q hp hq hlt
    rw [Prod.fst_swap, Prod.fst_swap, ← ((h.mem_matched p.1 p.2).mp hp).2.2,
      ← ((h.mem_matched q.1 q.2).mp hq).2.2]
    exact hlt
  ascending_onlyA := h.ascending_onlyB
  ascending_onlyB := h.ascending_onlyA

theorem mem_keys_onlyB (h : m.Partitions xs ys) (k : κ) :
    k ∈ Shelf.keys m.onlyB ↔ k ∈ Shelf.keys ys ∧ k ∉ Shelf.keys xs :=
  h.swap.mem_keys_onlyA k

/-- **No loss**: the parts have the keys of both sides and no others. -/
theorem mem_keys (h : m.Partitions xs ys) (k : κ) :
    k ∈ m.keys ↔ k ∈ Shelf.keys xs ∨ k ∈ Shelf.keys ys := by
  rw [Matching.keys, List.mem_append, List.mem_append, h.mem_sharedKeys, h.mem_keys_onlyA,
    h.mem_keys_onlyB]
  by_cases hx : k ∈ Shelf.keys xs <;> by_cases hy : k ∈ Shelf.keys ys <;> simp [hx, hy]

end Keys

variable [LinearOrder κ] {m m' : Matching α} {xs ys : List α}

/-- **No duplication**: no key occurs twice, neither in one part nor in two. -/
theorem nodup_keys (h : m.Partitions xs ys) : m.keys.Nodup := by
  have hshared : m.sharedKeys.Nodup :=
    List.pairwise_map.mpr (h.ascending_matched.imp fun hlt => ne_of_lt hlt)
  have hA : m.sharedKeys.Disjoint (Shelf.keys m.onlyA) := by
    intro k hk hkA
    exact ((h.mem_keys_onlyA k).mp hkA).2 ((h.mem_sharedKeys k).mp hk).2
  have hB : (m.sharedKeys ++ Shelf.keys m.onlyA).Disjoint (Shelf.keys m.onlyB) := by
    intro k hk hkB
    have hkx := ((h.mem_keys_onlyB k).mp hkB).2
    cases List.mem_append.mp hk with
    | inl hk => exact hkx ((h.mem_sharedKeys k).mp hk).1
    | inr hk => exact hkx ((h.mem_keys_onlyA k).mp hk).1
  have hfirst := hshared.append h.ascending_onlyA.nodup_keys hA
  exact hfirst.append h.ascending_onlyB.nodup_keys hB

/-- Every key of a side occurs in the parts exactly once. -/
theorem count_keys (h : m.Partitions xs ys) (k : κ) :
    m.keys.count k = if k ∈ Shelf.keys xs ∨ k ∈ Shelf.keys ys then 1 else 0 := by
  split
  · next hk => exact List.count_eq_one_of_mem h.nodup_keys ((h.mem_keys k).mpr hk)
  · next hk => exact List.count_eq_zero_of_not_mem fun hmem => hk ((h.mem_keys k).mp hmem)

/-- **Uniqueness**: two sides have one partition. -/
theorem unique (h : m.Partitions xs ys) (h' : m'.Partitions xs ys) : m = m' := by
  have hmatched : m.matched = m'.matched := by
    refine eq_of_pairwise_lt h.ascending_matched h'.ascending_matched ?_
    rintro ⟨a, b⟩
    rw [h.mem_matched, h'.mem_matched]
  have hA : m.onlyA = m'.onlyA := by
    refine eq_of_pairwise_lt h.ascending_onlyA h'.ascending_onlyA ?_
    intro a
    rw [h.mem_onlyA, h'.mem_onlyA]
  have hB : m.onlyB = m'.onlyB := by
    refine eq_of_pairwise_lt h.ascending_onlyB h'.ascending_onlyB ?_
    intro b
    rw [h.mem_onlyB, h'.mem_onlyB]
  obtain ⟨matched, onlyA, onlyB⟩ := m
  obtain ⟨matched', onlyA', onlyB'⟩ := m'
  rw [Matching.mk.injEq]
  exact ⟨hmatched, hA, hB⟩

end Partitions

/-! ## The partition of two sides -/

section

variable [LinearOrder κ] {xs ys : List α}

theorem mem_onlyA_of (hxs : (Shelf.keys xs).Nodup) (hys : (Shelf.keys ys).Nodup) (a : α) :
    a ∈ (Matching.of xs ys).onlyA ↔ a ∈ xs ∧ key a ∉ Shelf.keys ys := by
  have hpair : a ∈ (Matching.of xs ys).onlyA ↔ .onlyA a ∈ pair xs ys := by
    simp [Matching.of, Pairing.onlyA?_eq_some_iff]
  rw [hpair, mem_pair_iff hxs hys]
  simp only [Pairing.of?_eq_onlyA_iff, find?_eq_some_iff hxs, find?_eq_none_iff]
  constructor
  · rintro ⟨k, ⟨ha, rfl⟩, hk⟩
    exact ⟨ha, hk⟩
  · rintro ⟨ha, hk⟩
    exact ⟨key a, ⟨ha, rfl⟩, hk⟩

theorem mem_onlyB_of (hxs : (Shelf.keys xs).Nodup) (hys : (Shelf.keys ys).Nodup) (b : α) :
    b ∈ (Matching.of xs ys).onlyB ↔ b ∈ ys ∧ key b ∉ Shelf.keys xs := by
  have hpair : b ∈ (Matching.of xs ys).onlyB ↔ .onlyB b ∈ pair xs ys := by
    simp [Matching.of, Pairing.onlyB?_eq_some_iff]
  rw [hpair, mem_pair_iff hxs hys]
  simp only [Pairing.of?_eq_onlyB_iff, find?_eq_some_iff hys, find?_eq_none_iff]
  constructor
  · rintro ⟨k, hk, hb, rfl⟩
    exact ⟨hb, hk⟩
  · rintro ⟨hb, hk⟩
    exact ⟨key b, hk, hb, rfl⟩

theorem mem_matched_of (hxs : (Shelf.keys xs).Nodup) (hys : (Shelf.keys ys).Nodup) (a b : α) :
    (a, b) ∈ (Matching.of xs ys).matched ↔ a ∈ xs ∧ b ∈ ys ∧ key a = key b := by
  rw [Matching.of, mem_shared_iff hxs hys]
  simp only [find?_eq_some_iff hxs, find?_eq_some_iff hys]
  constructor
  · rintro ⟨k, ⟨ha, rfl⟩, hb, hkey⟩
    exact ⟨ha, hb, hkey.symm⟩
  · rintro ⟨ha, hb, hkey⟩
    exact ⟨key a, ⟨ha, rfl⟩, hb, hkey.symm⟩

/-- A part of the pairings, read by its values, is ascending as the pairings are. -/
private theorem ascending_filterMap_pair {f : Pairing α → Option α}
    (hf : ∀ {p a}, f p = some a → key p = key a) (xs ys : List α) :
    Ascending ((pair xs ys).filterMap f) := by
  refine (ascending_pair xs ys).filterMap f ?_
  intro p q hlt a ha b hb
  rw [hf ha, hf hb] at hlt
  exact hlt

/-- **The matching of two sides is their partition.** -/
theorem partitions_of (hxs : (Shelf.keys xs).Nodup) (hys : (Shelf.keys ys).Nodup) :
    (Matching.of xs ys).Partitions xs ys where
  mem_matched := mem_matched_of hxs hys
  mem_onlyA := mem_onlyA_of hxs hys
  mem_onlyB := mem_onlyB_of hxs hys
  ascending_matched := pairwise_shared xs ys
  ascending_onlyA := by
    refine ascending_filterMap_pair ?_ xs ys
    intro p a hp
    rw [Pairing.onlyA?_eq_some_iff.mp hp, Pairing.key_onlyA]
  ascending_onlyB := by
    refine ascending_filterMap_pair ?_ xs ys
    intro p b hp
    rw [Pairing.onlyB?_eq_some_iff.mp hp, Pairing.key_onlyB]

/-- The order of the sides does not matter. -/
theorem of_perm (hxs : (Shelf.keys xs).Nodup) (hys : (Shelf.keys ys).Nodup) {xs' ys' : List α}
    (hx : xs'.Perm xs) (hy : ys'.Perm ys) : Matching.of xs' ys' = Matching.of xs ys := by
  have hxs' : (Shelf.keys xs').Nodup := (hx.map key).nodup_iff.mpr hxs
  have hys' : (Shelf.keys ys').Nodup := (hy.map key).nodup_iff.mpr hys
  exact (partitions_of hxs' hys').unique ((partitions_of hxs hys).perm hx hy)

/-- Matching the sides the other way round gives the matching seen from the other side. -/
theorem of_comm (hxs : (Shelf.keys xs).Nodup) (hys : (Shelf.keys ys).Nodup) :
    Matching.of ys xs = (Matching.of xs ys).swap :=
  (partitions_of hys hxs).unique (partitions_of hxs hys).swap

/-- **Matching is an exact sorted partition.**  Each value of two sides with distinct keys stands
in the part that its key calls for, and the parts are strictly ascending.  Every key of a side
occurs in the three parts exactly once, no other key does, and the common keys are those of what
is matched.  No other matching is like that, and the sides may come in any order and change
places. -/
theorem of_exact (hxs : (Shelf.keys xs).Nodup) (hys : (Shelf.keys ys).Nodup) :
    (Matching.of xs ys).Partitions xs ys ∧
      (∀ k, (Matching.of xs ys).keys.count k =
        if k ∈ Shelf.keys xs ∨ k ∈ Shelf.keys ys then 1 else 0) ∧
      (∀ k, k ∈ (Matching.of xs ys).sharedKeys ↔ k ∈ Shelf.keys xs ∧ k ∈ Shelf.keys ys) ∧
      (∀ m : Matching α, m.Partitions xs ys → m = Matching.of xs ys) ∧
      ∀ xs' ys', xs'.Perm xs → ys'.Perm ys →
        Matching.of xs' ys' = Matching.of xs ys ∧
          Matching.of ys' xs' = (Matching.of xs ys).swap := by
  have hof := partitions_of hxs hys
  refine ⟨hof, hof.count_keys, hof.mem_sharedKeys, fun m hm => hm.unique hof, ?_⟩
  intro xs' ys' hx hy
  refine ⟨of_perm hxs hys hx hy, ?_⟩
  rw [of_perm hys hxs hy hx, of_comm hxs hys]

end

end Matching

namespace Sample

/-- Two sides with two common keys, neither in the order of the keys. -/
def sideA : List (String × Nat) := [("b", 2), ("a", 1), ("x", 9)]

/-- The other side. -/
def sideB : List (String × Nat) := [("c", 3), ("a", 10), ("b", 20)]

/-- The partition of the two sides, and of the sides as they stand the other way round. -/
theorem sides_matched :
    (keys sideA).Nodup ∧ (keys sideB).Nodup ∧
      (Matching.of sideA sideB).keys.count "a" = 1 ∧
      Matching.of sideB.reverse sideA = (Matching.of sideA sideB).swap := by
  have hA : (keys sideA).Nodup := by decide
  have hB : (keys sideB).Nodup := by decide
  obtain ⟨-, hcount, -, -, hperm⟩ := Matching.of_exact hA hB
  refine ⟨hA, hB, ?_, (hperm sideA sideB.reverse (.refl _) (List.reverse_perm _)).2⟩
  rw [hcount, if_pos (Or.inl (by decide))]

end Sample

end CoverageDiff
