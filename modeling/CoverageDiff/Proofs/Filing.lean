import CoverageDiff.Proofs.Shelf

/-!
# CoverageDiff.Proofs.Filing

Filing many values, some of them under one key.  `Shelf.Joins P join` says
what joining has to satisfy for this on the values for which `P` holds, and
`Shelf.Commutes P join` that it is commutative besides.

Grouping does not matter where joining is associative:

* `Joins.merge_merge`: values filed on another shelf, which is merged later;
* `Joins.putWith_putWith`: two values of one key joined first.

Order does not matter where joining is commutative (`Commutes.merge_perm`).
What a map forgets of the values can be forgotten before filing
(`map_merge_hom`).
-/

namespace CoverageDiff

namespace Shelf

variable {α β κ : Type} [Filed α κ] [Filed β κ]

/-! ## Laws of joining -/

/-- Joining values of which `P` holds keeps the key and `P`, and is associative for one key. -/
structure Joins (P : α → Prop) (join : α → α → α) : Prop where
  /-- The key is kept. -/
  keepsKey : KeepsKey join
  /-- What is joined is of the same kind. -/
  closed : ∀ a b, P a → P b → P (join a b)
  /-- Joining is associative. -/
  assoc : ∀ a b c, P a → P b → P c → key a = key b → key b = key c →
    join (join a b) c = join a (join b c)

/-- Joining is commutative for one key as well. -/
structure Commutes (P : α → Prop) (join : α → α → α) : Prop extends Joins P join where
  /-- Joining is commutative. -/
  comm : ∀ a b, P a → P b → key a = key b → join a b = join b a

variable [LinearOrder κ] {P : α → Prop} {join : α → α → α} {xs ys zs : List α}

theorem merge_cons (join : α → α → α) (xs : List α) (y : α) (ys : List α) :
    merge join xs (y :: ys) = merge join (putWith join y xs) ys := rfl

/-- Values are filed one after another. -/
theorem merge_append (join : α → α → α) (xs ys zs : List α) :
    merge join xs (ys ++ zs) = merge join (merge join xs ys) zs :=
  List.foldl_append

/-! ## Grouping -/

namespace Joins

variable (hj : Joins P join)
include hj

theorem forall_mem_putWith {a : α} (hxs : ∀ x ∈ xs, P x) (ha : P a) :
    ∀ x ∈ putWith join a xs, P x :=
  Shelf.forall_mem_putWith hxs ha fun b hb _ => hj.closed b a (hxs b hb) ha

theorem forall_mem_merge (hxs : ∀ x ∈ xs, P x) (hys : ∀ y ∈ ys, P y) :
    ∀ x ∈ merge join xs ys, P x :=
  Shelf.forall_mem_merge hxs hys hj.closed

/-- What is found under a key of three shelves can be joined in both groupings. -/
private theorem optionMerge_find? (hxs : ∀ x ∈ xs, P x) (hys : ∀ y ∈ ys, P y)
    (hzs : ∀ z ∈ zs, P z) (k : κ) :
    Option.merge join (Option.merge join (find? k xs) (find? k ys)) (find? k zs) =
      Option.merge join (find? k xs) (Option.merge join (find? k ys) (find? k zs)) := by
  apply optionMerge_assoc
  intro a b c ha hb hc
  have hab : key a = key b := (key_of_find? ha).trans (key_of_find? hb).symm
  have hbc : key b = key c := (key_of_find? hb).trans (key_of_find? hc).symm
  exact hj.assoc a b c (hxs a (mem_of_find? ha)) (hys b (mem_of_find? hb))
    (hzs c (mem_of_find? hc)) hab hbc

/-- A value can be filed before or after its shelf is merged. -/
theorem merge_putWith (hxs : ∀ x ∈ xs, P x) (hys : ∀ y ∈ ys, P y) (hx : Ascending xs)
    (hy : Ascending ys) {a : α} (ha : P a) :
    merge join xs (putWith join a ys) = putWith join a (merge join xs ys) := by
  have hay : Ascending (putWith join a ys) := hy.putWith hj.keepsKey a
  have hxy : Ascending (merge join xs ys) := hx.merge hj.keepsKey ys
  refine (hx.merge hj.keepsKey _).ext (hxy.putWith hj.keepsKey a) ?_
  intro k
  rw [find?_merge hj.keepsKey hx hay.nodup_keys, find?_putWith hj.keepsKey a hy,
    find?_putWith hj.keepsKey a hxy, find?_merge hj.keepsKey hx hy.nodup_keys]
  by_cases hk : key a = k
  · have hassoc := hj.optionMerge_find? hxs hys (fun z hz => List.mem_singleton.mp hz ▸ ha) k
    rw [find?_cons, if_pos hk] at hassoc
    rw [if_pos hk, if_pos hk, hassoc]
  · rw [if_neg hk, if_neg hk]

/-- **Grouping does not matter**: values can be filed on a shelf that is merged later. -/
theorem merge_merge {ws : List α} (hxs : ∀ x ∈ xs, P x) (hws : ∀ w ∈ ws, P w)
    (hys : ∀ y ∈ ys, P y) (hx : Ascending xs) (hw : Ascending ws) :
    merge join xs (merge join ws ys) = merge join (merge join xs ws) ys := by
  induction ys generalizing ws with
  | nil => rfl
  | cons y ys ih =>
      have hy : P y := hys y List.mem_cons_self
      rw [merge_cons, merge_cons, ih (hj.forall_mem_putWith hws hy)
        (fun z hz => hys z (List.mem_cons_of_mem y hz)) (hw.putWith hj.keepsKey y),
        hj.merge_putWith hxs hws hx hw hy]

/-- Two values of one key can be joined first. -/
theorem putWith_putWith (hxs : ∀ x ∈ xs, P x) (hx : Ascending xs) {a b : α} (ha : P a) (hb : P b)
    (hab : key a = key b) :
    putWith join b (putWith join a xs) = putWith join (join a b) xs := by
  have hkey : key (join a b) = key a := hj.keepsKey a b hab
  have hax : Ascending (putWith join a xs) := hx.putWith hj.keepsKey a
  refine (hax.putWith hj.keepsKey b).ext (hx.putWith hj.keepsKey _) ?_
  intro k
  rw [find?_putWith hj.keepsKey b hax, find?_putWith hj.keepsKey a hx,
    find?_putWith hj.keepsKey _ hx, hkey, ← hab]
  by_cases hk : key a = k
  · rw [if_pos hk, if_pos hk, if_pos hk]
    apply optionMerge_assoc (z := some b)
    intro x y z hxk hya hzb
    cases hya
    cases hzb
    have hxa : key x = key a := (key_of_find? hxk).trans hk.symm
    exact hj.assoc x a b (hxs x (mem_of_find? hxk)) ha hb hxa hab
  · rw [if_neg hk, if_neg hk, if_neg hk]

end Joins

/-! ## Order -/

namespace Commutes

variable (hj : Commutes P join)
include hj

/-- Two values can be filed in both orders. -/
theorem putWith_comm (hxs : ∀ x ∈ xs, P x) (hx : Ascending xs) {a b : α} (ha : P a) (hb : P b) :
    putWith join b (putWith join a xs) = putWith join a (putWith join b xs) := by
  by_cases hab : key a = key b
  · rw [hj.putWith_putWith hxs hx ha hb hab, hj.putWith_putWith hxs hx hb ha hab.symm,
      hj.comm a b ha hb hab]
  · have hax : Ascending (putWith join a xs) := hx.putWith hj.keepsKey a
    have hbx : Ascending (putWith join b xs) := hx.putWith hj.keepsKey b
    refine (hax.putWith hj.keepsKey b).ext (hbx.putWith hj.keepsKey a) ?_
    intro k
    rw [find?_putWith hj.keepsKey b hax, find?_putWith hj.keepsKey a hx,
      find?_putWith hj.keepsKey a hbx, find?_putWith hj.keepsKey b hx]
    by_cases hk : key a = k
    · have hne : key b ≠ k := fun h => hab (hk.trans h.symm)
      rw [if_pos hk, if_pos hk, if_neg hne, if_neg hne]
    · rw [if_neg hk, if_neg hk]

/-- **Order does not matter**: values filed in another order give the same shelf. -/
theorem merge_perm (h : ys.Perm zs) (hxs : ∀ x ∈ xs, P x) (hys : ∀ y ∈ ys, P y)
    (hx : Ascending xs) : merge join xs ys = merge join xs zs := by
  induction h generalizing xs with
  | nil => rfl
  | cons y _ ih =>
      have hy : P y := hys y List.mem_cons_self
      rw [merge_cons, merge_cons]
      exact ih (hj.forall_mem_putWith hxs hy) (fun z hz => hys z (List.mem_cons_of_mem y hz))
        (hx.putWith hj.keepsKey y)
  | swap y z _ =>
      have hz : P z := hys z List.mem_cons_self
      have hy : P y := hys y (List.mem_cons_of_mem z List.mem_cons_self)
      rw [merge_cons, merge_cons, merge_cons, merge_cons, hj.putWith_comm hxs hx hz hy]
  | trans h₁ _ ih₁ ih₂ =>
      rw [ih₁ hxs hys hx]
      exact ih₂ hxs (fun z hz => hys z (h₁.mem_iff.mpr hz)) hx

end Commutes

/-! ## Forgetting -/

section Forgetting

variable {inner : β → β → β} {f : α → β}

theorem map_putWith_hom (hkey : ∀ a, key (f a) = key a)
    (hf : ∀ a b, f (join a b) = inner (f a) (f b)) (a : α) (xs : List α) :
    (putWith join a xs).map f = putWith inner (f a) (xs.map f) := by
  induction xs with
  | nil => rfl
  | cons b bs ih =>
      rw [List.map_cons, putWith, putWith, hkey, hkey]
      by_cases hlt : key a < key b
      · rw [if_pos hlt, if_pos hlt, List.map_cons, List.map_cons]
      · by_cases heq : key a = key b
        · rw [if_neg hlt, if_neg hlt, if_pos heq, if_pos heq, List.map_cons, hf]
        · rw [if_neg hlt, if_neg hlt, if_neg heq, if_neg heq, List.map_cons, ih]

/-- A map that keeps the key and respects joining can be applied before filing. -/
theorem map_merge_hom (hkey : ∀ a, key (f a) = key a)
    (hf : ∀ a b, f (join a b) = inner (f a) (f b)) (xs ys : List α) :
    (merge join xs ys).map f = merge inner (xs.map f) (ys.map f) := by
  induction ys generalizing xs with
  | nil => rfl
  | cons y ys ih =>
      rw [merge_cons, ih, map_putWith_hom hkey hf, List.map_cons, merge_cons]

end Forgetting

end Shelf

end CoverageDiff
