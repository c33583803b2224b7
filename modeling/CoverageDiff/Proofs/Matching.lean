import CoverageDiff.Proofs.Shelf
import CoverageDiff.Matching

/-!
# CoverageDiff.Proofs.Matching

The theory of matching.  A pairing has the key that its sides share, so the
pairings of two sides form a shelf themselves:

* `find?_pair`: under a key is the pairing of what the sides hold there
  (`Pairing.of?`), whatever order the sides are in;
* `ascending_pair`: the pairings are strictly ascending by key;
* `mem_shared_iff`: what is shared is what both sides hold under one key;
* `perm_first?`, `perm_second?`: the pairings hold all of both sides.
-/

namespace CoverageDiff

open CoverageDiff.Shelf

variable {α κ : Type} [Filed α κ]

namespace Pairing

/-- Pairings are filed by the key of their sides. -/
instance : Filed (Pairing α) κ := ⟨keyOf⟩

@[simp] theorem key_onlyA (a : α) : key (onlyA a) = key a := rfl

@[simp] theorem key_onlyB (b : α) : key (onlyB b) = key b := rfl

@[simp] theorem key_both (a b : α) : key (both a b) = key a := rfl

/-- What the first side has. -/
@[simp] def first? : Pairing α → Option α
  | onlyA a => some a
  | onlyB _ => none
  | both a _ => some a

/-- What the second side has. -/
@[simp] def second? : Pairing α → Option α
  | onlyA _ => none
  | onlyB b => some b
  | both _ b => some b

/-- The pairing of what two sides hold, if one of them holds something. -/
def of? : Option α → Option α → Option (Pairing α)
  | some a, some b => some (both a b)
  | some a, none => some (onlyA a)
  | none, some b => some (onlyB b)
  | none, none => none

theorem of?_none_left (b : Option α) : of? none b = b.map onlyB := by
  cases b <;> rfl

theorem of?_none_right (a : Option α) : of? a none = a.map onlyA := by
  cases a <;> rfl

theorem of?_eq_onlyA_iff {x y : Option α} {a : α} :
    of? x y = some (onlyA a) ↔ x = some a ∧ y = none := by
  cases x <;> cases y <;> simp [of?]

theorem of?_eq_onlyB_iff {x y : Option α} {b : α} :
    of? x y = some (onlyB b) ↔ x = none ∧ y = some b := by
  cases x <;> cases y <;> simp [of?]

theorem of?_eq_both_iff {x y : Option α} {a b : α} :
    of? x y = some (both a b) ↔ x = some a ∧ y = some b := by
  cases x <;> cases y <;> simp [of?]

theorem both?_eq_some_iff {p : Pairing α} {a b : α} : p.both? = some (a, b) ↔ p = both a b := by
  cases p <;> simp [both?]

end Pairing

variable [LinearOrder κ]

/-! ## Two ascending lists -/

theorem pairAscending_nil_left (bs : List α) : pairAscending [] bs = bs.map .onlyB := by
  rw [pairAscending]

theorem pairAscending_nil_right (as : List α) : pairAscending as [] = as.map .onlyA := by
  cases as with
  | nil => rw [pairAscending_nil_left]; rfl
  | cons a as => rw [pairAscending]; exact List.cons_ne_nil a as

theorem pairAscending_cons_cons (a b : α) (as bs : List α) :
    pairAscending (a :: as) (b :: bs) =
      if key a < key b then .onlyA a :: pairAscending as (b :: bs)
      else if key b < key a then .onlyB b :: pairAscending (a :: as) bs
      else .both a b :: pairAscending as bs := by
  rw [pairAscending]

/-- The key of a pairing is a key of one of the sides. -/
theorem key_mem_of_mem_pairAscending {p : Pairing α} {as bs : List α}
    (h : p ∈ pairAscending as bs) : key p ∈ keys as ∨ key p ∈ keys bs := by
  induction as, bs using pairAscending.induct with
  | case1 bs =>
      rw [pairAscending_nil_left] at h
      obtain ⟨b, hb, rfl⟩ := List.mem_map.mp h
      exact Or.inr (key_mem_keys hb)
  | case2 as _ =>
      rw [pairAscending_nil_right] at h
      obtain ⟨a, ha, rfl⟩ := List.mem_map.mp h
      exact Or.inl (key_mem_keys ha)
  | case3 a as b bs hlt ih =>
      rw [pairAscending_cons_cons, if_pos hlt] at h
      cases List.mem_cons.mp h with
      | inl he => exact Or.inl (he ▸ List.mem_cons_self)
      | inr ht => exact (ih ht).imp_left (List.mem_cons_of_mem (key a))
  | case4 a as b bs hlt hgt ih =>
      rw [pairAscending_cons_cons, if_neg hlt, if_pos hgt] at h
      cases List.mem_cons.mp h with
      | inl he => exact Or.inr (he ▸ List.mem_cons_self)
      | inr ht => exact (ih ht).imp_right (List.mem_cons_of_mem (key b))
  | case5 a as b bs hlt hgt ih =>
      rw [pairAscending_cons_cons, if_neg hlt, if_neg hgt] at h
      cases List.mem_cons.mp h with
      | inl he => exact Or.inl (he ▸ List.mem_cons_self)
      | inr ht => exact (ih ht).imp (List.mem_cons_of_mem (key a)) (List.mem_cons_of_mem (key b))

/-- A key below both sides is below every pairing of them. -/
private theorem lt_key_of_mem_pairAscending {k : κ} {as bs : List α}
    (has : ∀ a ∈ as, k < key a) (hbs : ∀ b ∈ bs, k < key b) :
    ∀ p ∈ pairAscending as bs, k < key p := by
  intro p hp
  cases key_mem_of_mem_pairAscending hp with
  | inl h =>
      obtain ⟨a, ha, hk⟩ := mem_keys.mp h
      exact hk ▸ has a ha
  | inr h =>
      obtain ⟨b, hb, hk⟩ := mem_keys.mp h
      exact hk ▸ hbs b hb

/-- A key below the first of an ascending list is below all of it. -/
private theorem lt_key_of_mem_cons {k : κ} {a : α} {as : List α} (h : Ascending (a :: as))
    (hk : k < key a) : ∀ x ∈ a :: as, k < key x := by
  intro x hx
  cases List.mem_cons.mp hx with
  | inl he => exact he ▸ hk
  | inr ht => exact lt_trans hk ((ascending_cons.mp h).1 x ht)

theorem Shelf.Ascending.pairAscending {as bs : List α} (ha : Ascending as) (hb : Ascending bs) :
    Ascending (pairAscending as bs) := by
  induction as, bs using pairAscending.induct with
  | case1 bs =>
      rw [pairAscending_nil_left]
      exact hb.map Pairing.key_onlyB
  | case2 as _ =>
      rw [pairAscending_nil_right]
      exact ha.map Pairing.key_onlyA
  | case3 a as b bs hlt ih =>
      rw [pairAscending_cons_cons, if_pos hlt]
      refine ascending_cons.mpr ⟨?_, ih ha.tail hb⟩
      exact lt_key_of_mem_pairAscending (ascending_cons.mp ha).1 (lt_key_of_mem_cons hb hlt)
  | case4 a as b bs hlt hgt ih =>
      rw [pairAscending_cons_cons, if_neg hlt, if_pos hgt]
      refine ascending_cons.mpr ⟨?_, ih ha hb.tail⟩
      exact lt_key_of_mem_pairAscending (lt_key_of_mem_cons ha hgt) (ascending_cons.mp hb).1
  | case5 a as b bs hlt hgt ih =>
      have heq : key a = key b := le_antisymm (not_lt.mp hgt) (not_lt.mp hlt)
      rw [pairAscending_cons_cons, if_neg hlt, if_neg hgt]
      refine ascending_cons.mpr ⟨?_, ih ha.tail hb.tail⟩
      refine lt_key_of_mem_pairAscending (ascending_cons.mp ha).1 ?_
      exact fun x hx => heq ▸ (ascending_cons.mp hb).1 x hx

/-- Under a key of two ascending lists is the pairing of what they hold there. -/
theorem find?_pairAscending {as bs : List α} (ha : Ascending as) (hb : Ascending bs) (k : κ) :
    find? k (pairAscending as bs) = Pairing.of? (find? k as) (find? k bs) := by
  induction as, bs using pairAscending.induct with
  | case1 bs =>
      rw [pairAscending_nil_left, find?_map Pairing.key_onlyB, find?_nil, Pairing.of?_none_left]
  | case2 as _ =>
      rw [pairAscending_nil_right, find?_map Pairing.key_onlyA, find?_nil, Pairing.of?_none_right]
  | case3 a as b bs hlt ih =>
      rw [pairAscending_cons_cons, if_pos hlt]
      by_cases hk : key a = k
      · rw [find?_cons, Pairing.key_onlyA, if_pos hk, find?_cons, if_pos hk,
          find?_cons_eq_none_of_lt hb (hk ▸ hlt)]
        rfl
      · rw [find?_cons, Pairing.key_onlyA, if_neg hk, ih ha.tail hb, find?_cons_ne hk]
  | case4 a as b bs hlt hgt ih =>
      rw [pairAscending_cons_cons, if_neg hlt, if_pos hgt]
      by_cases hk : key b = k
      · rw [find?_cons, Pairing.key_onlyB, if_pos hk, find?_cons_eq_none_of_lt ha (hk ▸ hgt),
          find?_cons, if_pos hk]
        rfl
      · rw [find?_cons, Pairing.key_onlyB, if_neg hk, ih ha hb.tail, find?_cons_ne hk]
  | case5 a as b bs hlt hgt ih =>
      have heq : key a = key b := le_antisymm (not_lt.mp hgt) (not_lt.mp hlt)
      rw [pairAscending_cons_cons, if_neg hlt, if_neg hgt]
      by_cases hk : key a = k
      · rw [find?_cons, Pairing.key_both, if_pos hk, find?_cons, if_pos hk, find?_cons,
          if_pos (heq ▸ hk)]
        rfl
      · rw [find?_cons, Pairing.key_both, if_neg hk, ih ha.tail hb.tail, find?_cons_ne hk,
          find?_cons_ne (heq ▸ hk)]

theorem filterMap_first?_pairAscending (as bs : List α) :
    (pairAscending as bs).filterMap Pairing.first? = as := by
  induction as, bs using pairAscending.induct with
  | case1 bs =>
      rw [pairAscending_nil_left, List.filterMap_map]
      exact List.filterMap_eq_nil_iff.mpr fun _ _ => rfl
  | case2 as _ =>
      rw [pairAscending_nil_right, List.filterMap_map]
      exact List.filterMap_some
  | case3 a as b bs hlt ih =>
      rw [pairAscending_cons_cons, if_pos hlt]
      simp [ih]
  | case4 a as b bs hlt hgt ih =>
      rw [pairAscending_cons_cons, if_neg hlt, if_pos hgt, List.filterMap_cons_none rfl, ih]
  | case5 a as b bs hlt hgt ih =>
      rw [pairAscending_cons_cons, if_neg hlt, if_neg hgt]
      simp [ih]

theorem filterMap_second?_pairAscending (as bs : List α) :
    (pairAscending as bs).filterMap Pairing.second? = bs := by
  induction as, bs using pairAscending.induct with
  | case1 bs =>
      rw [pairAscending_nil_left, List.filterMap_map]
      exact List.filterMap_some
  | case2 as _ =>
      rw [pairAscending_nil_right, List.filterMap_map]
      exact List.filterMap_eq_nil_iff.mpr fun _ _ => rfl
  | case3 a as b bs hlt ih =>
      rw [pairAscending_cons_cons, if_pos hlt, List.filterMap_cons_none rfl, ih]
  | case4 a as b bs hlt hgt ih =>
      rw [pairAscending_cons_cons, if_neg hlt, if_pos hgt]
      simp [ih]
  | case5 a as b bs hlt hgt ih =>
      rw [pairAscending_cons_cons, if_neg hlt, if_neg hgt]
      simp [ih]

/-! ## Two sides in any order -/

/-- **Order of matching**: the pairings of two sides are strictly ascending by key. -/
theorem ascending_pair (xs ys : List α) : Ascending (pair xs ys) :=
  (Ascending.ofList xs).pairAscending (Ascending.ofList ys)

/-- Nothing of the first side is lost. -/
theorem perm_first? {xs : List α} (h : (keys xs).Nodup) (ys : List α) :
    ((pair xs ys).filterMap Pairing.first?).Perm xs := by
  rw [pair, filterMap_first?_pairAscending]
  exact perm_ofList h

/-- Nothing of the second side is lost. -/
theorem perm_second? (xs : List α) {ys : List α} (h : (keys ys).Nodup) :
    ((pair xs ys).filterMap Pairing.second?).Perm ys := by
  rw [pair, filterMap_second?_pairAscending]
  exact perm_ofList h

/-- **Matching is matching by key**: under a key is the pairing of what the sides hold there. -/
theorem find?_pair {xs ys : List α} (hxs : (keys xs).Nodup) (hys : (keys ys).Nodup) (k : κ) :
    find? k (pair xs ys) = Pairing.of? (find? k xs) (find? k ys) := by
  unfold pair
  rw [find?_pairAscending (Ascending.ofList xs) (Ascending.ofList ys), find?_ofList hxs,
    find?_ofList hys]

theorem mem_pair_iff {xs ys : List α} (hxs : (keys xs).Nodup) (hys : (keys ys).Nodup)
    {p : Pairing α} :
    p ∈ pair xs ys ↔ ∃ k, Pairing.of? (find? k xs) (find? k ys) = some p := by
  constructor
  · intro h
    refine ⟨key p, ?_⟩
    rw [← find?_pair hxs hys]
    exact find?_key_of_mem (ascending_pair xs ys).nodup_keys h
  · rintro ⟨k, hk⟩
    rw [← find?_pair hxs hys] at hk
    exact mem_of_find? hk

theorem mem_shared_iff {xs ys : List α} (hxs : (keys xs).Nodup) (hys : (keys ys).Nodup) {a b : α} :
    (a, b) ∈ shared xs ys ↔ ∃ k, find? k xs = some a ∧ find? k ys = some b := by
  unfold shared
  rw [List.mem_filterMap]
  constructor
  · rintro ⟨p, hp, hboth⟩
    rw [Pairing.both?_eq_some_iff.mp hboth] at hp
    obtain ⟨k, hk⟩ := (mem_pair_iff hxs hys).mp hp
    exact ⟨k, Pairing.of?_eq_both_iff.mp hk⟩
  · rintro ⟨k, hk⟩
    exact ⟨.both a b, (mem_pair_iff hxs hys).mpr ⟨k, Pairing.of?_eq_both_iff.mpr hk⟩, rfl⟩

/-- What is shared is strictly ascending by key. -/
theorem pairwise_shared (xs ys : List α) :
    (shared xs ys).Pairwise fun p q => key p.1 < key q.1 := by
  refine (ascending_pair xs ys).filterMap Pairing.both? ?_
  intro p q hlt ⟨a, b⟩ hp ⟨c, d⟩ hq
  rw [Pairing.both?_eq_some_iff.mp hp, Pairing.both?_eq_some_iff.mp hq] at hlt
  exact hlt

end CoverageDiff
