import Mathlib.Data.List.Nodup
import CoverageDiff.Proofs.Shelf

/-!
# CoverageDiff.Proofs.Overwriting

Values filed one after another, each in place of an earlier one of its key.

What such a shelf holds is said of the values alone: a value is there exactly
if it is the last of its key (`IsLast`, `mem_ofList_iff`).  So the shelf is the
map in which the last writer of a key wins (`lastWins_ofList`), and values of
different keys may be filed in any order (`ofList_congr`).

On ascending shelves filing by scanning is filing in order
(`Ascending.putByScan_eq_put`), so both ways file a whole list alike
(`scanAll_eq_ofList`).
-/

namespace CoverageDiff

namespace Shelf

variable {α κ : Type} [Filed α κ]

/-! ## The last value of a key -/

/-- `a` is one of the values, and none of its key comes after it. -/
def IsLast (a : α) (xs : List α) : Prop :=
  ∃ before after, xs = before ++ a :: after ∧ key a ∉ keys after

theorem not_isLast_nil (a : α) : ¬IsLast a ([] : List α) := by
  rintro ⟨before, after, h, _⟩
  cases before <;> cases h

theorem IsLast.mem {a : α} {xs : List α} (h : IsLast a xs) : a ∈ xs := by
  obtain ⟨before, after, rfl, _⟩ := h
  exact List.mem_append_right before List.mem_cons_self

theorem isLast_cons_iff {a x : α} {xs : List α} :
    IsLast a (x :: xs) ↔ a = x ∧ key x ∉ keys xs ∨ IsLast a xs := by
  constructor
  · rintro ⟨before, after, h, hlast⟩
    cases before with
    | nil =>
        cases h
        exact .inl ⟨rfl, hlast⟩
    | cons b before =>
        cases h
        exact .inr ⟨before, after, rfl, hlast⟩
  · rintro (⟨rfl, hlast⟩ | ⟨before, after, rfl, hlast⟩)
    · exact ⟨[], xs, rfl, hlast⟩
    · exact ⟨x :: before, after, rfl, hlast⟩

/-- A value is the last of its key if it ends the list of those of its key. -/
theorem isLast_iff_filter_eq [DecidableEq κ] {a : α} {xs : List α} :
    IsLast a xs ↔ ∃ before, (xs.filter fun x => key x = key a) = before ++ [a] := by
  constructor
  · rintro ⟨before, after, rfl, hlast⟩
    have hafter : (after.filter fun x => decide (key x = key a)) = [] := by
      refine List.filter_eq_nil_iff.mpr fun x hx => ?_
      have hne : key x ≠ key a := fun heq => hlast (heq ▸ key_mem_keys hx)
      simpa using hne
    refine ⟨before.filter fun x => key x = key a, ?_⟩
    rw [List.filter_append, List.filter_cons_of_pos (by simp), hafter]
  · rintro ⟨before, h⟩
    obtain ⟨front, rest, rfl, -, hrest⟩ := List.filter_eq_append_iff.mp h
    obtain ⟨middle, after, rfl, -, -, hafter⟩ := List.filter_eq_cons_iff.mp hrest
    refine ⟨front ++ middle, after, by rw [List.append_assoc], ?_⟩
    intro hmem
    obtain ⟨x, hx, heq⟩ := mem_keys.mp hmem
    exact List.filter_eq_nil_iff.mp hafter x hx (decide_eq_true heq)

/-! ## What is filed later -/

variable [LinearOrder κ]

/-- What is filed later is found first. -/
theorem find?_merge_new (acc xs : List α) (k : κ) :
    find? k (merge (fun _ new => new) acc xs) = (find? k (ofList xs)).or (find? k acc) := by
  induction xs generalizing acc with
  | nil => rfl
  | cons x xs ih =>
      have hstep : ∀ zs : List α, merge (fun _ new => new) zs (x :: xs) =
          merge (fun _ new => new) (put x zs) xs := fun _ => rfl
      rw [ofList_eq_merge, hstep, hstep, ih, ih, find?_put, find?_put, find?_nil, Option.or_assoc]
      by_cases hk : key x = k
      · rw [if_pos hk, if_pos hk, Option.some_or]
      · rw [if_neg hk, if_neg hk, Option.none_or]

theorem find?_ofList_cons (a : α) (xs : List α) (k : κ) :
    find? k (ofList (a :: xs)) =
      (find? k (ofList xs)).or (if key a = k then some a else none) := by
  have hstep : ofList (a :: xs) = merge (fun _ new => new) [a] xs := rfl
  rw [hstep, find?_merge_new, find?_cons, find?_nil]

/-- A value whose key comes again is replaced. -/
theorem ofList_cons_of_mem {a : α} {xs : List α} (h : key a ∈ keys xs) :
    ofList (a :: xs) = ofList xs := by
  refine (Ascending.ofList _).ext (Ascending.ofList _) ?_
  intro k
  rw [find?_ofList_cons]
  by_cases hk : key a = k
  · have hmem : k ∈ keys (ofList xs) := mem_keys_ofList.mpr (hk ▸ h)
    cases hfind : find? k (ofList xs) with
    | none => exact absurd hmem (find?_eq_none_iff.mp hfind)
    | some b => rfl
  · rw [if_neg hk, Option.or_none]

/-- A value whose key does not come again stays. -/
theorem ofList_cons_of_notMem {a : α} {xs : List α} (h : key a ∉ keys xs) :
    ofList (a :: xs) = put a (ofList xs) := by
  refine (Ascending.ofList _).ext ((Ascending.ofList _).put a) ?_
  intro k
  rw [find?_ofList_cons, find?_put]
  by_cases hk : key a = k
  · have hnone : find? k (ofList xs) = none :=
      find?_eq_none_iff.mpr fun hmem => h (hk ▸ mem_keys_ofList.mp hmem)
    rw [if_pos hk, if_pos hk, hnone, Option.none_or]
  · rw [if_neg hk, if_neg hk, Option.or_none]

/-! ## The last writer wins -/

/-- **Step lemma**: a value that is filed stands on the shelf, and the others of its key do not. -/
theorem mem_put_iff {a b : α} {xs : List α} (h : Ascending xs) :
    b ∈ put a xs ↔ b = a ∨ b ∈ xs ∧ key b ≠ key a := by
  have hfound : b ∈ put a xs ↔ find? (key b) (put a xs) = some b := by
    rw [find?_eq_some_iff (h.put a).nodup_keys, and_iff_left rfl]
  rw [hfound, find?_put]
  by_cases hk : key a = key b
  · rw [if_pos hk, Option.some_inj]
    simp [hk, eq_comm]
  · have hne : b ≠ a := fun heq => hk (congrArg key heq.symm)
    rw [if_neg hk, find?_eq_some_iff h.nodup_keys]
    simp [hne, Ne.symm hk]

/-- **Run lemma**: of values filed one after another the last of each key is there. -/
theorem mem_ofList_iff {a : α} {xs : List α} : a ∈ ofList xs ↔ IsLast a xs := by
  induction xs with
  | nil => exact iff_of_false List.not_mem_nil (not_isLast_nil a)
  | cons x xs ih =>
      rw [isLast_cons_iff, ← ih]
      by_cases hx : key x ∈ keys xs
      · rw [ofList_cons_of_mem hx]
        simp [hx]
      · have hkey : a ∈ ofList xs → key a ≠ key x :=
          fun ha heq => hx (heq ▸ key_mem_keys (ih.mp ha).mem)
        rw [ofList_cons_of_notMem hx, mem_put_iff (Ascending.ofList xs), and_iff_left hx,
          and_iff_left_of_imp hkey]

/-- Filing a list adds nothing to it. -/
theorem mem_of_mem_ofList {a : α} {xs : List α} (h : a ∈ ofList xs) : a ∈ xs :=
  (mem_ofList_iff.mp h).mem

/-- The list `xs`, looked up in by `look`, is the map that values set one after another make: it is
strictly ascending, and holds and gives for each key that was set the value set last. -/
structure LastWins (xs : List α) (look : κ → Option α) (set : List α) : Prop where
  ascending : Ascending xs
  mem_iff : ∀ a, a ∈ xs ↔ IsLast a set
  mem_keys_iff : ∀ k, k ∈ keys xs ↔ k ∈ keys set
  look_eq_some_iff : ∀ k a, look k = some a ↔ key a = k ∧ IsLast a set
  look_eq_none_iff : ∀ k, look k = none ↔ k ∉ keys set

theorem lastWins_ofList (set : List α) :
    LastWins (ofList set) (fun k => find? k (ofList set)) set where
  ascending := Ascending.ofList set
  mem_iff _ := mem_ofList_iff
  mem_keys_iff _ := mem_keys_ofList
  look_eq_some_iff k a := by
    rw [find?_eq_some_iff (Ascending.ofList set).nodup_keys, mem_ofList_iff, and_comm]
  look_eq_none_iff k := by rw [find?_eq_none_iff, mem_keys_ofList]

/-- Only the order of values with one key matters. -/
theorem ofList_congr {xs ys : List α}
    (h : ∀ k, (xs.filter fun x => key x = k) = ys.filter fun x => key x = k) :
    ofList xs = ofList ys := by
  refine eq_of_pairwise_lt (Ascending.ofList xs) (Ascending.ofList ys) ?_
  intro a
  rw [mem_ofList_iff, mem_ofList_iff, isLast_iff_filter_eq, isLast_iff_filter_eq, h]

/-! ## Filing by scanning -/

/-- A value whose key is there is filed where that one stands. -/
theorem Ascending.put_eq_set {a : α} {xs : List α} (h : Ascending xs) {i : Nat}
    (hi : (xs.findIdx? fun b => key b = key a) = some i) : Shelf.put a xs = xs.set i a := by
  induction xs generalizing i with
  | nil => cases hi
  | cons b bs ih =>
      rw [List.findIdx?_cons] at hi
      rw [Shelf.put, Shelf.putWith]
      by_cases hb : key b = key a
      · rw [if_pos (decide_eq_true hb), Option.some_inj] at hi
        rw [if_neg (hb ▸ lt_irrefl (key a)), if_pos hb.symm, ← hi, List.set_cons_zero]
      · rw [if_neg (by simpa using hb)] at hi
        obtain ⟨j, hj, rfl⟩ := Option.map_eq_some_iff.mp hi
        -- the value of this key comes after `b`, so `b` is below it
        have hlt : key b < key a := by
          have hany : (bs.any fun c => key c = key a) = true := by
            rw [← List.findIdx?_isSome, hj, Option.isSome_some]
          obtain ⟨c, hc, hkey⟩ := List.any_eq_true.mp hany
          exact of_decide_eq_true hkey ▸ (ascending_cons.mp h).1 c hc
        rw [if_neg (lt_asymm hlt), if_neg (Ne.symm hb), List.set_cons_succ, ← ih h.tail hj]
        rfl

/-- A value whose key is new is filed where sorting puts it. -/
theorem Ascending.put_eq_mergeSort {a : α} {xs : List α} (h : Ascending xs)
    (ha : key a ∉ keys xs) :
    Shelf.put a xs = (xs ++ [a]).mergeSort fun b c => key b ≤ key c := by
  generalize hsort : ((xs ++ [a]).mergeSort fun b c => decide (key b ≤ key c)) = sorted
  have hperm : sorted.Perm (xs ++ [a]) := hsort ▸ List.mergeSort_perm _ _
  have hle : sorted.Pairwise fun b c => key b ≤ key c := by
    rw [← hsort]
    refine (List.pairwise_mergeSort ?_ ?_ (xs ++ [a])).imp of_decide_eq_true
    · intro b c d hbc hcd
      exact decide_eq_true (le_trans (of_decide_eq_true hbc) (of_decide_eq_true hcd))
    · intro b c
      simpa using le_total (key b) (key c)
  -- no two keys are equal, so sorting leaves no choice
  have hnodup : (keys sorted).Nodup := by
    refine (hperm.map key).nodup_iff.mpr ?_
    rw [List.map_append]
    exact h.nodup_keys.append (List.nodup_singleton _) (by simpa using ha)
  have hlt : sorted.Pairwise fun b c => key b < key c :=
    (hle.and (List.pairwise_map.mp hnodup)).imp fun hbc => lt_of_le_of_ne hbc.1 hbc.2
  refine eq_of_pairwise_lt (h.put a) hlt ?_
  intro b
  have hkey : b ∈ xs → key b ≠ key a := fun hb heq => ha (heq ▸ key_mem_keys hb)
  rw [mem_put_iff h, and_iff_left_of_imp hkey, hperm.mem_iff, List.mem_append,
    List.mem_singleton, or_comm]

/-- **Filing by scanning is filing in order**, on a shelf that is in order. -/
theorem Ascending.putByScan_eq_put {xs : List α} (h : Ascending xs) (a : α) :
    putByScan a xs = Shelf.put a xs := by
  unfold putByScan
  split
  · next i hi => exact (h.put_eq_set hi).symm
  · next hnone =>
      refine (h.put_eq_mergeSort fun hmem => ?_).symm
      obtain ⟨b, hb, hkey⟩ := mem_keys.mp hmem
      exact absurd (List.findIdx?_eq_none_iff.mp hnone b hb) (by simp [hkey])

theorem Ascending.foldl_putByScan {acc : List α} (h : Ascending acc) (xs : List α) :
    xs.foldl (fun acc x => putByScan x acc) acc = Shelf.merge (fun _ new => new) acc xs := by
  induction xs generalizing acc with
  | nil => rfl
  | cons x xs ih =>
      rw [List.foldl_cons, h.putByScan_eq_put, ih (h.put x)]
      rfl

/-- A list is filed alike by scanning and in order. -/
theorem scanAll_eq_ofList (xs : List α) : scanAll xs = ofList xs :=
  ascending_nil.foldl_putByScan xs

end Shelf

end CoverageDiff
