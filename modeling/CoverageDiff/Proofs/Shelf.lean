import Mathlib.Data.List.Forall2
import Mathlib.Data.String.Basic
import Mathlib.Order.Basic
import CoverageDiff.Shelf

/-!
# CoverageDiff.Proofs.Shelf

The theory of shelves.  Looking up is the one view of a shelf: an ascending
shelf is determined by what is found under each key (`Ascending.ext`), and
every operation is described by what it does to the look-up.

* `find?_put`, `find?_putWith`: filing changes what is found under one key;
* `find?_merge`: merging two shelves merges what is found under each key;
* `merge_assoc`, `merge_comm`: merging is associative and commutative where
  joining is;
* `find?_ofList`: filing a list with distinct keys changes no look-up.

Each of them gives an ascending shelf, whatever order the newcomers come in.
-/

namespace CoverageDiff

namespace Shelf

variable {α β κ : Type} [Filed α κ] [Filed β κ]

/-! ## Keys -/

@[simp] theorem keys_nil : keys ([] : List α) = [] := rfl

@[simp] theorem keys_cons (a : α) (xs : List α) : keys (a :: xs) = key a :: keys xs := rfl

theorem mem_keys {k : κ} {xs : List α} : k ∈ keys xs ↔ ∃ a ∈ xs, key a = k := List.mem_map

theorem key_mem_keys {a : α} {xs : List α} (h : a ∈ xs) : key a ∈ keys xs :=
  mem_keys.mpr ⟨a, h, rfl⟩

/-- A way to join two values with one key that leaves the key. -/
def KeepsKey (join : α → α → α) : Prop :=
  ∀ a b, key a = key b → key (join a b) = key a

theorem keepsKey_new : KeepsKey (fun _ new : α => new) := fun _ _ h => h.symm

/-! ## Looking up -/

section Lookup

variable [DecidableEq κ]

@[simp] theorem find?_cons_self (a : α) (xs : List α) : find? (key a) (a :: xs) = some a := by
  rw [find?_cons, if_pos rfl]

theorem find?_cons_ne {k : κ} {a : α} (h : key a ≠ k) (xs : List α) :
    find? k (a :: xs) = find? k xs := by
  rw [find?_cons, if_neg h]

/-- Nothing is found under a key that no value has. -/
theorem find?_eq_none_iff {k : κ} {xs : List α} : find? k xs = none ↔ k ∉ keys xs := by
  induction xs with
  | nil => simp
  | cons a xs ih =>
      by_cases h : key a = k
      · subst h
        simp
      · rw [find?_cons_ne h, ih, keys_cons, List.mem_cons, not_or]
        exact ⟨fun hk => ⟨Ne.symm h, hk⟩, fun hk => hk.2⟩

/-- With distinct keys every value is found under its own key. -/
theorem find?_key_of_mem {a : α} {xs : List α} (hxs : (keys xs).Nodup) (ha : a ∈ xs) :
    find? (key a) xs = some a := by
  induction xs with
  | nil => exact absurd ha List.not_mem_nil
  | cons b xs ih =>
      rw [keys_cons, List.nodup_cons] at hxs
      cases List.mem_cons.mp ha with
      | inl h => rw [h, find?_cons_self]
      | inr h =>
          have hne : key b ≠ key a := fun heq => hxs.1 (heq ▸ key_mem_keys h)
          rw [find?_cons_ne hne, ih hxs.2 h]

theorem find?_eq_some_iff {k : κ} {a : α} {xs : List α} (hxs : (keys xs).Nodup) :
    find? k xs = some a ↔ a ∈ xs ∧ key a = k := by
  constructor
  · intro h
    exact ⟨mem_of_find? h, key_of_find? h⟩
  · rintro ⟨ha, rfl⟩
    exact find?_key_of_mem hxs ha

/-- What is found does not depend on the order of a list with distinct keys. -/
theorem find?_perm {xs ys : List α} (h : xs.Perm ys) (hys : (keys ys).Nodup) (k : κ) :
    find? k xs = find? k ys := by
  have hxs : (keys xs).Nodup := (h.map key).nodup_iff.mpr hys
  apply Option.ext
  intro a
  rw [find?_eq_some_iff hxs, find?_eq_some_iff hys, h.mem_iff]

/-- A change of the values that leaves the keys changes what is found in the same way. -/
theorem find?_map {f : α → β} (hf : ∀ a, key (f a) = key a) (k : κ) (xs : List α) :
    find? k (xs.map f) = (find? k xs).map f := by
  induction xs with
  | nil => rfl
  | cons a xs ih =>
      by_cases h : key a = k
      · rw [List.map_cons, find?_cons, find?_cons, if_pos h, if_pos ((hf a).trans h)]
        rfl
      · have hfa : key (f a) ≠ k := fun heq => h ((hf a).symm.trans heq)
        rw [List.map_cons, find?_cons_ne hfa, find?_cons_ne h, ih]

/-- Of the values whose key passes, the same is found under a key that passes and nothing else. -/
theorem find?_filter (q : κ → Bool) (k : κ) (xs : List α) :
    find? k (xs.filter fun a => q (key a)) = if q k then find? k xs else none := by
  induction xs with
  | nil => simp
  | cons a xs ih =>
      by_cases hk : key a = k
      · subst hk
        by_cases hq : q (key a)
        · simp [hq]
        · simp [hq, ih]
      · by_cases hq : q (key a)
        · simp [hq, find?_cons_ne hk, ih]
        · simp [hq, find?_cons_ne hk, ih]

end Lookup

/-! ## Shelves in other orders -/

/-- What stands on the right of a list of pairs has a partner on the left. -/
theorem exists_mem_of_forall₂ {γ δ : Type} {R : γ → δ → Prop} {xs : List γ} {ys : List δ}
    (h : List.Forall₂ R xs ys) {y : δ} (hy : y ∈ ys) : ∃ x ∈ xs, R x y := by
  induction h with
  | nil => exact absurd hy List.not_mem_nil
  | @cons a b as bs hab _ ih =>
      rcases List.mem_cons.mp hy with rfl | hmem
      · exact ⟨a, List.mem_cons_self, hab⟩
      · obtain ⟨x, hx, hxy⟩ := ih hmem
        exact ⟨x, List.mem_cons_of_mem a hx, hxy⟩

/-- `xs` holds, in any order, one value for each value of `ys`, related to it by `R`. -/
def Reorders (R : α → α → Prop) (xs ys : List α) : Prop :=
  ∃ zs, xs.Perm zs ∧ List.Forall₂ R zs ys

namespace Reorders

variable {R : α → α → Prop} {xs ys : List α}

theorem refl (hR : ∀ a, R a a) (xs : List α) : Reorders R xs xs :=
  ⟨xs, List.Perm.refl xs, List.forall₂_same.mpr fun a _ => hR a⟩

theorem mono {S : α → α → Prop} (hRS : ∀ a b, R a b → S a b) (h : Reorders R xs ys) :
    Reorders S xs ys := by
  obtain ⟨zs, hperm, hzs⟩ := h
  exact ⟨zs, hperm, hzs.imp fun a b => hRS a b⟩

theorem exists_mem (h : Reorders R xs ys) {a : α} (ha : a ∈ xs) : ∃ b ∈ ys, R a b := by
  obtain ⟨zs, hperm, hzs⟩ := h
  exact exists_mem_of_forall₂ hzs.flip (hperm.mem_iff.mp ha)

theorem keys_perm (h : Reorders R xs ys) (hR : ∀ a b, R a b → key a = key b) :
    (keys xs).Perm (keys ys) := by
  obtain ⟨zs, hperm, hzs⟩ := h
  have hkeys : keys zs = keys ys := by
    induction hzs generalizing xs with
    | nil => rfl
    | @cons z y zs ys hzy _ ih => rw [keys_cons, keys_cons, hR z y hzy, ih (List.Perm.refl zs)]
  exact hkeys ▸ hperm.map key

theorem nodup_keys (h : Reorders R xs ys) (hR : ∀ a b, R a b → key a = key b)
    (hys : (keys ys).Nodup) : (keys xs).Nodup :=
  (h.keys_perm hR).nodup_iff.mpr hys

variable [DecidableEq κ]

/-- What is found does not depend on the order, up to `R`. -/
theorem rel_find? (h : Reorders R xs ys) (hR : ∀ a b, R a b → key a = key b)
    (hys : (keys ys).Nodup) (k : κ) : Option.Rel R (find? k xs) (find? k ys) := by
  have hxs := h.nodup_keys hR hys
  obtain ⟨zs, hperm, hzs⟩ := h
  have hzs' : (keys zs).Nodup := (hperm.map key).nodup_iff.mp hxs
  rw [find?_perm hperm hzs']
  clear hperm hxs hys hzs'
  induction hzs with
  | nil => exact .none
  | @cons z y zs ys hzy _ ih =>
      have hkey : key z = key y := hR z y hzy
      by_cases hy : key y = k
      · rw [find?_cons, find?_cons, if_pos (hkey.trans hy), if_pos hy]
        exact .some hzy
      · rw [find?_cons_ne (hkey ▸ hy), find?_cons_ne hy]
        exact ih

/-- What `f` reads of what is found does not depend on the order either. -/
theorem map_find? {γ : Type} {f : α → γ} (h : Reorders R xs ys)
    (hR : ∀ a b, R a b → key a = key b) (hys : (keys ys).Nodup)
    (hf : ∀ a, ∀ b ∈ ys, R a b → f a = f b) (k : κ) :
    (find? k xs).map f = (find? k ys).map f := by
  have hrel := h.rel_find? hR hys k
  have hmem : ∀ b, find? k ys = some b → b ∈ ys := fun _ => mem_of_find?
  generalize find? k xs = x at hrel ⊢
  generalize find? k ys = y at hrel hmem ⊢
  cases hrel with
  | none => rfl
  | some hab => exact congrArg some (hf _ _ (hmem _ rfl) hab)

end Reorders

/-! ## Ascending shelves -/

variable [LinearOrder κ]

theorem ascending_cons {a : α} {xs : List α} :
    Ascending (a :: xs) ↔ (∀ b ∈ xs, key a < key b) ∧ Ascending xs :=
  List.pairwise_cons

instance (xs : List α) : Decidable (Ascending xs) :=
  inferInstanceAs (Decidable (xs.Pairwise fun a b => key a < key b))

theorem Ascending.tail {a : α} {xs : List α} (h : Ascending (a :: xs)) : Ascending xs :=
  (ascending_cons.mp h).2

theorem Ascending.nodup_keys {xs : List α} (h : Ascending xs) : (keys xs).Nodup :=
  List.pairwise_map.mpr (h.imp fun hlt => ne_of_lt hlt)

theorem Ascending.nodup {xs : List α} (h : Ascending xs) : xs.Nodup :=
  h.imp fun hlt heq => ne_of_lt hlt (congrArg key heq)

theorem Ascending.map {f : α → β} (hf : ∀ a, key (f a) = key a) {xs : List α}
    (h : Ascending xs) : Ascending (xs.map f) := by
  refine List.pairwise_map.mpr (h.imp ?_)
  intro a b hlt
  rw [hf, hf]
  exact hlt

/-- Nothing is found under a key that is below all others. -/
theorem find?_eq_none_of_lt {k : κ} {xs : List α} (h : ∀ b ∈ xs, k < key b) :
    find? k xs = none := by
  rw [find?_eq_none_iff, mem_keys]
  rintro ⟨b, hb, hk⟩
  exact absurd (h b hb) (hk ▸ lt_irrefl (key b))

/-- Nothing is found in an ascending shelf under a key below its first. -/
theorem find?_cons_eq_none_of_lt {k : κ} {a : α} {xs : List α} (h : Ascending (a :: xs))
    (hk : k < key a) : find? k (a :: xs) = none := by
  apply find?_eq_none_of_lt
  intro b hb
  cases List.mem_cons.mp hb with
  | inl he => exact he ▸ hk
  | inr ht => exact lt_trans hk ((ascending_cons.mp h).1 b ht)

/-- Lists in a strictly ascending order of keys are equal if they have the same members. -/
theorem eq_of_pairwise_lt {γ : Type} {f : γ → κ} {us vs : List γ}
    (hu : us.Pairwise fun a b => f a < f b) (hv : vs.Pairwise fun a b => f a < f b)
    (h : ∀ a, a ∈ us ↔ a ∈ vs) : us = vs := by
  have hperm : us.Perm vs := by
    refine (List.perm_ext_iff_of_nodup ?_ ?_).mpr h
    · exact hu.imp fun hlt heq => ne_of_lt hlt (congrArg f heq)
    · exact hv.imp fun hlt heq => ne_of_lt hlt (congrArg f heq)
  refine hperm.eq_of_pairwise ?_ hu hv
  intro a b _ _ hab hba
  exact absurd hba (lt_asymm hab)

/-- **Extensionality**: an ascending shelf is determined by its look-up. -/
theorem Ascending.ext {xs ys : List α} (hxs : Ascending xs) (hys : Ascending ys)
    (h : ∀ k, find? k xs = find? k ys) : xs = ys := by
  refine eq_of_pairwise_lt hxs hys ?_
  intro a
  have hx := find?_eq_some_iff (k := key a) (a := a) hxs.nodup_keys
  have hy := find?_eq_some_iff (k := key a) (a := a) hys.nodup_keys
  rw [h (key a), hy] at hx
  simpa using hx.symm

/-! ## Filing one value -/

theorem mem_putWith {join : α → α → α} {a x : α} {xs : List α} (h : x ∈ putWith join a xs) :
    x = a ∨ x ∈ xs ∨ ∃ b ∈ xs, key a = key b ∧ x = join b a := by
  induction xs with
  | nil => exact Or.inl (List.mem_singleton.mp h)
  | cons b bs ih =>
      unfold putWith at h
      split at h
      · cases List.mem_cons.mp h with
        | inl he => exact Or.inl he
        | inr ht => exact Or.inr (Or.inl ht)
      · split at h
        · next hkey =>
            cases List.mem_cons.mp h with
            | inl he => exact Or.inr (Or.inr ⟨b, List.mem_cons_self, hkey, he⟩)
            | inr ht => exact Or.inr (Or.inl (List.mem_cons_of_mem b ht))
        · cases List.mem_cons.mp h with
          | inl he => exact Or.inr (Or.inl (he ▸ List.mem_cons_self))
          | inr ht =>
              rcases ih ht with hx | hx | ⟨c, hc, hkey, hx⟩
              · exact Or.inl hx
              · exact Or.inr (Or.inl (List.mem_cons_of_mem b hx))
              · exact Or.inr (Or.inr ⟨c, List.mem_cons_of_mem b hc, hkey, hx⟩)

/-- Filing a value adds its key and no other, in any list. -/
theorem mem_keys_putWith {join : α → α → α} (hjoin : KeepsKey join) {a : α} {xs : List α} {k : κ} :
    k ∈ keys (putWith join a xs) ↔ k ∈ keys xs ∨ k = key a := by
  induction xs with
  | nil => simp [putWith]
  | cons b bs ih =>
      unfold putWith
      split
      · rw [keys_cons, List.mem_cons, or_comm]
      · split
        · next heq =>
            rw [keys_cons, keys_cons, hjoin b a heq.symm, List.mem_cons, ← heq]
            exact ⟨Or.inl, fun h => h.elim id Or.inl⟩
        · rw [keys_cons, keys_cons, List.mem_cons, List.mem_cons, ih, or_assoc]

/-- What holds of all values, of the newcomer and of what it is joined to still holds of all. -/
theorem forall_mem_putWith {P : α → Prop} {join : α → α → α} {a : α} {xs : List α}
    (hxs : ∀ x ∈ xs, P x) (ha : P a) (hjoin : ∀ b ∈ xs, key a = key b → P (join b a)) :
    ∀ x ∈ putWith join a xs, P x := by
  intro x hx
  rcases mem_putWith hx with rfl | hmem | ⟨b, hb, hkey, rfl⟩
  · exact ha
  · exact hxs x hmem
  · exact hjoin b hb hkey

theorem Ascending.putWith {join : α → α → α} (hjoin : KeepsKey join) (a : α) {xs : List α}
    (h : Ascending xs) : Ascending (putWith join a xs) := by
  induction xs with
  | nil => exact List.pairwise_singleton _ a
  | cons b bs ih =>
      obtain ⟨hb, hbs⟩ := ascending_cons.mp h
      unfold Shelf.putWith
      split
      · next hlt =>
          refine ascending_cons.mpr ⟨?_, h⟩
          intro c hc
          cases List.mem_cons.mp hc with
          | inl he => exact he ▸ hlt
          | inr ht => exact lt_trans hlt (hb c ht)
      · next hnlt =>
          split
          · next heq =>
              refine ascending_cons.mpr ⟨?_, hbs⟩
              intro c hc
              rw [hjoin b a heq.symm]
              exact hb c hc
          · next hne =>
              have hba : key b < key a := lt_of_le_of_ne (not_lt.mp hnlt) (Ne.symm hne)
              refine ascending_cons.mpr ⟨?_, ih hbs⟩
              apply forall_mem_putWith hb hba
              intro c hc heq
              rw [hjoin c a heq.symm]
              exact hb c hc

/-- Filing a value joins it to what was found under its key. -/
theorem find?_putWith {join : α → α → α} (hjoin : KeepsKey join) (a : α) {xs : List α}
    (h : Ascending xs) (k : κ) :
    find? k (putWith join a xs) =
      if key a = k then Option.merge join (find? k xs) (some a) else find? k xs := by
  induction xs with
  | nil => simp [putWith, find?_cons]
  | cons b bs ih =>
      unfold putWith
      split
      · next hlt =>
          by_cases hk : key a = k
          · rw [find?_cons, if_pos hk, if_pos hk, find?_cons_eq_none_of_lt h (hk ▸ hlt),
              Option.merge_none_left]
          · rw [find?_cons_ne hk, if_neg hk]
      · split
        · next heq =>
            have hkey : key (join b a) = key a := (hjoin b a heq.symm).trans heq.symm
            by_cases hk : key a = k
            · rw [find?_cons, if_pos (hkey.trans hk), if_pos hk, find?_cons,
                if_pos (heq.symm.trans hk)]
              rfl
            · rw [find?_cons_ne (fun hc => hk (hkey.symm.trans hc)), if_neg hk,
                find?_cons_ne (fun hc => hk (heq.trans hc))]
        · next hne =>
            by_cases hb : key b = k
            · have hk : key a ≠ k := fun hc => hne (hc.trans hb.symm)
              rw [find?_cons, if_pos hb, if_neg hk, find?_cons, if_pos hb]
            · rw [find?_cons_ne hb, find?_cons_ne hb, ih h.tail]

theorem Ascending.put (a : α) {xs : List α} (h : Ascending xs) : Ascending (put a xs) :=
  Ascending.putWith keepsKey_new a h

theorem forall_mem_put {P : α → Prop} {a : α} {xs : List α} (hxs : ∀ x ∈ xs, P x) (ha : P a) :
    ∀ x ∈ put a xs, P x :=
  forall_mem_putWith hxs ha fun _ _ _ => ha

/-- A value put on a shelf is what is found under its key, in any list. -/
theorem find?_put (a : α) (xs : List α) (k : κ) :
    find? k (put a xs) = if key a = k then some a else find? k xs := by
  induction xs with
  | nil => rw [put, putWith, find?_cons]
  | cons b bs ih =>
      rw [put] at ih ⊢
      unfold putWith
      split
      · rw [find?_cons]
      · split
        · next heq =>
            by_cases hk : key a = k
            · rw [find?_cons, if_pos hk, if_pos hk]
            · rw [find?_cons_ne hk, if_neg hk, find?_cons_ne (fun hc => hk (heq.trans hc))]
        · next hne =>
            by_cases hb : key b = k
            · have hk : key a ≠ k := fun hc => hne (hc.trans hb.symm)
              rw [find?_cons, if_pos hb, if_neg hk, find?_cons, if_pos hb]
            · rw [find?_cons_ne hb, find?_cons_ne hb, ih]

/-- Putting what is found under its key changes nothing. -/
theorem Ascending.put_eq_self {a : α} {xs : List α} (h : Ascending xs)
    (ha : Shelf.find? (key a) xs = some a) : Shelf.put a xs = xs := by
  refine (h.put a).ext h ?_
  intro k
  rw [find?_put]
  by_cases hk : key a = k
  · rw [if_pos hk, ← hk, ha]
  · rw [if_neg hk]

/-- Of two values put under one key the later stays. -/
theorem Ascending.put_put {xs : List α}
    (h : Ascending xs) {a b : α} (hkey : key a = key b) :
    Shelf.put a (Shelf.put b xs) = Shelf.put a xs := by
  refine ((h.put b).put a).ext (h.put a) fun k => ?_
  rw [find?_put, find?_put, find?_put, hkey]
  split <;> rfl

/-- Joining a value to the one that is there and putting the result is filing it. -/
theorem Ascending.put_elim {join : α → α → α} (hjoin : KeepsKey join) {xs : List α}
    (h : Ascending xs) (b : α) :
    Shelf.put ((Shelf.find? (key b) xs).elim b fun a => join a b) xs = Shelf.putWith join b xs := by
  refine (h.put _).ext (h.putWith hjoin b) fun k => ?_
  rw [find?_put, find?_putWith hjoin b h]
  cases hfound : Shelf.find? (key b) xs with
  | none =>
      by_cases hk : key b = k
      · rw [Option.elim_none, if_pos hk, if_pos hk, ← hk, hfound, Option.merge_none_left]
      · rw [Option.elim_none, if_neg hk, if_neg hk]
  | some a =>
      have hkey : key (join a b) = key b :=
        (hjoin a b (key_of_find? hfound)).trans (key_of_find? hfound)
      by_cases hk : key b = k
      · rw [Option.elim_some, if_pos (hkey.trans hk), if_pos hk, ← hk, hfound]
        rfl
      · rw [Option.elim_some, if_neg fun h => hk (hkey.symm.trans h), if_neg hk]

/-- A value that comes after all others is filed last. -/
theorem Ascending.put_eq_append {a : α} {xs ys : List α} (h : Ascending (xs ++ a :: ys)) :
    Shelf.put a xs = xs ++ [a] := by
  have hlt : ∀ x ∈ xs, key x < key a :=
    fun x hx => (List.pairwise_append.mp h).2.2 x hx a List.mem_cons_self
  clear h
  induction xs with
  | nil => rfl
  | cons b bs ih =>
      have hb : key b < key a := hlt b List.mem_cons_self
      have hrest := ih fun x hx => hlt x (List.mem_cons_of_mem b hx)
      rw [Shelf.put] at hrest ⊢
      rw [Shelf.putWith, if_neg (lt_asymm hb), if_neg (ne_of_gt hb), hrest, List.cons_append]

/-- A value that comes after all others has a key of its own. -/
theorem Ascending.find?_eq_none {a : α} {xs ys : List α} (h : Ascending (xs ++ a :: ys)) :
    Shelf.find? (key a) xs = none := by
  rw [find?_eq_none_iff, mem_keys]
  rintro ⟨x, hx, hkey⟩
  have hlt : key x < key a := (List.pairwise_append.mp h).2.2 x hx a List.mem_cons_self
  exact ne_of_lt hlt hkey

/-! ## Filing many values -/

theorem Ascending.merge {join : α → α → α} (hjoin : KeepsKey join) (ys : List α) {xs : List α}
    (h : Ascending xs) : Ascending (merge join xs ys) := by
  induction ys generalizing xs with
  | nil => exact h
  | cons y ys ih => exact ih (Ascending.putWith hjoin y h)

/-- The keys of two merged lists are those of both. -/
theorem mem_keys_merge {join : α → α → α} (hjoin : KeepsKey join) {xs ys : List α} {k : κ} :
    k ∈ keys (merge join xs ys) ↔ k ∈ keys xs ∨ k ∈ keys ys := by
  induction ys generalizing xs with
  | nil => simp
  | cons y ys ih =>
      have hstep : merge join xs (y :: ys) = merge join (putWith join y xs) ys := rfl
      rw [hstep, ih, mem_keys_putWith hjoin, keys_cons, List.mem_cons, or_assoc]

/-- What holds of the values of both sides and of any two joined holds of all that is merged. -/
theorem forall_mem_merge {P : α → Prop} {join : α → α → α} {xs ys : List α}
    (hxs : ∀ x ∈ xs, P x) (hys : ∀ y ∈ ys, P y) (hjoin : ∀ a b, P a → P b → P (join a b)) :
    ∀ x ∈ merge join xs ys, P x := by
  induction ys generalizing xs with
  | nil => exact hxs
  | cons y ys ih =>
      have hy : P y := hys y List.mem_cons_self
      apply ih
      · apply forall_mem_putWith hxs hy
        intro b hb _
        exact hjoin b y (hxs b hb) hy
      · exact fun z hz => hys z (List.mem_cons_of_mem y hz)

/-- **Merging is merging by key**: what both sides hold under a key is joined, what one side
holds is kept. -/
theorem find?_merge {join : α → α → α} (hjoin : KeepsKey join) {xs ys : List α}
    (hxs : Ascending xs) (hys : (keys ys).Nodup) (k : κ) :
    find? k (merge join xs ys) = Option.merge join (find? k xs) (find? k ys) := by
  induction ys generalizing xs with
  | nil => rw [merge_nil, find?_nil, Option.merge_none_right]
  | cons y ys ih =>
      rw [keys_cons, List.nodup_cons] at hys
      have hstep : merge join xs (y :: ys) = merge join (putWith join y xs) ys := rfl
      rw [hstep, ih (Ascending.putWith hjoin y hxs) hys.2, find?_putWith hjoin y hxs]
      by_cases hk : key y = k
      · have hnone : find? k ys = none := find?_eq_none_iff.mpr (hk ▸ hys.1)
        rw [if_pos hk, hnone, Option.merge_none_right, find?_cons, if_pos hk]
      · rw [if_neg hk, find?_cons_ne hk]

/-- The values that are merged in may come in any order. -/
theorem Ascending.merge_perm {join : α → α → α} (hjoin : KeepsKey join) {xs ys zs : List α}
    (hxs : Ascending xs) (hys : Ascending ys) (h : zs.Perm ys) :
    Shelf.merge join xs zs = Shelf.merge join xs ys := by
  have hzs : (keys zs).Nodup := (h.map key).nodup_iff.mpr hys.nodup_keys
  refine (hxs.merge hjoin zs).ext (hxs.merge hjoin ys) fun k => ?_
  rw [find?_merge hjoin hxs hzs, find?_merge hjoin hxs hys.nodup_keys,
    find?_perm h hys.nodup_keys]

/-- Filing a list is merging it into an empty shelf, the later value winning. -/
theorem ofList_eq_merge (xs : List α) : ofList xs = merge (fun _ new => new) [] xs := rfl

theorem Ascending.ofList (xs : List α) : Ascending (ofList xs) :=
  Ascending.merge keepsKey_new xs ascending_nil

theorem mem_keys_ofList {xs : List α} {k : κ} : k ∈ keys (ofList xs) ↔ k ∈ keys xs := by
  rw [ofList_eq_merge, mem_keys_merge keepsKey_new]
  simp

/-- Filing a list with distinct keys changes only its order. -/
theorem find?_ofList {xs : List α} (h : (keys xs).Nodup) (k : κ) :
    find? k (ofList xs) = find? k xs := by
  have hmerge := find?_merge keepsKey_new ascending_nil h k
  rw [find?_nil, Option.merge_none_left] at hmerge
  exact hmerge

theorem perm_ofList {xs : List α} (h : (keys xs).Nodup) : (ofList xs).Perm xs := by
  have hasc : Ascending (ofList xs) := Ascending.ofList xs
  have hxs : xs.Nodup := List.Pairwise.of_map key (fun _ _ hne heq => hne (congrArg key heq)) h
  refine (List.perm_ext_iff_of_nodup hasc.nodup hxs).mpr ?_
  intro a
  have hfound := find?_ofList h (key a)
  rw [Option.ext_iff] at hfound
  simpa [find?_eq_some_iff hasc.nodup_keys, find?_eq_some_iff h] using hfound a

/-! ## Merging what is found -/

section Option

variable {γ : Type} {join : α → α → α} {x y z : Option α}

/-- What is found inside two values that are joined is merged if joining merges it. -/
theorem optionMerge_bind {inner : γ → γ → γ} {f : α → Option γ}
    (h : ∀ a b, x = some a → y = some b → f (join a b) = Option.merge inner (f a) (f b)) :
    (Option.merge join x y).bind f = Option.merge inner (x.bind f) (y.bind f) := by
  cases x with
  | none => rw [Option.merge_none_left, Option.bind_none, Option.merge_none_left]
  | some a =>
      cases y with
      | none => rw [Option.merge_none_right, Option.bind_none, Option.merge_none_right]
      | some b => exact h a b rfl rfl

/-- Merging what is found is associative where joining it is. -/
theorem optionMerge_assoc
    (h : ∀ a b c, x = some a → y = some b → z = some c →
      join (join a b) c = join a (join b c)) :
    Option.merge join (Option.merge join x y) z = Option.merge join x (Option.merge join y z) := by
  cases x with
  | none => rw [Option.merge_none_left, Option.merge_none_left]
  | some a =>
      cases y with
      | none => rw [Option.merge_none_right, Option.merge_none_left]
      | some b =>
          cases z with
          | none => rw [Option.merge_none_right, Option.merge_none_right]
          | some c => exact congrArg some (h a b c rfl rfl rfl)

/-- What `f` reads of a merge does not depend on the order where it does not of what is joined. -/
theorem map_optionMerge_comm {f : α → γ}
    (h : ∀ a b, x = some a → y = some b → f (join a b) = f (join b a)) :
    (Option.merge join x y).map f = (Option.merge join y x).map f := by
  cases x with
  | none => rw [Option.merge_none_left, Option.merge_none_right]
  | some a =>
      cases y with
      | none => rw [Option.merge_none_left, Option.merge_none_right]
      | some b => exact congrArg some (h a b rfl rfl)

/-- What `f` reads of two sides is the same if both or neither is there and it is the same of what
they hold. -/
theorem map_eq_of_isSome_iff {f : α → γ} (h : x.isSome ↔ y.isSome)
    (hf : ∀ a b, x = some a → y = some b → f a = f b) : x.map f = y.map f := by
  cases x with
  | none =>
      cases y with
      | none => rfl
      | some b => simp at h
  | some a =>
      cases y with
      | none => simp at h
      | some b => exact congrArg some (hf a b rfl rfl)

theorem optionMerge_comm (h : ∀ a b, x = some a → y = some b → join a b = join b a) :
    Option.merge join x y = Option.merge join y x := by
  have hmap := map_optionMerge_comm (f := id) h
  rwa [Option.map_id_apply, Option.map_id_apply] at hmap

/-- What `f` reads of a merge is merged if joining merges it. -/
theorem map_optionMerge {inner : γ → γ → γ} {f : α → γ}
    (h : ∀ a b, x = some a → y = some b → f (join a b) = inner (f a) (f b)) :
    (Option.merge join x y).map f = Option.merge inner (x.map f) (y.map f) := by
  cases x with
  | none => rw [Option.merge_none_left, Option.map_none, Option.merge_none_left]
  | some a =>
      cases y with
      | none => rw [Option.merge_none_right, Option.map_none, Option.merge_none_right]
      | some b => exact congrArg some (h a b rfl rfl)

/-- Something is found under a key of a merge exactly if it is found on a side. -/
theorem isSome_optionMerge_iff : (Option.merge join x y).isSome ↔ x.isSome ∨ y.isSome := by
  rw [Option.isSome_merge, Bool.or_eq_true]

/-- A count that joining adds is added by merging, what is missing counting zero. -/
theorem getD_optionMerge {count : α → Int} (hadd : ∀ a b, count (join a b) = count a + count b)
    (x y : Option α) :
    ((Option.merge join x y).map count).getD 0 = (x.map count).getD 0 + (y.map count).getD 0 := by
  cases x with
  | none => rw [Option.merge_none_left, Option.map_none, Option.getD_none, Int.zero_add]
  | some a =>
      cases y with
      | none => rw [Option.merge_none_right, Option.map_none, Option.getD_none, Int.add_zero]
      | some b => exact hadd a b

end Option

/-! ## Laws of merging -/

/-- Values of distinct keys, merged into an empty shelf in any order, are put in order. -/
theorem nil_merge_perm {join : α → α → α} (hjoin : KeepsKey join) {xs ys : List α}
    (h : ys.Perm xs) (hxs : Ascending xs) : merge join [] ys = xs := by
  have hys : (keys ys).Nodup := (h.map key).nodup_iff.mpr hxs.nodup_keys
  refine (Ascending.merge hjoin ys ascending_nil).ext hxs ?_
  intro k
  rw [find?_merge hjoin ascending_nil hys, find?_nil, Option.merge_none_left,
    find?_perm h hxs.nodup_keys]

/-- Merging into an empty shelf files the values as they are. -/
theorem nil_merge {join : α → α → α} (hjoin : KeepsKey join) {ys : List α} (hys : Ascending ys) :
    merge join [] ys = ys :=
  nil_merge_perm hjoin (.refl ys) hys

/-- Merging is associative where joining is, for values of the three sides with one key. -/
theorem merge_assoc {join : α → α → α} (hjoin : KeepsKey join) {xs ys zs : List α}
    (hxs : Ascending xs) (hys : Ascending ys) (hzs : (keys zs).Nodup)
    (hassoc : ∀ a ∈ xs, ∀ b ∈ ys, ∀ c ∈ zs, key a = key b → key b = key c →
      join (join a b) c = join a (join b c)) :
    merge join (merge join xs ys) zs = merge join xs (merge join ys zs) := by
  have hxy : Ascending (merge join xs ys) := Ascending.merge hjoin ys hxs
  have hyz : Ascending (merge join ys zs) := Ascending.merge hjoin zs hys
  refine (Ascending.merge hjoin zs hxy).ext (Ascending.merge hjoin _ hxs) ?_
  intro k
  rw [find?_merge hjoin hxy hzs, find?_merge hjoin hxs hys.nodup_keys,
    find?_merge hjoin hxs hyz.nodup_keys, find?_merge hjoin hys hzs]
  apply optionMerge_assoc
  intro a b c ha hb hc
  have hab : key a = key b := (key_of_find? ha).trans (key_of_find? hb).symm
  have hbc : key b = key c := (key_of_find? hb).trans (key_of_find? hc).symm
  exact hassoc a (mem_of_find? ha) b (mem_of_find? hb) c (mem_of_find? hc) hab hbc

/-- What `f` reads of two merged shelves does not depend on the order of the two where it does
not of two joined values, one of each side, with one key. -/
theorem map_merge_comm {join : α → α → α} (hjoin : KeepsKey join) {f : α → β}
    (hf : ∀ a, key (f a) = key a) {xs ys : List α} (hxs : Ascending xs) (hys : Ascending ys)
    (hcomm : ∀ a ∈ xs, ∀ b ∈ ys, key a = key b → f (join a b) = f (join b a)) :
    (merge join xs ys).map f = (merge join ys xs).map f := by
  have hxy : Ascending (merge join xs ys) := Ascending.merge hjoin ys hxs
  have hyx : Ascending (merge join ys xs) := Ascending.merge hjoin xs hys
  refine (Ascending.map hf hxy).ext (Ascending.map hf hyx) ?_
  intro k
  rw [find?_map hf, find?_map hf, find?_merge hjoin hxs hys.nodup_keys,
    find?_merge hjoin hys hxs.nodup_keys]
  apply map_optionMerge_comm
  intro a b ha hb
  have hab : key a = key b := (key_of_find? ha).trans (key_of_find? hb).symm
  exact hcomm a (mem_of_find? ha) b (mem_of_find? hb) hab

/-- Merging is commutative where joining is, for values of the two sides with one key. -/
theorem merge_comm {join : α → α → α} (hjoin : KeepsKey join) {xs ys : List α}
    (hxs : Ascending xs) (hys : Ascending ys)
    (hcomm : ∀ a ∈ xs, ∀ b ∈ ys, key a = key b → join a b = join b a) :
    merge join xs ys = merge join ys xs := by
  have h := map_merge_comm (f := id) hjoin (fun _ => rfl) hxs hys hcomm
  rwa [List.map_id, List.map_id] at h

end Shelf

end CoverageDiff
