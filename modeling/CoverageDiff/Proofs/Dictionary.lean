import CoverageDiff.Dictionary
import CoverageDiff.Proofs.Overwriting

/-!
# CoverageDiff.Proofs.Dictionary

The theory of dictionaries.  As with shelves, looking up is the one view that
everything else is said of.

* `get?_set`, `get?_filter`, `get?_ofValues`: what is found after each
  operation;
* `set_eq_self`: storing again what is there changes nothing, not even the
  order;
* `map_values_eq`: the values, gone through by ascending key, are the
  ascending shelf on which the same is found;
* `exists_perm`: gone through in the order of setting, they are this shelf in
  another order.
-/

namespace CoverageDiff

open CoverageDiff.Shelf

namespace Dictionary

section Lookup

variable {κ β : Type} [DecidableEq κ] {d : Dictionary κ β} {k : κ} {b : β}

/-- What is found are the entries. -/
theorem get?_eq_some_iff : d.get? k = some b ↔ (k, b) ∈ d.entries := by
  rw [get?, Option.map_eq_some_iff]
  constructor
  · rintro ⟨e, he, rfl⟩
    obtain ⟨hmem, rfl⟩ := (find?_eq_some_iff d.nodup).mp he
    exact hmem
  · intro h
    exact ⟨(k, b), (find?_eq_some_iff d.nodup).mpr ⟨h, rfl⟩, rfl⟩

@[simp] theorem get?_empty (k : κ) : (empty : Dictionary κ β).get? k = none := rfl

theorem find?_setEntry (k : κ) (b : β) (es : List (κ × β)) (j : κ) :
    (find? j (setEntry k b es)).map Prod.snd =
      if k = j then some b else (find? j es).map Prod.snd := by
  have hcons : ∀ (e : κ × β) xs, find? j (e :: xs) = if e.1 = j then some e else find? j xs :=
    fun e xs => find?_cons j e xs
  induction es with
  | nil => rw [setEntry, hcons]; split <;> rfl
  | cons e es ih =>
      rw [setEntry]
      split
      · next heq =>
          rw [hcons, hcons, heq]
          split <;> rfl
      · next hne =>
          rw [hcons, hcons]
          by_cases hj : e.1 = j
          · rw [if_pos hj, if_pos hj, if_neg fun h => hne (hj.trans h.symm)]
          · rw [if_neg hj, if_neg hj, ih]

/-- A value that was set is found under its key, and all others as before. -/
@[simp] theorem get?_set (d : Dictionary κ β) (k : κ) (b : β) (j : κ) :
    (d.set k b).get? j = if k = j then some b else d.get? j :=
  find?_setEntry k b d.entries j

/-- Storing again what is there leaves the dictionary. -/
theorem set_eq_self (h : d.get? k = some b) : d.set k b = d := by
  have hentries : ∀ es : List (κ × β), (keys es).Nodup → (k, b) ∈ es → setEntry k b es = es := by
    intro es hes hmem
    induction es with
    | nil => cases hmem
    | cons e es ih =>
        obtain ⟨he, hrest⟩ := List.nodup_cons.mp hes
        rw [setEntry]
        rcases List.mem_cons.mp hmem with rfl | htail
        · rw [if_pos rfl]
        · have hne : e.1 ≠ k := by
            rintro rfl
            exact he (mem_keys.mpr ⟨_, htail, rfl⟩)
          rw [if_neg hne, ih hrest htail]
  obtain ⟨es, hes⟩ := d
  rw [set]
  congr
  exact hentries es hes (get?_eq_some_iff.mp h)

/-- Of two values set under one key the later stays, at the same place. -/
@[simp] theorem set_set (d : Dictionary κ β) (k : κ) (a b : β) : (d.set k a).set k b = d.set k b := by
  have hentries : ∀ es : List (κ × β), setEntry k b (setEntry k a es) = setEntry k b es := by
    intro es
    induction es with
    | nil => simp [setEntry]
    | cons e es ih =>
        by_cases he : e.1 = k
        · simp [setEntry, he]
        · simp [setEntry, he, ih]
  rw [set, set, set]
  congr 1
  exact hentries d.entries

theorem get?_filter (d : Dictionary κ β) (p : κ → Bool) (k : κ) :
    (d.filter p).get? k = if p k then d.get? k else none := by
  have hfilter := find?_filter p k d.entries
  rw [get?, get?]
  refine (congrArg (Option.map Prod.snd) hfilter).trans ?_
  split <;> rfl

/-- With distinct keys each value is found under its own. -/
theorem get?_ofValues [Filed β κ] {bs : List β} (h : (keys bs).Nodup) (k : κ) :
    (ofValues bs).get? k = find? k bs := by
  have hloop : ∀ d : Dictionary κ β,
      (bs.foldl (fun d b => d.set (key b) b) d).get? k = (find? k bs).or (d.get? k) := by
    induction bs with
    | nil => exact fun d => rfl
    | cons b bs ih =>
        intro d
        obtain ⟨hb, hrest⟩ := List.nodup_cons.mp h
        rw [List.foldl_cons, ih hrest, get?_set, find?_cons]
        by_cases hk : key b = k
        · have hnone : find? k bs = none := find?_eq_none_iff.mpr (hk ▸ hb)
          rw [if_pos hk, if_pos hk, hnone, Option.none_or, Option.some_or]
        · rw [if_neg hk, if_neg hk]
  rw [ofValues, hloop, get?_empty, Option.or_none]

end Lookup

/-- What `f` makes of the values of a dictionary is the ascending shelf on which the same is found. -/
theorem map_values_eq {κ β γ : Type} [LinearOrder κ] [Filed γ κ] {d : Dictionary κ β} {f : β → γ}
    {cs : List γ} (hcs : Ascending cs) (h : ∀ k, (d.get? k).map f = find? k cs) :
    d.values.map f = cs := by
  let under : κ × β → κ × γ := fun e => (e.1, f e.2)
  let own : γ → κ × γ := fun c => (key c, c)
  have hunder : ∀ e, key (under e) = key e := fun _ => rfl
  have hown : ∀ c, key (own c) = key c := fun _ => rfl
  have hsame : (Shelf.ofList d.entries).map under = cs.map own := by
    refine ((Ascending.ofList d.entries).map hunder).ext (hcs.map hown) ?_
    intro k
    have hk := h k
    rw [find?_map hunder, find?_map hown, find?_ofList d.nodup, ← hk, get?]
    rw [get?] at hk
    cases he : find? k d.entries with
    | none => rfl
    | some e =>
        -- the value that is found has the key it is stored under
        rw [he] at hk
        have hkey : key (f e.2) = e.1 := (key_of_find? hk.symm).trans (key_of_find? he).symm
        simp only [Option.map_some, under, own, hkey]
  have hsnd := congrArg (List.map Prod.snd) hsame
  rw [List.map_map, List.map_map] at hsnd
  rw [values, List.map_map]
  exact hsnd.trans (List.map_id cs)

/-- The entries of a dictionary are, in another order, the values of a shelf on which the same is
found. -/
theorem exists_perm {κ β γ : Type} [DecidableEq κ] [Filed γ κ] {d : Dictionary κ β}
    {R : β → γ → Prop} {cs : List γ} (hcs : (keys cs).Nodup)
    (h : ∀ k, Option.Rel R (d.get? k) (find? k cs)) :
    ∃ cs', cs'.Perm cs ∧ List.Forall₂ (fun e c => e.1 = key c ∧ R e.2 c) d.entries cs' := by
  refine ⟨(keys d.entries).filterMap fun k => find? k cs, ?_, ?_⟩
  · have hnodup : ((keys d.entries).filterMap fun k => find? k cs).Nodup := by
      refine d.nodup.filterMap fun k k' c hk hk' => ?_
      exact (key_of_find? hk).symm.trans (key_of_find? hk')
    refine (List.perm_ext_iff_of_nodup hnodup (List.Nodup.of_map _ hcs)).mpr fun c => ?_
    rw [List.mem_filterMap]
    constructor
    · rintro ⟨k, -, hk⟩
      exact mem_of_find? hk
    · intro hmem
      have hc : find? (key c) cs = some c := find?_key_of_mem hcs hmem
      have hrel := h (key c)
      rw [hc] at hrel
      generalize hb : d.get? (key c) = found at hrel
      cases hrel with
      | some hR => exact ⟨key c, mem_keys.mpr ⟨_, get?_eq_some_iff.mp hb, rfl⟩, hc⟩
  · have hfound : ∀ e ∈ d.entries, Option.Rel R (some e.2) (find? e.1 cs) :=
      fun e he => get?_eq_some_iff.mpr he ▸ h e.1
    generalize d.entries = es at hfound
    induction es with
    | nil => exact .nil
    | cons e es ih =>
        have hrest := ih fun e he => hfound e (List.mem_cons_of_mem _ he)
        have hrel := hfound e List.mem_cons_self
        generalize hc : find? e.1 cs = found at hrel
        cases hrel with
        | some hR =>
            have hkey : find? (key e) cs = some _ := hc
            rw [keys_cons, List.filterMap_cons, hkey]
            exact .cons ⟨(key_of_find? hc).symm, hR⟩ hrest

end Dictionary

end CoverageDiff
