import Mathlib.Data.List.Forall2

/-!
# CoverageDiff.Proofs.Steps

Steps that can fail, one after another.  A run is peeled apart step by step:
it succeeds if each step does on what the one before gave, and fails with the
error of the first step that fails.

* `foldlM_eq_ok`: what every accepted step keeps, an accepted run keeps;
* `foldlM_isOk_iff`: steps that do not depend on each other;
* `mapM_eq_ok_iff`: the same step on each element of a list.
-/

namespace CoverageDiff

variable {ε α β : Type}

/-! ## Two steps -/

theorem bind_eq_ok {x : Except ε α} {f : α → Except ε β} {b : β}
    (h : x >>= f = .ok b) : ∃ a, x = .ok a ∧ f a = .ok b := by
  cases x with
  | error e => cases h
  | ok a => exact ⟨a, rfl, h⟩

theorem bind_eq_ok_iff {x : Except ε α} {f : α → Except ε β} {b : β} :
    x >>= f = .ok b ↔ ∃ a, x = .ok a ∧ f a = .ok b := by
  constructor
  · exact bind_eq_ok
  · rintro ⟨a, rfl, hb⟩
    exact hb

theorem bind_isOk_iff {x : Except ε α} {f : α → Except ε β} :
    (∃ b, x >>= f = .ok b) ↔ ∃ a, x = .ok a ∧ ∃ b, f a = .ok b := by
  constructor
  · rintro ⟨b, h⟩
    obtain ⟨a, ha, hb⟩ := bind_eq_ok h
    exact ⟨a, ha, b, hb⟩
  · rintro ⟨a, rfl, b, hb⟩
    exact ⟨b, hb⟩

theorem bind_eq_error_iff {x : Except ε α} {f : α → Except ε β} {e : ε} :
    x >>= f = .error e ↔ x = .error e ∨ ∃ a, x = .ok a ∧ f a = .error e := by
  cases x with
  | error e' => simp [bind, Except.bind]
  | ok a => simp [bind, Except.bind]

/-! ## A step and what is made of it -/

theorem map_eq_ok {x : Except ε α} {f : α → β} {b : β}
    (h : x.map f = .ok b) : ∃ a, x = .ok a ∧ f a = b := by
  cases x with
  | error e => cases h
  | ok a => exact ⟨a, rfl, Except.ok.inj h⟩

theorem map_isOk_iff {x : Except ε α} {f : α → β} :
    (∃ b, x.map f = .ok b) ↔ ∃ a, x = .ok a := by
  cases x with
  | error e => simp [Except.map]
  | ok a => simp [Except.map]

theorem map_eq_error_iff {x : Except ε α} {f : α → β} {e : ε} :
    x.map f = .error e ↔ x = .error e := by
  cases x with
  | error e' => simp [Except.map]
  | ok a => simp [Except.map]

/-! ## Success or failure -/

theorem not_isOk_iff {x : Except ε α} : (¬∃ a, x = .ok a) ↔ ∃ e, x = .error e := by
  cases x with
  | error e => simp
  | ok a => simp

theorem isOk_iff {x : Except ε α} : (∃ a, x = .ok a) ↔ ∀ e, x ≠ .error e := by
  cases x with
  | error e => simp
  | ok a => simp

theorem isOk_of_isSome {x : Except ε α} (h : x.toOption.isSome = true) : ∃ a, x = .ok a := by
  cases x with
  | error e => cases h
  | ok a => exact ⟨a, rfl⟩

/-! ## Runs -/

/-- What every accepted step keeps, an accepted run keeps. -/
theorem foldlM_eq_ok {f : β → α → Except ε β} {P : β → Prop} {xs : List α}
    (hstep : ∀ b b', ∀ x ∈ xs, P b → f b x = .ok b' → P b') {b b' : β} (hb : P b)
    (h : xs.foldlM f b = .ok b') : P b' := by
  induction xs generalizing b with
  | nil =>
      cases h
      exact hb
  | cons x xs ih =>
      rw [List.foldlM_cons] at h
      obtain ⟨c, hc, hrest⟩ := bind_eq_ok h
      have hPc : P c := hstep b c x List.mem_cons_self hb hc
      exact ih (fun d d' y hy => hstep d d' y (List.mem_cons_of_mem x hy)) hPc hrest

/-- Steps that are accepted whatever was done before are all accepted. -/
theorem foldlM_isOk_iff {f : β → α → Except ε β} {P : α → Prop}
    (hf : ∀ b a, (∃ b', f b a = .ok b') ↔ P a) (xs : List α) (b : β) :
    (∃ b', xs.foldlM f b = .ok b') ↔ ∀ a ∈ xs, P a := by
  induction xs generalizing b with
  | nil => simp [pure, Except.pure]
  | cons a xs ih =>
      rw [List.foldlM_cons, bind_isOk_iff, List.forall_mem_cons, ← hf b a]
      simp only [ih]
      exact exists_and_right

/-- The same step on each element succeeds if it does on all, and gives what each gives. -/
theorem mapM_eq_ok_iff {f : α → Except ε β} {xs : List α} {ys : List β} :
    xs.mapM f = .ok ys ↔ List.Forall₂ (fun x y => f x = .ok y) xs ys := by
  induction xs generalizing ys with
  | nil => simp [pure, Except.pure, eq_comm]
  | cons x xs ih =>
      rw [List.mapM_cons, List.forall₂_cons_left_iff, bind_eq_ok_iff]
      simp only [bind_eq_ok_iff, ih]
      constructor
      · rintro ⟨y, hy, zs, hzs, h⟩
        cases h
        exact ⟨y, zs, hy, hzs, rfl⟩
      · rintro ⟨y, zs, hy, hzs, rfl⟩
        exact ⟨y, hy, zs, hzs, rfl⟩

theorem mapM_isOk_iff {f : α → Except ε β} {xs : List α} :
    (∃ ys, xs.mapM f = .ok ys) ↔ ∀ x ∈ xs, ∃ y, f x = .ok y := by
  induction xs with
  | nil => simp [pure, Except.pure]
  | cons x xs ih =>
      rw [List.mapM_cons, bind_isOk_iff, List.forall_mem_cons, ← ih]
      constructor
      · rintro ⟨y, hy, _, h⟩
        obtain ⟨ys, hys, _⟩ := bind_eq_ok h
        exact ⟨⟨y, hy⟩, ys, hys⟩
      · rintro ⟨⟨y, hy⟩, ys, hys⟩
        exact ⟨y, hy, y :: ys, bind_eq_ok_iff.mpr ⟨ys, hys, rfl⟩⟩

end CoverageDiff
