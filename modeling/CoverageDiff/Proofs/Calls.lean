import Mathlib.Data.List.Forall2
import CoverageDiff.KeyedTree

/-!
# CoverageDiff.Proofs.Calls

How calls on objects are reasoned about.

1. A call *agrees* with an operation on values if it gives the same or is
   refused for the same reason, and leaves an object that stands in a given
   relation to what the operation leaves (`Agrees`).  A call *makes* what an
   operation gives if only the result matters (`Makes`).
2. A call that is refused was refused by one of the calls it is put together
   from (`Call.bind_eq_error_iff`, `Call.callOn_eq_error_iff`).
3. `NeverRefused` are the calls that give something of every object.
-/

namespace CoverageDiff

/-! ## Calls one after another -/

section Run

variable {ε σ α β : Type}

theorem Call.modify_eq (f : σ → σ) (s : σ) : (modify f : EStateM ε σ PUnit) s = .ok ⟨⟩ (f s) := rfl

theorem Call.throw_eq (e : ε) (s : σ) : (throw e : EStateM ε σ α) s = .error e s := rfl

theorem Call.get_bind (f : σ → EStateM ε σ α) (s : σ) : (get >>= f) s = f s s := rfl

theorem Call.bind_eq (x : EStateM ε σ α) (f : α → EStateM ε σ β) (s : σ) :
    (x >>= f) s = match x s with
      | .ok a s' => f a s'
      | .error e s' => .error e s' := rfl

end Run

/-! ## Calls that agree with operations -/

section Agreement

variable {ε σ τ υ ω α β : Type} {R : σ → υ → Prop}

/-- A call gives what an operation gives or is refused for the same reason, and leaves an object
that `R` relates to what the operation leaves. -/
inductive Agrees (R : σ → υ → Prop) : EStateM.Result ε σ α → υ × Except ε α → Prop
  | ok {a : α} {s : σ} {t : υ} (h : R s t) : Agrees R (.ok a s) (t, .ok a)
  | error {e : ε} {s : σ} {t : υ} (h : R s t) : Agrees R (.error e s) (t, .error e)

theorem Agrees.exists_ok {r : EStateM.Result ε σ α} {t : υ} {a : α}
    (h : Agrees R r (t, .ok a)) : ∃ s, r = .ok a s ∧ R s t := by
  cases h with
  | ok h => exact ⟨_, rfl, h⟩

theorem Agrees.exists_error {r : EStateM.Result ε σ α} {t : υ} {e : ε}
    (h : Agrees R r (t, .error e)) : ∃ s, r = .error e s ∧ R s t := by
  cases h with
  | error h => exact ⟨_, rfl, h⟩

theorem Agrees.mono {R' : σ → ω → Prop} {r : EStateM.Result ε σ α} {t : υ} {t' : ω}
    {x : Except ε α} (h : Agrees R r (t, x)) (hR : ∀ s, R s t → R' s t') : Agrees R' r (t', x) := by
  cases h with
  | ok h => exact .ok (hR _ h)
  | error h => exact .error (hR _ h)

theorem Agrees.bind_ok {R' : σ → ω → Prop} {x : EStateM ε σ α} {f : α → EStateM ε σ β} {s : σ}
    {t : υ} {a : α} {y : ω × Except ε β} (hx : Agrees R (x s) (t, .ok a))
    (hf : ∀ s', R s' t → Agrees R' (f a s') y) : Agrees R' ((x >>= f) s) y := by
  obtain ⟨s', hs, h⟩ := hx.exists_ok
  rw [Call.bind_eq, hs]
  exact hf s' h

theorem Agrees.bind_error {x : EStateM ε σ α} {f : α → EStateM ε σ β} {s : σ} {t : υ} {e : ε}
    (hx : Agrees R (x s) (t, .error e)) : Agrees R ((x >>= f) s) (t, .error e) := by
  obtain ⟨s', hs, h⟩ := hx.exists_error
  rw [Call.bind_eq, hs]
  exact .error h

/-- Calls one for each of several things agree with operations one for each. -/
theorem Agrees.forM {γ δ : Type} {M : γ → δ → Prop} {call : γ → EStateM ε σ Unit}
    {op : υ → δ → υ}
    (hstep : ∀ c d s t, M c d → R s t → Agrees R (call c s) (op t d, .ok ()))
    {cs : List γ} {ds : List δ} (hM : List.Forall₂ M cs ds) {s : σ} {t : υ} (h : R s t) :
    Agrees R (cs.forM call s) (ds.foldl op t, .ok ()) := by
  induction hM generalizing s t with
  | nil => exact .ok h
  | @cons c d cs ds hcd _ ih =>
      exact (hstep c d s t hcd h).bind_ok fun s' h' => ih h'

theorem Agrees.callOn {R' : τ → ω → Prop} {part : τ} {store : τ → σ → σ} {call : EStateM ε τ α}
    {t : ω} {u : υ} {x : Except ε α} {s : σ} (h : Agrees R' (call part) (t, x))
    (hstore : ∀ part', R' part' t → R (store part' s) u) :
    Agrees R (callOn part store call s) (u, x) := by
  unfold CoverageDiff.callOn
  generalize call part = r at h
  cases h with
  | ok h => exact .ok (hstore _ h)
  | error h => exact .error (hstore _ h)

theorem Agrees.adaptExcept {ε' : Type} (f : ε → ε') {x : EStateM ε σ α} {s : σ} {t : υ}
    {y : Except ε α} (h : Agrees R (x s) (t, y)) :
    Agrees R (x.adaptExcept f s) (t, y.mapError f) := by
  unfold EStateM.adaptExcept
  generalize x s = r at h ⊢
  cases h with
  | ok h => exact .ok h
  | error h => exact .error h

/-- A call makes of its object something that `R` relates to what an operation gives, or is refused
for the same reason. -/
inductive Makes (R : σ → υ → Prop) : EStateM.Result ε σ α → Except ε υ → Prop
  | ok {a : α} {s : σ} {t : υ} (h : R s t) : Makes R (.ok a s) (.ok t)
  | error {e : ε} {s : σ} : Makes R (.error e s) (.error e)

theorem Agrees.bind_makes {R' : σ → ω → Prop} {x : EStateM ε σ α} {f : α → EStateM ε σ β} {s : σ}
    {t : υ} {a : α} {y : Except ε ω} (hx : Agrees R (x s) (t, .ok a))
    (hf : ∀ s', R s' t → Makes R' (f a s') y) : Makes R' ((x >>= f) s) y := by
  obtain ⟨s', hs, h⟩ := hx.exists_ok
  rw [Call.bind_eq, hs]
  exact hf s' h

theorem Agrees.bind_refused {R' : σ → ω → Prop} {x : EStateM ε σ α} {f : α → EStateM ε σ β} {s : σ}
    {t : υ} {e : ε} (hx : Agrees R (x s) (t, .error e)) :
    Makes R' ((x >>= f) s) (.error e) := by
  obtain ⟨s', hs, -⟩ := hx.exists_error
  rw [Call.bind_eq, hs]
  exact .error

end Agreement

/-- What a call gives that an operation without a result agrees with. -/
def outcome {ε : Type} : Option ε → Except ε Unit
  | none => .ok ()
  | some e => .error e

/-! ## Refused calls -/

section Together

variable {ε σ τ α β : Type} {s s' : σ} {e : ε}

theorem Call.bind_eq_error_iff {x : EStateM ε σ α} {f : α → EStateM ε σ β} :
    (x >>= f) s = .error e s' ↔
      x s = .error e s' ∨ ∃ a s₁, x s = .ok a s₁ ∧ f a s₁ = .error e s' := by
  rw [Call.bind_eq]
  cases x s <;> simp

theorem Call.callOn_eq_error_iff {part : τ} {store : τ → σ → σ} {call : EStateM ε τ α} :
    callOn part store call s = .error e s' ↔ ∃ t, call part = .error e t ∧ s' = store t s := by
  rw [callOn]
  cases call part <;> simp [eq_comm]

end Together

/-- A call that gives something of every object. -/
def NeverRefused {ε σ α : Type} (call : EStateM ε σ α) : Prop :=
  ∀ s e s', call s ≠ .error e s'

namespace NeverRefused

variable {ε σ τ α β : Type}

theorem pure (a : α) : NeverRefused (Pure.pure a : EStateM ε σ α) := by
  intro s e s' h
  cases h

theorem bind {x : EStateM ε σ α} {f : α → EStateM ε σ β} (hx : NeverRefused x)
    (hf : ∀ a, NeverRefused (f a)) : NeverRefused (x >>= f) := by
  intro s e s'
  rw [Call.bind_eq]
  cases h : x s with
  | ok a s₁ => exact hf a s₁ e s'
  | error e' s₁ => exact absurd h (hx s e' s₁)

theorem forM {γ : Type} {call : γ → EStateM ε σ Unit} (h : ∀ c, NeverRefused (call c))
    (cs : List γ) : NeverRefused (cs.forM call) := by
  induction cs with
  | nil => exact pure ()
  | cons c cs ih => exact (h c).bind fun _ => ih

theorem callOn {part : τ} {store : τ → σ → σ} {call : EStateM ε τ α} (h : NeverRefused call) :
    NeverRefused (callOn part store call) := by
  intro s e s'
  rw [CoverageDiff.callOn]
  cases hcall : call part with
  | ok a t => simp
  | error e' t => exact absurd hcall (h part e' t)

theorem adaptExcept {ε' : Type} (f : ε → ε') {call : EStateM ε σ α} (h : NeverRefused call) :
    NeverRefused (call.adaptExcept f) := by
  intro s e s'
  rw [EStateM.adaptExcept]
  cases hcall : call s with
  | ok a t => simp
  | error e' t => exact absurd hcall (h s e' t)

end NeverRefused

end CoverageDiff
