import Altan.Foundation.TransitionSystem

/-!
# Registries of derived values

Things are registered one after the other, each with a value that is derived from its name. When the
derivation is not injective, two things may be registered with one value; no two are exactly in the
runs in which nothing is registered whose value has been derived from another name before.

## Main definitions

* `Derived derive reg`: every value is derived from the name it is registered under
* `Separate reg`: no two names have one value
* `Registers derive name reg reg'`: the name, if there is one, is new and registered

## Main results

* `separate_iff`: one more name
* `separate_throughout_iff`: the runs in which the values are separate
-/

open TransitionSystem

namespace Registry

variable {κ α : Type} {derive : κ → α} {reg reg' : κ → Option α} {k : κ}

/-- Every value is derived from the name it is registered under. -/
def Derived (derive : κ → α) (reg : κ → Option α) : Prop := ∀ k a, reg k = some a → a = derive k

/-- No two names have one value. -/
def Separate (reg : κ → Option α) : Prop := ∀ k k' a, reg k = some a → reg k' = some a → k = k'

/-- Nothing that is registered has the value that is derived from the name. -/
def Unused (derive : κ → α) (reg : κ → Option α) (k : κ) : Prop :=
  ∀ k' a, reg k' = some a → derive k' ≠ derive k

theorem derived_of_empty (h : ∀ k, reg k = none) : Derived derive reg := by
  intro k a hk
  rw [h k] at hk
  cases hk

theorem separate_of_empty (h : ∀ k, reg k = none) : Separate reg := by
  intro k k' a hk
  rw [h k] at hk
  cases hk

variable [DecidableEq κ]

/-- The name, if there is one, is new and registered with the value that is derived from it. -/
inductive Registers (derive : κ → α) : Option κ → (κ → Option α) → (κ → Option α) → Prop
  | same {reg : κ → Option α} : Registers derive none reg reg
  | entered {reg : κ → Option α} {k : κ} (hnew : reg k = none) :
    Registers derive (some k) reg (Function.update reg k (some (derive k)))

theorem Registers.of_same (h : ∀ k, reg' k = reg k) : Registers derive none reg reg' := by
  rw [funext h]
  exact .same

theorem Registers.of_new (hnew : reg k = none)
    (h : ∀ k', reg' k' = if k' = k then some (derive k) else reg k') :
    Registers derive (some k) reg reg' := by
  have hreg : reg' = Function.update reg k (some (derive k)) := by
    funext k'
    rw [h k', Function.update_apply]
  rw [hreg]
  exact .entered hnew

theorem Derived.register (h : Derived derive reg) {name : Option κ}
    (hr : Registers derive name reg reg') : Derived derive reg' := by
  cases hr with
  | same => exact h
  | @entered _ k hnew =>
    intro k' a hk'
    rw [Function.update_apply] at hk'
    split at hk'
    · next hk =>
      rw [hk]
      exact (Option.some.inj hk').symm
    · exact h k' a hk'

/-- **One more name** keeps the values separate just when its value is unused. -/
theorem separate_iff (hd : Derived derive reg) (hs : Separate reg) (hnew : reg k = none) :
    Separate (Function.update reg k (some (derive k))) ↔ Unused derive reg k := by
  constructor
  · intro hs' k' a hk' heq
    have hne : k' ≠ k := by
      rintro rfl
      rw [hnew] at hk'
      cases hk'
    have ha : a = derive k := (hd k' a hk').trans heq
    refine hne (hs' k' k a ?_ ?_)
    · rwa [Function.update_of_ne hne]
    · rw [Function.update_self, ha]
  · intro hunused k₁ k₂ a h₁ h₂
    rw [Function.update_apply] at h₁ h₂
    split at h₁ <;> split at h₂
    · next e₁ e₂ => rw [e₁, e₂]
    · obtain rfl := Option.some.inj h₁
      exact absurd (hd k₂ _ h₂).symm (hunused k₂ _ h₂)
    · obtain rfl := Option.some.inj h₂
      exact absurd (hd k₁ _ h₁).symm (hunused k₁ _ h₁)
    · exact hs k₁ k₂ a h₁ h₂

/-- **The runs in which the values are separate** are those in which every name that is registered
has an unused value. -/
theorem separate_throughout_iff {σ ι ε : Type} {step : ι → σ → Except ε σ} {J : σ → Prop}
    {view : σ → κ → Option α} {name : ι → Option κ}
    (hJ : ∀ i s s', J s → step i s = .ok s' → J s')
    (hstep : ∀ i s s', J s → step i s = .ok s' →
      Registers derive (name i) (view s) (view s')) {is : List ι} {s : σ} (hj : J s)
    (hempty : ∀ k, view s k = none) :
    Throughout step (fun s => Separate (view s)) is s ↔
      Along step (fun s i => ∀ k, name i = some k → Unused derive (view s) k) is s := by
  refine throughout_iff_along (J := fun s => J s ∧ Derived derive (view s)) ?_ ?_
    ⟨hj, derived_of_empty hempty⟩ (separate_of_empty hempty)
  · rintro i s s' ⟨hj, hd⟩ hs
    exact ⟨hJ i s s' hj hs, hd.register (hstep i s s' hj hs)⟩
  · rintro i s s' ⟨hj, hd⟩ hsep hs
    have hr := hstep i s s' hj hs
    generalize hname : name i = n at hr
    generalize view s' = reg' at hr
    cases hr with
    | same => exact iff_of_true hsep fun _ hk => nomatch hk
    | @entered _ k hnew =>
      rw [separate_iff hd hsep hnew]
      constructor
      · rintro hunused _ ⟨⟩
        exact hunused
      · intro h
        exact h k rfl

end Registry
