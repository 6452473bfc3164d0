import Mathlib.Tactic.Common

/-!
# Dispatch origins and results

A dispatchable checks its origin and a list of conditions in order and fails with the error of
the first one that does not hold. A failed dispatch writes nothing.

## Main definitions

* `Origin AccountId`: who dispatches a call
* `DispatchError E`: why a dispatch fails, for a module with its own errors `E`
* `ensure`, `ensureSigned`, `ensureRoot`, `required`: the checks of a dispatchable
* `attempt`: a call whose failure is ignored
* `Yields p x`: whatever a computation comes to meets `p`

## Main results

* `bind_eq_ok`, `ensure_bind_eq_ok`, `required_bind_eq_ok`: what a successful dispatch went
  through
* `bind_eq_error`, `ensure_bind_eq_currency`, ...: what a dispatch that the ledger refuses went
  through
* `Yields.bind`, `Yields.pure`: postconditions, one operation after the other
-/

namespace Dispatch

/-- Who dispatches a call. -/
inductive Origin (AccountId : Type)
  | root
  | signed (who : AccountId)
  | none
  deriving DecidableEq, Repr

/-- Why the ledger refuses an operation. -/
inductive CurrencyError
  | fundsUnavailable
  | onlyProvider
  | notExpendable
  | frozen
  | belowMinimum
  | overflow
  | underflow
  | insufficientBalance
  | liquidityRestrictions
  | expendability
  deriving DecidableEq, Repr

/-- Why a dispatch fails: a wrong origin, an error of the ledger, an arithmetic panic, or an
error of the module. -/
inductive DispatchError (E : Type)
  | badOrigin
  | currency (e : CurrencyError)
  | panic
  | module (e : E)
  deriving DecidableEq, Repr

variable {AccountId E F α β : Type}

/-- The same failure seen from a module whose errors include `E`. -/
def DispatchError.map (f : E → F) : DispatchError E → DispatchError F
  | .badOrigin => .badOrigin
  | .currency e => .currency e
  | .panic => .panic
  | .module e => .module (f e)

/-- The account of a signed origin. -/
def ensureSigned : Origin AccountId → Except (DispatchError E) AccountId
  | .signed who => .ok who
  | _ => .error .badOrigin

/-- Fail unless root dispatches the call. -/
def ensureRoot : Origin AccountId → Except (DispatchError E) Unit
  | .root => .ok ()
  | _ => .error .badOrigin

/-- Fail with `e` unless `c` holds. -/
def ensure (c : Prop) [Decidable c] (e : E) : Except E Unit :=
  if c then .ok () else .error e

/-- The value of an entry that must be present. -/
def required (x : Option α) (e : E) : Except E α :=
  match x with
  | some a => .ok a
  | none => .error e

/-- The outcome of a ledger operation inside a dispatch. -/
def liftCurrency (x : Except CurrencyError α) : Except (DispatchError E) α :=
  x.mapError .currency

/-- The state after a call whose failure is ignored. -/
def attempt (f : α → Except E α) (a : α) : α :=
  match f a with
  | .ok a' => a'
  | .error _ => a

theorem attempt_of_ok {f : α → Except E α} {a a' : α} (h : f a = .ok a') : attempt f a = a' := by
  simp only [attempt, h]

theorem attempt_of_error {f : α → Except E α} {a : α} {e : E} (h : f a = .error e) :
    attempt f a = a := by
  simp only [attempt, h]

section Inversion

variable {c : Prop} [Decidable c] {e : E} {x : Except E α} {k : α → Except E β} {b : β}

theorem bind_eq_ok : (x >>= k) = .ok b ↔ ∃ a, x = .ok a ∧ k a = .ok b := by
  cases x with
  | ok a => simp [bind, Except.bind]
  | error e => simp [bind, Except.bind]

theorem exists_ok (h : x.isOk = true) : ∃ a, x = .ok a := by
  cases x with
  | ok a => exact ⟨a, rfl⟩
  | error e => cases h

@[simp] theorem pure_eq_ok {a a' : α} : (pure a : Except E α) = .ok a' ↔ a = a' :=
  Except.ok.injEq a a' ▸ Iff.rfl

@[simp] theorem ensure_eq_ok {u : Unit} : ensure c e = .ok u ↔ c := by
  unfold ensure
  split
  · next h => simp [h]
  · next h => simp [h]

theorem ensure_bind_eq_ok {k : Unit → Except E β} :
    (ensure c e >>= k) = .ok b ↔ c ∧ k () = .ok b := by
  rw [bind_eq_ok]
  constructor
  · rintro ⟨u, hc, hk⟩
    exact ⟨ensure_eq_ok.mp hc, hk⟩
  · rintro ⟨hc, hk⟩
    exact ⟨(), ensure_eq_ok.mpr hc, hk⟩

@[simp] theorem required_eq_ok {o : Option α} {a : α} : required o e = .ok a ↔ o = some a := by
  cases o <;> simp [required]

theorem required_bind_eq_ok {o : Option α} :
    (required o e >>= k) = .ok b ↔ ∃ a, o = some a ∧ k a = .ok b := by
  simp [bind_eq_ok]

@[simp] theorem ensureSigned_eq_ok {o : Origin AccountId} {who : AccountId} :
    ensureSigned (E := E) o = .ok who ↔ o = .signed who := by
  cases o <;> simp [ensureSigned]

@[simp] theorem mapError_eq_ok {f : E → F} {a : α} : x.mapError f = .ok a ↔ x = .ok a := by
  cases x <;> simp [Except.mapError]

@[simp] theorem mapError_eq_error {f : E → F} {y : F} :
    x.mapError f = .error y ↔ ∃ e, x = .error e ∧ f e = y := by
  cases x <;> simp [Except.mapError]

@[simp] theorem liftCurrency_eq_ok {y : Except CurrencyError α} {a : α} :
    liftCurrency (E := E) y = .ok a ↔ y = .ok a :=
  mapError_eq_ok

theorem ensureSigned_bind_eq_ok {o : Origin AccountId}
    {k : AccountId → Except (DispatchError E) β} :
    (ensureSigned o >>= k) = .ok b ↔ ∃ who, o = .signed who ∧ k who = .ok b := by
  simp only [bind_eq_ok, ensureSigned_eq_ok]

theorem ensureRoot_bind_eq_ok {o : Origin AccountId}
    {k : Unit → Except (DispatchError E) β} :
    (ensureRoot o >>= k) = .ok b ↔ o = .root ∧ k () = .ok b := by
  cases o <;> simp [ensureRoot, bind, Except.bind]

theorem mapError_bind_eq_ok {f : E → F} {k : α → Except F β} :
    (x.mapError f >>= k) = .ok b ↔ ∃ a, x = .ok a ∧ k a = .ok b := by
  simp only [bind_eq_ok, mapError_eq_ok]

theorem liftCurrency_bind_eq_ok {y : Except CurrencyError α}
    {k : α → Except (DispatchError E) β} :
    (liftCurrency y >>= k) = .ok b ↔ ∃ a, y = .ok a ∧ k a = .ok b :=
  mapError_bind_eq_ok

/-- A check of every entry of a list. -/
theorem forM_eq_ok {l : List α} {f : α → Except E Unit} :
    l.forM f = .ok () ↔ ∀ a ∈ l, f a = .ok () := by
  induction l with
  | nil => simp [pure, Except.pure]
  | cons a l ih =>
    change (f a >>= fun _ => l.forM f) = _ ↔ _
    rw [List.forall_mem_cons, bind_eq_ok, ← ih]
    constructor
    · rintro ⟨u, ha, hl⟩
      exact ⟨ha, hl⟩
    · rintro ⟨ha, hl⟩
      exact ⟨(), ha, hl⟩

end Inversion

/-! ### Refusals of the ledger -/

section Refusal

variable {e : CurrencyError} {m : E} {c : Prop} [Decidable c]

theorem bind_eq_error {x : Except E α} {k : α → Except E β} {d : E} :
    (x >>= k) = .error d ↔ x = .error d ∨ ∃ a, x = .ok a ∧ k a = .error d := by
  cases x with
  | ok a => simp [bind, Except.bind]
  | error e => simp [bind, Except.bind]

theorem ensureSigned_bind_eq_currency {o : Origin AccountId}
    {k : AccountId → Except (DispatchError E) β} :
    (ensureSigned o >>= k) = .error (.currency e) ↔
      ∃ who, o = .signed who ∧ k who = .error (.currency e) := by
  cases o <;> simp [ensureSigned, bind, Except.bind]

theorem ensure_bind_eq_currency {k : Unit → Except (DispatchError E) β} :
    (ensure c (.module m) >>= k) = .error (.currency e) ↔ c ∧ k () = .error (.currency e) := by
  unfold ensure
  split
  · next h => simp [h, bind, Except.bind]
  · next h => simp [h, bind, Except.bind]

theorem required_bind_eq_currency {o : Option α} {k : α → Except (DispatchError E) β} :
    (required o (.module m) >>= k) = .error (.currency e) ↔
      ∃ a, o = some a ∧ k a = .error (.currency e) := by
  cases o <;> simp [required, bind, Except.bind]

@[simp] theorem liftCurrency_eq_currency {y : Except CurrencyError α} :
    liftCurrency (E := E) y = .error (.currency e) ↔ y = .error e := by
  unfold liftCurrency
  rw [mapError_eq_error]
  constructor
  · rintro ⟨e', he', hd⟩
    rw [he', DispatchError.currency.inj hd]
  · intro h
    exact ⟨e, h, rfl⟩

end Refusal

/-! ### Postconditions -/

section Postconditions

variable {p : α → Prop} {r : β → Prop}

/-- Whatever a computation comes to meets `p`. -/
def Yields (p : α → Prop) (x : Except E α) : Prop := ∀ a, x = .ok a → p a

theorem Yields.pure {a : α} (h : p a) : Yields p (pure a : Except E α) := by
  intro a' ha'
  rwa [← pure_eq_ok.mp ha']

/-- What the rest of a computation meets, whatever it continues from, all of it meets. -/
theorem Yields.bind {x : Except E α} {k : α → Except E β} (h : ∀ a, x = .ok a → Yields r (k a)) :
    Yields r (x >>= k) := by
  intro b hb
  obtain ⟨a, ha, hk⟩ := bind_eq_ok.mp hb
  exact h a ha b hk

end Postconditions

end Dispatch
