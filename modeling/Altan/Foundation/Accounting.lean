import Altan.Foundation.TransitionSystem
import Mathlib.Data.List.Induction

/-!
# Accounts of a run

What the accepted inputs of a run amount to, each weighed in the state it is accepted in. A
quantity that every accepted input credits and debits by known weights is, after a run, what it
was before with the tallies of the two weights; a quantity that clips at a bound is the clipped
tally. A counter fed by the accepted inputs of a kind stays below a bound as long as there are
few enough of them.

## Main definitions

* `tally w is s`: the total weight of the accepted inputs of a run

## Main results

* `tally_add`, `tally_mul`: the tally is linear
* `tally_le_tally`: what weighs less in every input weighs less altogether
* `tally_balance`: double entry, from one step to a run
* `tally_le_of_step`: what is taken is covered by what there is and what is added
* `run_le_add_tally`: what is added at most
* `tally_clip`: the same for a quantity that clips
* `tally_floor`, `along_le_iff_tally_le`: the same for one that stops at zero, and when it does not
* `along_of_counted`: invariants that mention how many inputs of a kind there were
* `along_of_accepted_le`: inputs of a kind find the counter they feed below its bound
* `initial_iff_along`: a property of histories that each accepted input decides
-/

namespace TransitionSystem

variable {σ ι ε : Type} (step : ι → σ → Except ε σ)

/-- The total weight of the accepted inputs of a run, each weighed in the state it is accepted
in. -/
def tally (w : σ → ι → ℕ) : List ι → σ → ℕ
  | [], _ => 0
  | i :: is, s =>
    (match step i s with
      | .ok _ => w s i
      | .error _ => 0) + tally w is (exec step i s)

variable {step} {w : σ → ι → ℕ} {is : List ι} {s : σ}

theorem tally_cons_ok {i : ι} {s' : σ} (h : step i s = .ok s') :
    tally step w (i :: is) s = w s i + tally step w is s' := by
  simp only [tally, exec, h]

theorem tally_cons_error {i : ι} {e : ε} (h : step i s = .error e) :
    tally step w (i :: is) s = tally step w is s := by
  simp only [tally, exec, h, Nat.zero_add]

theorem tally_append (is js : List ι) (s : σ) :
    tally step w (is ++ js) s = tally step w is s + tally step w js (run step is s) := by
  induction is generalizing s with
  | nil => simp [tally]
  | cons i is ih => simp only [List.cons_append, tally, run_cons, ih, Nat.add_assoc]

theorem tally_zero : tally step (fun _ _ => 0) is s = 0 := by
  induction is generalizing s with
  | nil => rfl
  | cons i is ih =>
    cases hs : step i s with
    | error e => rw [tally_cons_error hs, ih]
    | ok s' => rw [tally_cons_ok hs, ih]

/-- What two weights come to together. -/
theorem tally_add {w' : σ → ι → ℕ} :
    tally step (fun s i => w s i + w' s i) is s = tally step w is s + tally step w' is s := by
  induction is generalizing s with
  | nil => rfl
  | cons i is ih =>
    cases hs : step i s with
    | error e => simp only [tally_cons_error hs, ih]
    | ok s' =>
      simp only [tally_cons_ok hs, ih]
      omega

/-- What a multiple of a weight comes to. -/
theorem tally_mul {k : ℕ} :
    tally step (fun s i => k * w s i) is s = k * tally step w is s := by
  induction is generalizing s with
  | nil => rfl
  | cons i is ih =>
    cases hs : step i s with
    | error e => simp only [tally_cons_error hs, ih]
    | ok s' => simp only [tally_cons_ok hs, ih, Nat.mul_add]

/-- What weighs less in every accepted input of a run weighs less altogether. -/
theorem tally_le_tally {w' : σ → ι → ℕ} (h : Along step (fun s i => w s i ≤ w' s i) is s) :
    tally step w is s ≤ tally step w' is s := by
  induction is generalizing s with
  | nil => exact Nat.le_refl 0
  | cons i is ih =>
    cases hs : step i s with
    | error e =>
      rw [tally_cons_error hs, tally_cons_error hs]
      exact ih (exec_error hs ▸ h.2)
    | ok s' =>
      rw [tally_cons_ok hs, tally_cons_ok hs]
      exact Nat.add_le_add (h.1 s' hs) (ih (exec_ok hs ▸ h.2))

/-- Counting the inputs of a kind is weighing each of them as one. -/
theorem accepted_eq_tally {p : ι → Prop} [DecidablePred p] :
    accepted step p is s = tally step (fun _ i => if p i then 1 else 0) is s := by
  induction is generalizing s with
  | nil => rfl
  | cons i is ih =>
    cases hs : step i s with
    | error e => rw [accepted_cons_error hs, tally_cons_error hs, ih]
    | ok s' => rw [accepted_cons_ok hs, tally_cons_ok hs, ih]

/-- A run without inputs of a kind accepts none. -/
theorem accepted_eq_zero_of_forall {p : ι → Prop} [DecidablePred p] (h : ∀ i ∈ is, ¬ p i) :
    accepted step p is s = 0 := by
  induction is generalizing s with
  | nil => rfl
  | cons i is ih =>
    have hrest : ∀ j ∈ is, ¬ p j := fun j hj => h j (List.mem_cons_of_mem i hj)
    cases hs : step i s with
    | error e =>
      rw [accepted_cons_error hs]
      exact ih hrest
    | ok s' =>
      rw [accepted_cons_ok hs, if_neg (h i List.mem_cons_self), Nat.zero_add]
      exact ih hrest

section Rules

variable {P : σ → Prop} {Q : σ → ι → Prop}

/-- **Double entry.** What every accepted input credits and debits adds up over a run. -/
theorem tally_balance (f : σ → ℕ) (credit debit : σ → ι → ℕ)
    (hP : ∀ i s s', P s → Q s i → step i s = .ok s' → P s')
    (hf : ∀ i s s', P s → Q s i → step i s = .ok s' → f s' + debit s i = f s + credit s i)
    (h : P s) (hQ : Along step Q is s) :
    f (run step is s) + tally step debit is s = f s + tally step credit is s := by
  induction is generalizing s with
  | nil => rfl
  | cons i is ih =>
    cases hs : step i s with
    | error e =>
      rw [tally_cons_error hs, tally_cons_error hs, run_cons, exec_error hs]
      have hrest := hQ.2
      rw [exec_error hs] at hrest
      exact ih h hrest
    | ok s' =>
      rw [tally_cons_ok hs, tally_cons_ok hs, run_cons, exec_ok hs]
      have hrest := hQ.2
      rw [exec_ok hs] at hrest
      -- the entries of the first input and those of the rest
      have hq := hQ.1 s' hs
      have hfirst := hf i s s' h hq hs
      have hlast := ih (hP i s s' h hq hs) hrest
      omega

/-- **No more is spent than there is**: what every accepted input takes is covered by what there is
and what it adds. -/
theorem tally_le_of_step (f : σ → ℕ) (credit debit : σ → ι → ℕ)
    (hf : ∀ i s s', step i s = .ok s' → f s' + debit s i ≤ f s + credit s i) (is : List ι) (s : σ) :
    tally step debit is s ≤ f s + tally step credit is s := by
  induction is generalizing s with
  | nil => exact Nat.zero_le _
  | cons i is ih =>
    cases hs : step i s with
    | error e =>
      rw [tally_cons_error hs, tally_cons_error hs]
      have hrest := ih (exec step i s)
      rwa [exec_error hs] at hrest
    | ok s' =>
      rw [tally_cons_ok hs, tally_cons_ok hs]
      have hfirst := hf i s s' hs
      have hrest := ih s'
      omega

/-- What every accepted input adds at most to a quantity. -/
theorem run_le_add_tally (f : σ → ℕ) (w : σ → ι → ℕ)
    (hf : ∀ i s s', step i s = .ok s' → f s' ≤ f s + w s i) (is : List ι) (s : σ) :
    f (run step is s) ≤ f s + tally step w is s := by
  induction is generalizing s with
  | nil => exact Nat.le_add_right _ _
  | cons i is ih =>
    cases hs : step i s with
    | error e =>
      rw [tally_cons_error hs, run_cons, exec_error hs]
      exact ih s
    | ok s' =>
      rw [tally_cons_ok hs, run_cons, exec_ok hs]
      have hfirst := hf i s s' hs
      have hlast := ih s'
      omega

/-- What every accepted input adds to a quantity, with nothing taken away. -/
theorem tally_credit (f : σ → ℕ) (w : σ → ι → ℕ)
    (hP : ∀ i s s', P s → Q s i → step i s = .ok s' → P s')
    (hf : ∀ i s s', P s → Q s i → step i s = .ok s' → f s' = f s + w s i)
    (h : P s) (hQ : Along step Q is s) : f (run step is s) = f s + tally step w is s := by
  have hbalance := tally_balance f w (fun _ _ => 0) hP hf h hQ
  rwa [tally_zero, Nat.add_zero] at hbalance

/-- What weighs nothing along a run weighs nothing altogether. -/
theorem tally_eq_zero (hQ : Along step (fun s i => w s i = 0) is s) : tally step w is s = 0 := by
  have hcredit := tally_credit (P := fun _ => True) (fun _ => 0) w (fun _ _ _ _ _ _ => trivial)
    (fun i s s' _ hzero _ => by rw [hzero]) trivial hQ
  omega

/-- **Clipped entry.** What every accepted input adds to a quantity that clips at `max` is the
clipped total after a run. -/
theorem tally_clip (f : σ → ℕ) (w : σ → ι → ℕ) {max : ℕ}
    (hP : ∀ i s s', P s → Q s i → step i s = .ok s' → P s')
    (hf : ∀ i s s', P s → Q s i → step i s = .ok s' → f s' = min (f s + w s i) max)
    (h : P s) (hmax : f s ≤ max) (hQ : Along step Q is s) :
    f (run step is s) = min (f s + tally step w is s) max := by
  induction is generalizing s with
  | nil => exact (Nat.min_eq_left hmax).symm
  | cons i is ih =>
    cases hs : step i s with
    | error e =>
      rw [tally_cons_error hs, run_cons, exec_error hs]
      have hrest := hQ.2
      rw [exec_error hs] at hrest
      exact ih h hmax hrest
    | ok s' =>
      rw [tally_cons_ok hs, run_cons, exec_ok hs]
      have hrest := hQ.2
      rw [exec_ok hs] at hrest
      have hq := hQ.1 s' hs
      have hfirst := hf i s s' h hq hs
      have hlast := ih (hP i s s' h hq hs) (by omega) hrest
      -- what has clipped stays clipped
      omega

/-- **Floored entry.** What every accepted input takes off a quantity that stops at zero is taken
off altogether after a run. -/
theorem tally_floor (f : σ → ℕ) (w : σ → ι → ℕ)
    (hP : ∀ i s s', P s → Q s i → step i s = .ok s' → P s')
    (hf : ∀ i s s', P s → Q s i → step i s = .ok s' → f s' = f s - w s i)
    (h : P s) (hQ : Along step Q is s) : f (run step is s) = f s - tally step w is s := by
  induction is generalizing s with
  | nil => rfl
  | cons i is ih =>
    cases hs : step i s with
    | error e =>
      rw [tally_cons_error hs, run_cons, exec_error hs]
      have hrest := hQ.2
      rw [exec_error hs] at hrest
      exact ih h hrest
    | ok s' =>
      rw [tally_cons_ok hs, run_cons, exec_ok hs]
      have hrest := hQ.2
      rw [exec_ok hs] at hrest
      have hq := hQ.1 s' hs
      rw [ih (hP i s s' h hq hs) hrest, hf i s s' h hq hs]
      exact Nat.sub_sub _ _ _

/-- The quantity is never stopped at zero exactly when no more is taken off altogether than there
is. -/
theorem along_le_iff_tally_le (f : σ → ℕ) (w : σ → ι → ℕ)
    (hP : ∀ i s s', P s → Q s i → step i s = .ok s' → P s')
    (hf : ∀ i s s', P s → Q s i → step i s = .ok s' → f s' = f s - w s i)
    (h : P s) (hQ : Along step Q is s) :
    Along step (fun s i => w s i ≤ f s) is s ↔ tally step w is s ≤ f s := by
  induction is generalizing s with
  | nil => exact iff_of_true trivial (Nat.zero_le _)
  | cons i is ih =>
    unfold Along
    cases hs : step i s with
    | error e =>
      have hrest := hQ.2
      rw [exec_error hs] at hrest
      rw [tally_cons_error hs, exec_error hs, ih h hrest]
      exact and_iff_right fun s' hs' => by cases hs'
    | ok s' =>
      have hrest := hQ.2
      rw [exec_ok hs] at hrest
      have hq := hQ.1 s' hs
      rw [tally_cons_ok hs, exec_ok hs, ih (hP i s s' h hq hs) hrest, hf i s s' h hq hs]
      constructor
      · rintro ⟨hfirst, hlast⟩
        have hle := hfirst s' rfl
        omega
      · intro hle
        refine ⟨fun _ _ => ?_, ?_⟩
        · omega
        · omega

/-- A guard that an input of a kind can miss only once `bound` of them have been accepted is met
along every run that accepts no more. -/
theorem along_of_counted {p : ι → Prop} [DecidablePred p] {C : ℕ → σ → Prop} {bound : ℕ}
    (hstep : ∀ n i s s', C n s → step i s = .ok s' → C (n + if p i then 1 else 0) s')
    (hguard : ∀ n i s, C n s → (p i → n < bound) → Q s i) {n : ℕ} (h : C n s)
    (hle : n + accepted step p is s ≤ bound) : Along step Q is s := by
  induction is generalizing n s with
  | nil => trivial
  | cons i is ih =>
    unfold Along
    cases hs : step i s with
    | error e =>
      rw [accepted_cons_error hs] at hle
      constructor
      · intro s' hs'
        cases hs'
      · rw [exec_error hs]
        exact ih h hle
    | ok s' =>
      rw [accepted_cons_ok hs, ← Nat.add_assoc] at hle
      refine ⟨fun _ _ => hguard n i s h fun hp => ?_, ?_⟩
      · rw [if_pos hp] at hle
        omega
      · rw [exec_ok hs]
        exact ih (hstep n i s s' h hs) hle

/-- **Room in a counter.** A counter that only the accepted inputs of a kind raise, by one each,
is below a bound whenever one of them is accepted, if the run leaves it within the bound. -/
theorem along_of_accepted_le {p : ι → Prop} [DecidablePred p] {c : σ → ℕ} {bound : ℕ}
    (hc : ∀ i s s', step i s = .ok s' → c s' ≤ c s + if p i then 1 else 0)
    (h : c s + accepted step p is s ≤ bound) : Along step (fun s i => p i → c s < bound) is s := by
  -- what has been counted bounds the counter
  refine along_of_counted (C := fun n s => c s ≤ n) ?_ ?_ (Nat.le_refl _) h
  · intro n i s s' hle hs
    exact Nat.le_trans (hc i s s' hs) (Nat.add_le_add_right hle _)
  · intro n i s hle hlt hp
    exact Nat.lt_of_le_of_lt hle (hlt hp)

/-- A run along two guards is a run along both. -/
theorem Along.and {Q Q' : σ → ι → Prop} (h : Along step Q is s) (h' : Along step Q' is s) :
    Along step (fun s i => Q s i ∧ Q' s i) is s := by
  induction is generalizing s with
  | nil => trivial
  | cons i is ih =>
    refine ⟨fun s' hs' => ⟨h.1 s' hs', h'.1 s' hs'⟩, ih h.2 h'.2⟩

/-- A run along a guard is a run along a weaker one. -/
theorem Along.imp {Q Q' : σ → ι → Prop} (hQ : ∀ s i, Q s i → Q' s i) (h : Along step Q is s) :
    Along step Q' is s := by
  induction is generalizing s with
  | nil => trivial
  | cons i is ih =>
    exact ⟨fun s' hs' => hQ s i (h.1 s' hs'), ih h.2⟩

theorem along_append {is js : List ι} {s : σ} :
    Along step Q (is ++ js) s ↔ Along step Q is s ∧ Along step Q js (run step is s) := by
  induction is generalizing s with
  | nil => simp [Along]
  | cons i is ih =>
    simp only [List.cons_append, Along, run_cons, ih, and_assoc]

theorem Along.initial {js : List ι} (h : Along step Q is s) (hjs : js <+: is) :
    Along step Q js s := by
  obtain ⟨ks, rfl⟩ := hjs
  exact (along_append.mp h).1

/-- **Exact guard rule for histories.** Let `H` be a property of histories that holds of a history
with one more accepted input exactly when that input meets `Q`. Then `H` holds of every initial
part of exactly the runs along `Q`. -/
theorem initial_iff_along {H : List ι → Prop} (hnil : H [])
    (hok : ∀ js i s', Along step Q js s → H js → step i (run step js s) = .ok s' →
      (H (js ++ [i]) ↔ Q (run step js s) i))
    (herror : ∀ js i e, H js → step i (run step js s) = .error e → H (js ++ [i])) :
    (∀ js, js <+: is → H js) ↔ Along step Q is s := by
  induction is using List.reverseRecOn with
  | nil =>
    refine iff_of_true (fun js hjs => ?_) trivial
    rw [List.prefix_nil.mp hjs]
    exact hnil
  | append_singleton js i ih =>
    have hself : js <+: js ++ [i] := List.prefix_append js [i]
    rw [along_append]
    constructor
    · intro h
      -- the guard was met up to the last input, which `H` of the whole history decides
      have hjs := ih.mp fun ks hks => h ks (hks.trans hself)
      refine ⟨hjs, fun s' hs' => ?_, trivial⟩
      exact (hok js i s' hjs (h js hself) hs').mp (h _ (List.prefix_refl _))
    · rintro ⟨hjs, hlast, -⟩ ks hks
      have hbefore := ih.mpr hjs
      rcases List.prefix_concat_iff.mp hks with rfl | hks
      · have hH := hbefore js (List.prefix_refl js)
        cases hs : step i (run step js s) with
        | error e => exact herror js i e hH hs
        | ok s' => exact (hok js i s' hjs hH hs).mpr (hlast s' hs)
      · exact hbefore ks hks

/-- What accepted steps meeting `Q` preserve holds after every run along `Q`. -/
theorem run_of_along (hstep : ∀ i s s', P s → Q s i → step i s = .ok s' → P s') (h : P s)
    (hQ : Along step Q is s) : P (run step is s) :=
  (throughout_of_along hstep h hQ).last

end Rules

end TransitionSystem
