import Mathlib.Data.Int.Notation
import Mathlib.Data.List.Basic
import Mathlib.Tactic.Common

/-!
# Runs of a system that may refuse its inputs

A step function either accepts an input, giving the next state, or refuses it. A refused
input leaves the state as it was. A run feeds a list of inputs to the system; properties of
all states it passes through follow from what one accepted step preserves.

## Main definitions

* `exec`, `run`: one input, and a list of inputs
* `Throughout P is s`: `P` holds in every state the run passes through
* `Along Q is s`: every accepted input of the run meets `Q` in the state it is accepted in
* `accepted p is s`: how many inputs of the kind `p` the run accepts
* `gain p f is s`: what the inputs of the kind `p` add to the quantity `f` over the run
* `Ascending R is s`: every state of the run is related to those after it
* `recording record step`: the system with a history of its accepted inputs
* `EventLog κ η`: what has happened to each of several things

## Main results

* `run_invariant`: what every accepted step preserves holds after every run
* `throughout_of_along`: what accepted steps meeting `Q` preserve holds throughout every run
  along `Q`
* `along_congr`, `along_congr_carrying`, `along_recording_congr`: guards that agree on accepted
  inputs are met along the same runs
* `throughout_iff_along`, `throughout_iff_along_within`: and exactly those runs, when `Q` decides
  whether one step preserves it
* `ascending_iff_along`: the same for an order along the run
* `ascending_of_invariant`, `along_below`: runs that go up
* `accepted_le_one`: inputs that require and consume a token are accepted at most once
* `accepted_eq_one`: and exactly once, when the run consumes it and nothing else does
* `gain_eq`: a quantity that follows another whenever an input of the kind is accepted
* `add_gain_le`: a quantity that only inputs of the kind lower
* `run_replicate`: one input many times
-/

namespace TransitionSystem

variable {σ ι ε : Type} (step : ι → σ → Except ε σ)

/-- The state after one input. -/
def exec (i : ι) (s : σ) : σ :=
  match step i s with
  | .ok s' => s'
  | .error _ => s

/-- The state after a list of inputs. -/
def run : List ι → σ → σ
  | [], s => s
  | i :: is, s => run is (exec step i s)

/-- `P` holds in every state the run passes through, the first and the last included. -/
def Throughout (P : σ → Prop) : List ι → σ → Prop
  | [], s => P s
  | i :: is, s => P s ∧ Throughout P is (exec step i s)

/-- Every accepted input of the run meets `Q` in the state it is accepted in. -/
def Along (Q : σ → ι → Prop) : List ι → σ → Prop
  | [], _ => True
  | i :: is, s => (∀ s', step i s = .ok s' → Q s i) ∧ Along Q is (exec step i s)

/-- The number of accepted inputs of the kind `p` in a run. -/
def accepted (p : ι → Prop) [DecidablePred p] : List ι → σ → ℕ
  | [], _ => 0
  | i :: is, s =>
    (match step i s with
      | .ok _ => if p i then 1 else 0
      | .error _ => 0) + accepted p is (exec step i s)

/-- What the inputs of the kind `p` add to the quantity `f` over a run. -/
def gain (p : ι → Prop) [DecidablePred p] (f : σ → ℤ) : List ι → σ → ℤ
  | [], _ => 0
  | i :: is, s => (if p i then f (exec step i s) - f s else 0) + gain p f is (exec step i s)

instance decidableThroughout (P : σ → Prop) [DecidablePred P] :
    (is : List ι) → (s : σ) → Decidable (Throughout step P is s)
  | [], s => inferInstanceAs (Decidable (P s))
  | i :: is, s =>
    have := decidableThroughout P is (exec step i s)
    inferInstanceAs (Decidable (_ ∧ _))

/-- Whether an input meets `Q` if it is accepted. -/
instance decidableGuard (Q : σ → ι → Prop) [∀ s i, Decidable (Q s i)] (i : ι) (s : σ) :
    Decidable (∀ s', step i s = .ok s' → Q s i) :=
  match h : step i s with
  | .ok s' => decidable_of_iff (Q s i) ⟨fun hq _ _ => hq, fun hq => hq s' rfl⟩
  | .error _ => isTrue fun _ h' => by cases h'

instance decidableAlong (Q : σ → ι → Prop) [∀ s i, Decidable (Q s i)] :
    (is : List ι) → (s : σ) → Decidable (Along step Q is s)
  | [], _ => isTrue trivial
  | i :: is, s =>
    have := decidableAlong Q is (exec step i s)
    have := decidableGuard step Q i s
    inferInstanceAs (Decidable (_ ∧ _))

variable {step}

theorem exec_ok {i : ι} {s s' : σ} (h : step i s = .ok s') : exec step i s = s' := by
  simp [exec, h]

theorem exec_error {i : ι} {s : σ} {e : ε} (h : step i s = .error e) : exec step i s = s := by
  simp [exec, h]

/-- One input either is accepted or leaves the state as it was. -/
theorem exec_cases (step : ι → σ → Except ε σ) (i : ι) (s : σ) :
    (∃ s', step i s = .ok s' ∧ exec step i s = s') ∨
      (∃ e, step i s = .error e ∧ exec step i s = s) := by
  cases h : step i s with
  | ok s' => exact Or.inl ⟨s', rfl, exec_ok h⟩
  | error e => exact Or.inr ⟨e, rfl, exec_error h⟩

@[simp] theorem run_nil (s : σ) : run step [] s = s := rfl

@[simp] theorem run_cons (i : ι) (is : List ι) (s : σ) :
    run step (i :: is) s = run step is (exec step i s) := rfl

theorem run_append (is js : List ι) (s : σ) :
    run step (is ++ js) s = run step js (run step is s) := by
  induction is generalizing s with
  | nil => rfl
  | cons i is ih => exact ih _

/-! ### Invariants -/

section Invariants

variable {P J : σ → Prop} {Q : σ → ι → Prop}

/-- What every accepted step preserves, one input preserves. -/
theorem exec_invariant (hstep : ∀ i s s', P s → step i s = .ok s' → P s') {i : ι} {s : σ}
    (h : P s) : P (exec step i s) := by
  rcases exec_cases step i s with ⟨s', hs', he⟩ | ⟨_, _, he⟩
  · rw [he]
    exact hstep i s s' h hs'
  · rwa [he]

/-- **Invariant rule.** What every accepted step preserves holds after every run. -/
theorem run_invariant (hstep : ∀ i s s', P s → step i s = .ok s' → P s') (is : List ι) {s : σ}
    (h : P s) : P (run step is s) := by
  induction is generalizing s with
  | nil => exact h
  | cons i is ih => exact ih (exec_invariant hstep h)

theorem Throughout.head {is : List ι} {s : σ} (h : Throughout step P is s) : P s := by
  cases is with
  | nil => exact h
  | cons i is => exact h.1

theorem Throughout.last {is : List ι} {s : σ} (h : Throughout step P is s) :
    P (run step is s) := by
  induction is generalizing s with
  | nil => exact h
  | cons i is ih => exact ih h.2

/-- What holds after every initial part of a run holds throughout it. -/
theorem throughout_of_initial {is : List ι} {s : σ} (h : ∀ js, js <+: is → P (run step js s)) :
    Throughout step P is s := by
  induction is generalizing s with
  | nil => exact h [] (List.prefix_refl [])
  | cons i is ih =>
    refine ⟨h [] List.nil_prefix, ih fun js hjs => ?_⟩
    exact h (i :: js) ((List.prefix_cons_inj i).mpr hjs)

/-- And what holds throughout it after every initial part. -/
theorem Throughout.initial {is js : List ι} {s : σ} (h : Throughout step P is s)
    (hjs : js <+: is) : P (run step js s) := by
  induction is generalizing js s with
  | nil =>
    rw [List.prefix_nil.mp hjs]
    exact h
  | cons i is ih =>
    rcases js with _ | ⟨j, js⟩
    · exact h.head
    · rw [List.cons_prefix_cons] at hjs
      obtain ⟨rfl, hjs⟩ := hjs
      exact ih (s := exec step j s) h.2 hjs

theorem Throughout.imp {P' : σ → Prop} (hP : ∀ s, P s → P' s) {is : List ι} {s : σ}
    (h : Throughout step P is s) : Throughout step P' is s := by
  induction is generalizing s with
  | nil => exact hP s h
  | cons i is ih => exact ⟨hP s h.1, ih h.2⟩

/-- A run through states in which every accepted input meets `Q` is along `Q`. -/
theorem Throughout.along (hQ : ∀ i s s', P s → step i s = .ok s' → Q s i) {is : List ι} {s : σ}
    (h : Throughout step P is s) : Along step Q is s := by
  induction is generalizing s with
  | nil => trivial
  | cons i is ih => exact ⟨fun s' hs' => hQ i s s' h.1 hs', ih h.2⟩

/-- What holds throughout a run holds before and after every input. -/
theorem Throughout.along_both {is : List ι} {s : σ} (h : Throughout step P is s) :
    Along step (fun s i => P s ∧ P (exec step i s)) is s := by
  induction is generalizing s with
  | nil => trivial
  | cons i is ih => exact ⟨fun _ _ => ⟨h.1, h.2.head⟩, ih h.2⟩

/-- **Guarded invariant rule.** What accepted steps meeting `Q` preserve holds throughout
every run along `Q`. -/
theorem throughout_of_along (hstep : ∀ i s s', P s → Q s i → step i s = .ok s' → P s')
    {is : List ι} {s : σ} (h : P s) (hQ : Along step Q is s) : Throughout step P is s := by
  induction is generalizing s with
  | nil => exact h
  | cons i is ih =>
    -- the rest of the run starts from a state that has `P` again
    refine ⟨h, ih ?_ hQ.2⟩
    rcases exec_cases step i s with ⟨s', hs', he⟩ | ⟨_, _, he⟩
    · rw [he]
      exact hstep i s s' h (hQ.1 s' hs') hs'
    · rwa [he]

/-- What every accepted step meets, every run is along. -/
theorem along_of_step (h : ∀ i s s', step i s = .ok s' → Q s i) (is : List ι) (s : σ) :
    Along step Q is s := by
  induction is generalizing s with
  | nil => trivial
  | cons i is ih => exact ⟨fun s' hs' => h i s s' hs', ih _⟩

/-- A guard on inputs that all inputs of the run meet. -/
theorem along_of_mem {G : ι → Prop} {is : List ι} {s : σ} (h : ∀ i ∈ is, G i) :
    Along step (fun _ i => G i) is s := by
  induction is generalizing s with
  | nil => trivial
  | cons i is ih =>
    exact ⟨fun _ _ => h i List.mem_cons_self, ih fun j hj => h j (List.mem_cons_of_mem i hj)⟩

theorem along_true (is : List ι) (s : σ) : Along step (fun _ _ => True) is s :=
  along_of_step (fun _ _ _ _ => trivial) is s

/-- A run along a guard that keeps an invariant is along what its inputs meet where the invariant
holds. -/
theorem along_of_invariant {G : σ → ι → Prop}
    (hJ : ∀ i s s', J s → G s i → step i s = .ok s' → J s')
    (hQ : ∀ i s s', J s → G s i → step i s = .ok s' → Q s i) {is : List ι} {s : σ} (hj : J s)
    (hG : Along step G is s) : Along step Q is s := by
  induction is generalizing s with
  | nil => trivial
  | cons i is ih =>
    refine ⟨fun s' hs' => hQ i s s' hj (hG.1 s' hs') hs', ih ?_ hG.2⟩
    rcases exec_cases step i s with ⟨s', hs', he⟩ | ⟨_, _, he⟩
    · rw [he]
      exact hJ i s s' hj (hG.1 s' hs') hs'
    · rwa [he]

/-- Two guards that agree on accepted inputs, where an invariant holds, are met along the same
runs. -/
theorem along_congr {Q' : σ → ι → Prop} (hJ : ∀ i s s', J s → step i s = .ok s' → J s')
    (hQ : ∀ i s s', J s → step i s = .ok s' → (Q s i ↔ Q' s i)) {is : List ι} {s : σ} (hj : J s) :
    Along step Q is s ↔ Along step Q' is s := by
  induction is generalizing s with
  | nil => exact Iff.rfl
  | cons i is ih =>
    have hhead : (∀ s', step i s = .ok s' → Q s i) ↔ ∀ s', step i s = .ok s' → Q' s i :=
      forall₂_congr fun s' hs' => hQ i s s' hj hs'
    exact and_congr hhead (ih (exec_invariant hJ hj))

/-- Two guards that agree on accepted inputs are met along the same runs. -/
theorem along_congr_of_step {Q' : σ → ι → Prop}
    (hQ : ∀ i s s', step i s = .ok s' → (Q s i ↔ Q' s i)) {is : List ι} {s : σ} :
    Along step Q is s ↔ Along step Q' is s :=
  along_congr (J := fun _ => True) (fun _ _ _ _ _ => trivial) (fun i s s' _ => hQ i s s') trivial

/-- The same where the invariant is only kept by what meets the second guard. -/
theorem along_congr_carrying {Q' : σ → ι → Prop}
    (hJ : ∀ i s s', J s → Q' s i → step i s = .ok s' → J s')
    (hQ : ∀ i s s', J s → step i s = .ok s' → (Q s i ↔ Q' s i)) {is : List ι} {s : σ} (hj : J s) :
    Along step Q is s ↔ Along step Q' is s := by
  induction is generalizing s with
  | nil => exact Iff.rfl
  | cons i is ih =>
    unfold Along
    rcases exec_cases step i s with ⟨s', hs', he⟩ | ⟨e, hs', he⟩
    · rw [he]
      have hiff := hQ i s s' hj hs'
      constructor
      · rintro ⟨hq, hrest⟩
        have hq' := hiff.mp (hq s' hs')
        exact ⟨fun _ _ => hq', (ih (hJ i s s' hj hq' hs')).mp hrest⟩
      · rintro ⟨hq', hrest⟩
        exact ⟨fun _ _ => hiff.mpr (hq' s' hs'), (ih (hJ i s s' hj (hq' s' hs') hs')).mpr hrest⟩
    · rw [he]
      refine and_congr (forall₂_congr fun s' hs => ?_) (ih hj)
      rw [hs'] at hs
      cases hs

/-- **Exact guard rule, within a guard.** Let an accepted step meeting `G` keep `J`, and under `J`
keep `P` exactly when it meets `Q`. Of the runs along `G`, `P` holds throughout exactly those along
`Q`. -/
theorem throughout_iff_along_within {G : σ → ι → Prop}
    (hJ : ∀ i s s', J s → G s i → step i s = .ok s' → J s')
    (hstep : ∀ i s s', J s → P s → G s i → step i s = .ok s' → (P s' ↔ Q s i))
    {is : List ι} {s : σ} (hj : J s) (h : P s) (hG : Along step G is s) :
    Throughout step P is s ↔ Along step Q is s := by
  induction is generalizing s with
  | nil => exact iff_of_true h trivial
  | cons i is ih =>
    unfold Throughout Along
    obtain ⟨hg, hrestG⟩ := hG
    rcases exec_cases step i s with ⟨s', hs', he⟩ | ⟨e, hs', he⟩
    -- accepted: `P` in the next state decides `Q` here, and the rest is the induction
    · rw [he] at hrestG ⊢
      have hd := hstep i s s' hj h (hg s' hs') hs'
      have hj' := hJ i s s' hj (hg s' hs') hs'
      constructor
      · rintro ⟨_, hrest⟩
        exact ⟨fun _ _ => hd.mp hrest.head, (ih hj' hrest.head hrestG).mp hrest⟩
      · rintro ⟨hq, hrest⟩
        exact ⟨h, (ih hj' (hd.mpr (hq s' hs')) hrestG).mpr hrest⟩
    -- refused: nothing is asked of the input, and the state is the same
    · rw [he] at hrestG ⊢
      constructor
      · rintro ⟨_, hrest⟩
        refine ⟨fun s'' hs'' => ?_, (ih hj h hrestG).mp hrest⟩
        rw [hs'] at hs''
        cases hs''
      · rintro ⟨_, hrest⟩
        exact ⟨h, (ih hj h hrestG).mpr hrest⟩

/-- **Exact guard rule.** Let `J` be an invariant under which an accepted step keeps `P` exactly
when it meets `Q`. Then `P` holds throughout exactly the runs along `Q`. -/
theorem throughout_iff_along (hJ : ∀ i s s', J s → step i s = .ok s' → J s')
    (hstep : ∀ i s s', J s → P s → step i s = .ok s' → (P s' ↔ Q s i))
    {is : List ι} {s : σ} (hj : J s) (h : P s) :
    Throughout step P is s ↔ Along step Q is s :=
  throughout_iff_along_within (fun i s s' hj _ => hJ i s s' hj)
    (fun i s s' hj h _ => hstep i s s' hj h) hj h (along_true is s)

/-- **Exact guard rule, without an invariant.** -/
theorem throughout_iff_along_of_step
    (hstep : ∀ i s s', P s → step i s = .ok s' → (P s' ↔ Q s i)) {is : List ι} {s : σ} (h : P s) :
    Throughout step P is s ↔ Along step Q is s :=
  throughout_iff_along (J := fun _ => True) (fun _ _ _ _ _ => trivial)
    (fun i s s' _ => hstep i s s') trivial h

end Invariants

/-! ### Order -/

section Order

variable {Q : σ → ι → Prop} {R : σ → σ → Prop}

/-- Every state of the run is related to those after it. -/
def Ascending (step : ι → σ → Except ε σ) (R : σ → σ → Prop) (is : List ι) (s : σ) : Prop :=
  ∀ js ks, js <+: ks → ks <+: is → R (run step js s) (run step ks s)

theorem ascending_cons {i : ι} {is : List ι} {s : σ} (hrefl : ∀ s, R s s)
    (htrans : ∀ s t u, R s t → R t u → R s u) :
    Ascending step R (i :: is) s ↔ R s (exec step i s) ∧ Ascending step R is (exec step i s) := by
  constructor
  · intro h
    refine ⟨h [] [i] List.nil_prefix (List.prefix_append [i] is), fun js ks hjs hks => ?_⟩
    exact h (i :: js) (i :: ks) ((List.prefix_cons_inj i).mpr hjs)
      ((List.prefix_cons_inj i).mpr hks)
  · rintro ⟨hhead, hrest⟩ js ks hjs hks
    rcases ks with _ | ⟨k, ks⟩
    · rw [List.prefix_nil.mp hjs]
      exact hrefl _
    rw [List.cons_prefix_cons] at hks
    obtain ⟨rfl, hks⟩ := hks
    rcases js with _ | ⟨j, js⟩
    · exact htrans _ _ _ hhead (hrest [] ks List.nil_prefix hks)
    · rw [List.cons_prefix_cons] at hjs
      obtain ⟨rfl, hjs⟩ := hjs
      exact hrest js ks hjs hks

/-- **Exact guard rule, for an order.** When an accepted step goes up exactly if it meets `Q`, the
runs that never come down are exactly those along `Q`. -/
theorem ascending_iff_along (hrefl : ∀ s, R s s) (htrans : ∀ s t u, R s t → R t u → R s u)
    (hstep : ∀ i s s', step i s = .ok s' → (R s s' ↔ Q s i)) {is : List ι} {s : σ} :
    Ascending step R is s ↔ Along step Q is s := by
  induction is generalizing s with
  | nil =>
    refine iff_of_true (fun js ks hjs hks => ?_) trivial
    rw [List.prefix_nil.mp hks] at hjs ⊢
    rw [List.prefix_nil.mp hjs]
    exact hrefl s
  | cons i is ih =>
    rw [ascending_cons hrefl htrans, ih]
    refine and_congr_left fun _ => ?_
    cases hs : step i s with
    | ok s' =>
      rw [exec_ok hs, hstep i s s' hs]
      exact ⟨fun hq _ _ => hq, fun hq => hq s' rfl⟩
    | error e =>
      rw [exec_error hs]
      refine iff_of_true (hrefl s) fun s' hs' => ?_
      cases hs'

section Upward

variable {J : σ → Prop} (hrefl : ∀ s, R s s) (htrans : ∀ s t u, R s t → R t u → R s u)
include hrefl htrans

/-- When accepted steps meeting `Q` go up where an invariant holds, so do runs along `Q`. -/
theorem ascending_of_invariant (hJ : ∀ i s s', J s → Q s i → step i s = .ok s' → J s')
    (hR : ∀ i s s', J s → Q s i → step i s = .ok s' → R s s') {is : List ι} {s : σ} (hj : J s)
    (hQ : Along step Q is s) : Ascending step R is s := by
  induction is generalizing s with
  | nil =>
    intro js ks hjs hks
    rw [List.prefix_nil.mp hks] at hjs ⊢
    rw [List.prefix_nil.mp hjs]
    exact hrefl s
  | cons i is ih =>
    rw [ascending_cons hrefl htrans]
    obtain ⟨hq, hrest⟩ := hQ
    rcases exec_cases step i s with ⟨s', hs', he⟩ | ⟨_, _, he⟩
    · rw [he] at hrest ⊢
      exact ⟨hR i s s' hj (hq s' hs') hs', ih (hJ i s s' hj (hq s' hs') hs') hrest⟩
    · rw [he] at hrest ⊢
      exact ⟨hrefl s, ih hj hrest⟩

/-- When accepted steps go up, a run stays below the state it ends in. -/
theorem along_below (hR : ∀ i s s', step i s = .ok s' → R s s') (is : List ι) (s : σ) :
    Along step (fun s' _ => R s' (run step is s)) is s := by
  -- the run goes up from every state
  have hup : ∀ (is : List ι) (s : σ), R s (run step is s) := by
    intro is s
    refine run_invariant (P := R s) (fun i t t' ht h => htrans s t t' ht (hR i t t' h)) is ?_
    exact hrefl s
  induction is generalizing s with
  | nil => trivial
  | cons i is ih => exact ⟨fun _ _ => hup (i :: is) s, ih _⟩

end Upward

end Order

/-! ### Counting accepted inputs -/

section Counting

variable {p : ι → Prop} [DecidablePred p]

theorem accepted_cons_ok {i : ι} {is : List ι} {s s' : σ} (h : step i s = .ok s') :
    accepted step p (i :: is) s = (if p i then 1 else 0) + accepted step p is s' := by
  simp only [accepted, exec, h]

theorem accepted_cons_error {i : ι} {is : List ι} {s : σ} {e : ε} (h : step i s = .error e) :
    accepted step p (i :: is) s = accepted step p is s := by
  simp only [accepted, exec, h, Nat.zero_add]

theorem accepted_append (is js : List ι) (s : σ) :
    accepted step p (is ++ js) s = accepted step p is s + accepted step p js (run step is s) := by
  induction is generalizing s with
  | nil => simp [accepted]
  | cons i is ih => simp only [List.cons_append, accepted, run_cons, ih, Nat.add_assoc]

variable {token : σ → Prop}

/-- Once the token is gone, no input that needs it is accepted. -/
theorem accepted_eq_zero (hneed : ∀ i s s', p i → step i s = .ok s' → token s)
    (hgone : ∀ i s s', ¬ token s → step i s = .ok s' → ¬ token s') {is : List ι} {s : σ}
    (h : ¬ token s) : accepted step p is s = 0 := by
  induction is generalizing s with
  | nil => rfl
  | cons i is ih =>
    cases hs : step i s with
    | error e =>
      rw [accepted_cons_error hs]
      exact ih h
    | ok s' =>
      -- an accepted input of the kind would have needed the token
      have hp : ¬ p i := fun hp => h (hneed i s s' hp hs)
      rw [accepted_cons_ok hs, if_neg hp, Nat.zero_add]
      exact ih (hgone i s s' h hs)

/-- **Single use.** Inputs that need a token and consume it are accepted at most once, when no
step gives the token back. -/
theorem accepted_le_one (hneed : ∀ i s s', p i → step i s = .ok s' → token s)
    (huse : ∀ i s s', p i → step i s = .ok s' → ¬ token s')
    (hgone : ∀ i s s', ¬ token s → step i s = .ok s' → ¬ token s') (is : List ι) (s : σ) :
    accepted step p is s ≤ 1 := by
  induction is generalizing s with
  | nil => exact Nat.zero_le 1
  | cons i is ih =>
    cases hs : step i s with
    | error e =>
      rw [accepted_cons_error hs]
      exact ih s
    | ok s' =>
      rw [accepted_cons_ok hs]
      -- an input of the kind uses the token up; any other leaves the count to the rest
      by_cases hp : p i
      · have hzero : accepted step p is s' = 0 :=
          accepted_eq_zero hneed hgone (huse i s s' hp hs)
        simp [hp, hzero]
      · rw [if_neg hp, Nat.zero_add]
        exact ih s'

/-- Inputs that need a token and consume it are accepted exactly once in a run that consumes it,
when no other step does. -/
theorem accepted_eq_one (hneed : ∀ i s s', p i → step i s = .ok s' → token s)
    (huse : ∀ i s s', p i → step i s = .ok s' → ¬ token s')
    (hgone : ∀ i s s', ¬ token s → step i s = .ok s' → ¬ token s')
    (hkeep : ∀ i s s', ¬ p i → step i s = .ok s' → token s → token s') {is : List ι} {s : σ}
    (h : token s) (hend : ¬ token (run step is s)) : accepted step p is s = 1 := by
  induction is generalizing s with
  | nil => exact absurd h hend
  | cons i is ih =>
    cases hs : step i s with
    | error e =>
      rw [run_cons, exec_error hs] at hend
      rw [accepted_cons_error hs]
      exact ih h hend
    | ok s' =>
      rw [run_cons, exec_ok hs] at hend
      rw [accepted_cons_ok hs]
      by_cases hp : p i
      · rw [if_pos hp, accepted_eq_zero hneed hgone (huse i s s' hp hs)]
      · rw [if_neg hp, Nat.zero_add]
        exact ih (hkeep i s s' hp hs h) hend

end Counting

/-! ### What inputs of a kind add to a quantity -/

section Gains

variable {J : σ → Prop} {Q : σ → ι → Prop} {p : ι → Prop} [DecidablePred p] {f g : σ → ℤ}

/-- **Gain rule.** A quantity that follows `g` whenever an input of the kind is accepted, where no
other input moves `g`, gains over a run what `g` does. -/
theorem gain_eq (hJ : ∀ i s s', J s → Q s i → step i s = .ok s' → J s')
    (hp : ∀ i s s', J s → Q s i → p i → step i s = .ok s' → f s' - f s = g s' - g s)
    (hn : ∀ i s s', J s → Q s i → ¬ p i → step i s = .ok s' → g s' = g s) {is : List ι} {s : σ}
    (hj : J s) (hQ : Along step Q is s) : gain step p f is s = g (run step is s) - g s := by
  induction is generalizing s with
  | nil => exact (Int.sub_self _).symm
  | cons i is ih =>
    rw [gain, run_cons]
    rcases exec_cases step i s with ⟨s', hs', he⟩ | ⟨_, _, he⟩
    · have hq := hQ.1 s' hs'
      have hrest : Along step Q is s' := he ▸ hQ.2
      rw [he, ih (hJ i s s' hj hq hs') hrest]
      split
      · next hi =>
        have hmoved := hp i s s' hj hq hi hs'
        omega
      · next hi =>
        have hkept := hn i s s' hj hq hi hs'
        omega
    · have hrest : Along step Q is s := he ▸ hQ.2
      rw [he, ih hj hrest, Int.sub_self, ite_self, Int.zero_add]

/-- **Spending rule.** A quantity that no accepted input outside the kind lowers is after a run at
least what the inputs of the kind leave of it. -/
theorem add_gain_le (hJ : ∀ i s s', J s → step i s = .ok s' → J s')
    (hn : ∀ i s s', J s → ¬ p i → step i s = .ok s' → f s ≤ f s') (is : List ι) {s : σ}
    (hj : J s) : f s + gain step p f is s ≤ f (run step is s) := by
  induction is generalizing s with
  | nil => exact Int.le_of_eq (Int.add_zero _)
  | cons i is ih =>
    rw [gain, run_cons]
    rcases exec_cases step i s with ⟨s', hs', he⟩ | ⟨_, _, he⟩
    · have hrest := ih (hJ i s s' hj hs')
      rw [he]
      split
      · omega
      · next hi =>
        have hkept := hn i s s' hj hi hs'
        omega
    · have hrest := ih hj
      rw [he, Int.sub_self, ite_self, Int.zero_add]
      exact hrest

end Gains

/-! ### Histories -/

section Histories

variable {η : Type} (record : σ → ι → η → η)

/-- A system that keeps a history beside its state: every accepted input is recorded. -/
def recording (step : ι → σ → Except ε σ) (i : ι) (t : σ × η) : Except ε (σ × η) :=
  (step i t.1).map fun s' => (s', record t.1 i t.2)

variable {record}

theorem recording_eq_ok {i : ι} {t t' : σ × η} :
    recording record step i t = .ok t' ↔ step i t.1 = .ok t'.1 ∧ t'.2 = record t.1 i t.2 := by
  unfold recording
  cases step i t.1 with
  | error e => simp [Except.map]
  | ok s' => simp [Except.map, Prod.ext_iff, eq_comm]

theorem exec_recording (i : ι) (t : σ × η) :
    (exec (recording record step) i t).1 = exec step i t.1 := by
  unfold exec recording
  cases step i t.1 <;> rfl

/-- Keeping a history does not change a run. -/
theorem run_recording (is : List ι) (t : σ × η) :
    (run (recording record step) is t).1 = run step is t.1 := by
  induction is generalizing t with
  | nil => rfl
  | cons i is ih => rw [run_cons, run_cons, ih, exec_recording]

/-- Nor does it change what guards a run is along. -/
theorem along_recording {Q : σ → ι → Prop} {is : List ι} {t : σ × η} :
    Along (recording record step) (fun t i => Q t.1 i) is t ↔ Along step Q is t.1 := by
  induction is generalizing t with
  | nil => exact Iff.rfl
  | cons i is ih =>
    unfold Along
    rw [ih, exec_recording]
    apply and_congr_left
    intro _
    constructor
    · intro h s' hs'
      exact h (s', record t.1 i t.2) (recording_eq_ok.mpr ⟨hs', rfl⟩)
    · intro h t' ht'
      exact h t'.1 (recording_eq_ok.mp ht').1

/-- Two guards that agree on accepted inputs, where the history is in step with the state, are met
along the same runs. The first may look at the state after the input. -/
theorem along_recording_congr {J : σ → η → Prop} {R : σ → σ → η → ι → Prop} {Q : σ → η → ι → Prop}
    (hJ : ∀ i s s' h, J s h → step i s = .ok s' → J s' (record s i h))
    (hR : ∀ i s s' h, J s h → step i s = .ok s' → (R s s' h i ↔ Q s h i)) {is : List ι} {s : σ}
    {h : η} (hj : J s h) :
    Along (recording record step) (fun t i => R t.1 (exec step i t.1) t.2 i) is (s, h) ↔
      Along (recording record step) (fun t i => Q t.1 t.2 i) is (s, h) := by
  refine along_congr (J := fun t => J t.1 t.2) ?_ ?_ hj
  · rintro i ⟨s, h⟩ ⟨s', h'⟩ hj hs
    obtain ⟨hs, rfl⟩ := recording_eq_ok.mp hs
    exact hJ i s s' h hj hs
  · rintro i ⟨s, h⟩ ⟨s', h'⟩ hj hs
    obtain ⟨hs, -⟩ := recording_eq_ok.mp hs
    dsimp only
    rw [exec_ok hs]
    exact hR i s s' h hj hs

end Histories

/-! ### What has happened to each of several things -/

section EventLog

variable {κ η : Type} [DecidableEq κ]

/-- What has happened to each of several things, the latest last. -/
abbrev EventLog (κ η : Type) : Type := κ → List η

/-- The log with an event. -/
def EventLog.append (h : EventLog κ η) (k : κ) (e : η) : EventLog κ η :=
  Function.update h k (h k ++ [e])

variable {h : EventLog κ η} {k k' : κ} {e : η}

theorem EventLog.append_self : h.append k e k = h k ++ [e] := Function.update_self k _ h

theorem EventLog.append_of_ne (hk : k' ≠ k) : h.append k e k' = h k' :=
  Function.update_of_ne hk _ h

/-- The only event is the first. -/
theorem EventLog.eq_nil_of_append {e' : η} (he : h.append k e k = [e']) : h k = [] := by
  rw [EventLog.append_self] at he
  have hlength := congrArg List.length he
  rw [List.length_append] at hlength
  exact List.eq_nil_of_length_eq_zero (Nat.succ.inj hlength)

/-- Events under numbers that stop at the last one pile up there. -/
theorem EventLog.length_append_last {h : EventLog ℕ η} {n last : ℕ}
    (hlast : (h last).length = n - last) :
    (h.append (min n last) e last).length = n + 1 - last := by
  by_cases hlt : n < last
  · rw [Nat.min_eq_left (Nat.le_of_lt hlt), EventLog.append_of_ne (Nat.ne_of_gt hlt)]
    omega
  · rw [Nat.min_eq_right (Nat.not_lt.mp hlt), EventLog.append_self, List.length_append, hlast,
      List.length_singleton]
    omega

end EventLog

/-! ### One input many times -/

/-- A state that the next of many equal inputs takes to the next is reached by as many of them. -/
theorem run_replicate {P : ℕ → σ → Prop} {i : ι} {s : σ} {N : ℕ} (hzero : P 0 s)
    (hnext : ∀ n t, n < N → P n t → ∃ t', step i t = .ok t' ∧ P (n + 1) t') (n : ℕ) (hn : n ≤ N) :
    P n (run step (List.replicate n i) s) := by
  induction n with
  | zero => exact hzero
  | succ n ih =>
    obtain ⟨t', ht', hp⟩ := hnext n _ hn (ih (Nat.le_of_succ_le hn))
    rw [List.replicate_succ', run_append, run_cons, exec_ok ht', run_nil]
    exact hp

theorem along_replicate {i : ι} (hi : ∀ s, Q s i) (n : ℕ) (s : σ) :
    Along step Q (List.replicate n i) s := by
  induction n generalizing s with
  | zero => trivial
  | succ n ih => exact ⟨fun _ _ => hi s, ih _⟩

end TransitionSystem
