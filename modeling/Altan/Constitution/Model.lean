import Altan.Foundation.Dispatch
import Altan.Foundation.Scale
import Altan.Foundation.StorageMap

/-!
# The constitution

The hash of the constitution is set once. A citizen who is held before a verdict has a timer, one
for each citizen; at the start of every block those whose timer has run out, and against whom no
verdict stands, are released.

## Main definitions

* `HabeasCorpusTimer`, `State`: the timers and the storage
* `registerLockup`, `resolveHabeasCorpus`: a timer set, and a timer resolved by a verdict
* `expired`, `onInitialize`: who is released at the start of a block
-/

open Dispatch

namespace Constitution

/-- The errors of the module. -/
inductive Error
  | constitutionAlreadySet
  | noActiveTimer
  | timerAlreadyResolved
  deriving DecidableEq, Repr

/-- The outcome of a function of the module. -/
abbrev Result (α : Type) := Except (DispatchError Error) α

/-- How long a citizen may be held before a verdict. -/
structure HabeasCorpusTimer where
  maxLockupBlock : ℕ
  registeredAt : ℕ
  caseHash : Bytes32
  resolved : Bool
  deriving DecidableEq

/-- What a call is dispatched with: its origin and the current block. -/
structure Context (AccountId : Type) where
  origin : Origin AccountId
  now : ℕ

/-- The storage of the module. -/
structure State (AccountId : Type) where
  coreRightsHash : Option (Vector UInt8 46)
  habeasCorpusTimers : StorageMap AccountId HabeasCorpusTimer

variable {AccountId I : Type}

/-- The storage before any call. -/
def genesis : State AccountId where
  coreRightsHash := none
  habeasCorpusTimers := ∅

/-- Set the hash of the constitution, once. -/
def setConstitutionHash (ctx : Context AccountId) (cid : Vector UInt8 46) (s : State AccountId) :
    Result (State AccountId) := do
  ensureRoot ctx.origin
  ensure (s.coreRightsHash = none) (.module .constitutionAlreadySet)
  return { s with coreRightsHash := some cid }

variable [DecidableEq AccountId]

/-- Set the timer of a citizen, in place of the one there is. -/
def registerLockup (ctx : Context AccountId) (citizen : AccountId) (maxLockupBlock : ℕ)
    (caseHash : Bytes32) (s : State AccountId) : Result (State AccountId) := do
  ensureRoot ctx.origin
  return { s with
    habeasCorpusTimers := s.habeasCorpusTimers.insert citizen
      { maxLockupBlock := maxLockupBlock
        registeredAt := ctx.now
        caseHash := caseHash
        resolved := false } }

/-- Resolve and remove the timer of a citizen. -/
def resolveHabeasCorpus (ctx : Context AccountId) (citizen : AccountId) (s : State AccountId) :
    Result (State AccountId) := do
  ensureRoot ctx.origin
  let timer ← required (s.habeasCorpusTimers.get citizen) (.module .noActiveTimer)
  ensure (timer.resolved = false) (.module .timerAlreadyResolved)
  return { s with habeasCorpusTimers := s.habeasCorpusTimers.remove citizen }

/-- The dispatchables with their arguments. -/
inductive Call (AccountId : Type)
  | setConstitutionHash (cid : Vector UInt8 46)
  | registerLockup (citizen : AccountId) (maxLockupBlock : ℕ) (caseHash : Bytes32)
  | resolveHabeasCorpus (citizen : AccountId)
  deriving DecidableEq

/-- Dispatch a call. -/
def dispatch (ctx : Context AccountId) : Call AccountId → State AccountId → Result (State AccountId)
  | .setConstitutionHash cid => setConstitutionHash ctx cid
  | .registerLockup citizen maxLockupBlock caseHash =>
    registerLockup ctx citizen maxLockupBlock caseHash
  | .resolveHabeasCorpus citizen => resolveHabeasCorpus ctx citizen

/-! ### The start of a block -/

/-- The timer of a citizen has run out, unresolved and without a verdict. -/
def IsExpired (n : ℕ) (hasVerdict : AccountId → Bool) (s : State AccountId) (who : AccountId) :
    Prop :=
  ∃ timer ∈ s.habeasCorpusTimers.get who,
    timer.resolved = false ∧ timer.maxLockupBlock ≤ n ∧ hasVerdict who = false

instance (n : ℕ) (hasVerdict : AccountId → Bool) (s : State AccountId) :
    DecidablePred (IsExpired n hasVerdict s) := fun who =>
  inferInstanceAs (Decidable (∃ timer ∈ s.habeasCorpusTimers.get who, _))

/-- The citizens whose timer has run out. -/
def expired (n : ℕ) (hasVerdict : AccountId → Bool) (s : State AccountId) : Finset AccountId :=
  s.habeasCorpusTimers.keys.filter (IsExpired n hasVerdict s)

/-- Release a citizen and remove the timer. -/
def autoRelease (release : I → AccountId → I) (p : State AccountId × I) (citizen : AccountId) :
    State AccountId × I :=
  ({ p.1 with habeasCorpusTimers := p.1.habeasCorpusTimers.remove citizen }, release p.2 citizen)

/-- The order in which the citizens are visited does not matter. -/
instance (release : I → AccountId → I) [RightCommutative release] :
    RightCommutative (autoRelease release) where
  right_comm p a b := by
    unfold autoRelease
    rw [StorageMap.remove_comm]
    exact congrArg (Prod.mk _) (RightCommutative.right_comm p.2 a b)

/-- The start of block `n`: all who are expired are released. -/
def onInitialize (n : ℕ) (hasVerdict : AccountId → Bool) (release : I → AccountId → I)
    [RightCommutative release] (s : State AccountId) (i : I) : State AccountId × I :=
  (expired n hasVerdict s).val.foldl (autoRelease release) (s, i)

section Effect

variable {n : ℕ} {hasVerdict : AccountId → Bool} {release : I → AccountId → I}
  [RightCommutative release] {s : State AccountId} {i : I} {who : AccountId}

theorem mem_expired : who ∈ expired n hasVerdict s ↔ IsExpired n hasVerdict s who := by
  unfold expired
  rw [Finset.mem_filter, StorageMap.mem_keys]
  constructor
  · exact And.right
  · intro h
    obtain ⟨timer, hget, -⟩ := id h
    exact ⟨⟨timer, hget⟩, h⟩

theorem foldl_autoRelease_snd (m : Multiset AccountId) :
    (m.foldl (autoRelease release) (s, i)).2 = m.foldl release i := by
  induction m using Multiset.induction_on generalizing s i with
  | empty => rfl
  | cons a m ih =>
    rw [Multiset.foldl_cons, Multiset.foldl_cons]
    exact ih

theorem foldl_autoRelease_get (m : Multiset AccountId) :
    (m.foldl (autoRelease release) (s, i)).1.habeasCorpusTimers.get who =
      if who ∈ m then none else s.habeasCorpusTimers.get who := by
  induction m using Multiset.induction_on generalizing s i with
  | empty => rfl
  | cons a m ih =>
    rw [Multiset.foldl_cons]
    refine ih.trans ?_
    simp only [StorageMap.get_remove, Multiset.mem_cons]
    by_cases hm : who ∈ m
    · rw [if_pos hm, if_pos (Or.inr hm)]
    · rw [if_neg hm]
      by_cases ha : who = a
      · rw [if_pos ha, if_pos (Or.inl ha)]
      · rw [if_neg ha, if_neg (not_or_intro ha hm)]

/-- Outside this module every expired citizen is released. -/
theorem onInitialize_snd :
    (onInitialize n hasVerdict release s i).2 =
      (expired n hasVerdict s).val.foldl release i :=
  foldl_autoRelease_snd _

/-- Their timers are removed, the others stay. -/
theorem onInitialize_get :
    (onInitialize n hasVerdict release s i).1.habeasCorpusTimers.get who =
      if IsExpired n hasVerdict s who then none else s.habeasCorpusTimers.get who :=
  (foldl_autoRelease_get _).trans (if_congr mem_expired rfl rfl)

/-- Where nobody is expired nothing happens. -/
theorem onInitialize_of_none (h : ∀ who, ¬ IsExpired n hasVerdict s who) :
    onInitialize n hasVerdict release s i = (s, i) := by
  have hempty : expired n hasVerdict s = ∅ :=
    Finset.eq_empty_of_forall_notMem fun who hwho => h who (mem_expired.mp hwho)
  unfold onInitialize
  rw [hempty]
  rfl

end Effect

end Constitution
