import Altan.Foundation.Accounting
import Altan.Identity.Marriages

/-!
# Consent to a marriage

The marriage of two citizens asks for the signature of the one who registers it, and for that of the
partner as well, by what is said of it. The call checks no signature but its own, so the partner is
whoever is named.

## Main definitions

* `SignsMarriage a xs`: the account registers a marriage in the run
* `LeftAlone cfg a xs w`: it is never married in the run, and is charged no fee for a marriage
* `Undisturbed cfg a xs w`: the calls that other people sign change neither
* `Uninvited cfg a xs w`: nobody marries it in the run

## Main results

* `consent_iff`: an account that registers no marriage is left alone by the others in exactly the
  runs where none of them marries it
-/

open Bounded Dispatch Ledger TransitionSystem Runtime

namespace Identity

variable {AccountId L : Type}

/-- Who registers a marriage by an input, and whom with. -/
def Input.couple : Input AccountId → Option (AccountId × AccountId)
  | .call (.signed a) (.registerMarriage b) => some (a, b)
  | _ => none

theorem Input.couple_eq_some {x : Input AccountId} {a b : AccountId}
    (h : x.couple = some (a, b)) : x = .call (.signed a) (.registerMarriage b) := by
  unfold Input.couple at h
  split at h
  · obtain ⟨rfl, rfl⟩ := Prod.ext_iff.mp (Option.some.inj h)
    rfl
  · cases h

/-- The account registers a marriage in the run. -/
def SignsMarriage (a : AccountId) (xs : List (Input AccountId)) : Prop :=
  ∃ x ∈ xs, ∃ b, x.couple = some (a, b)

theorem not_signsMarriage {a : AccountId} {xs : List (Input AccountId)}
    (h : ¬ SignsMarriage a xs) : ∀ x ∈ xs, ∀ b, x.couple ≠ some (a, b) :=
  fun x hx b hb => h ⟨x, hx, b, hb⟩

variable [DecidableEq AccountId]

/-- A call that somebody else signs. -/
def Input.byOther (a : AccountId) : Input AccountId → Bool
  | .call (.signed b) _ => decide (b ≠ a)
  | _ => false

/-- The run without the calls that other people sign. -/
def purge (a : AccountId) (xs : List (Input AccountId)) : List (Input AccountId) :=
  xs.filter fun x => ¬ x.byOther a

variable [Currency AccountId L] [ReservableCurrency AccountId L]

/-- What an accepted input takes from an account for a marriage. -/
def feeCharged (cfg : Config AccountId L) (a : AccountId) (w : World AccountId L)
    (x : Input AccountId) : ℕ :=
  if x.couple.isSome then
    freeBalance w.ledger a - freeBalance (exec (step cfg) x w).ledger a
  else 0

/-- What a run takes from an account for marriages. -/
def feesCharged (cfg : Config AccountId L) (a : AccountId) : List (Input AccountId) →
    World AccountId L → ℕ :=
  tally (step cfg) (feeCharged cfg a)

/-- The account is not married in any state of the run, and is charged no fee for a marriage. -/
def LeftAlone (cfg : Config AccountId L) (a : AccountId) (xs : List (Input AccountId))
    (w : World AccountId L) : Prop :=
  Throughout (step cfg) (fun w => w.marriages.get a = none) xs w ∧ feesCharged cfg a xs w = 0

/-- The calls that other people sign make no difference to whom the account is married to, nor to
the fees it is charged for marriages, at any time. -/
def Undisturbed (cfg : Config AccountId L) (a : AccountId) (xs : List (Input AccountId))
    (w : World AccountId L) : Prop :=
  ∀ js, js <+: xs →
    (run (step cfg) js w).marriages.get a = (run (step cfg) (purge a js) w).marriages.get a ∧
      feesCharged cfg a js w = feesCharged cfg a (purge a js) w

/-- Nobody marries the account in the run. -/
def Uninvited (cfg : Config AccountId L) (a : AccountId) (xs : List (Input AccountId))
    (w : World AccountId L) : Prop :=
  Along (step cfg) (fun _ x => ∀ b, x.couple ≠ some (b, a)) xs w

section Consent

variable {cfg : Config AccountId L} {a : AccountId} {w w' : World AccountId L}
  {x : Input AccountId} {xs : List (Input AccountId)}

/-- One who is unmarried and does not register a marriage stays so, unless named. -/
theorem unmarried_iff (h : step cfg x w = .ok w') (hown : ∀ b, x.couple ≠ some (a, b))
    (hnone : w.marriages.get a = none) :
    w'.marriages.get a = none ↔ ∀ b, x.couple ≠ some (b, a) := by
  have hact := step_civilAct h
  unfold CivilAct at hact
  split at hact
  · next c d =>
    -- a wedding: the account is not the one who registers it, so it is married when named
    have hca : a ≠ c := fun he => hown d (congrArg (fun c => some (c, d)) he.symm)
    rw [hact.marriages, StorageMap.get_insert_eq_none, StorageMap.get_insert_eq_none]
    constructor
    · rintro ⟨hda, -⟩ b hb
      exact hda (Prod.ext_iff.mp (Option.some.inj hb)).2.symm
    · intro hnot
      exact ⟨fun he => hnot c (congrArg (fun d => some (c, d)) he.symm), hca, hnone⟩
  · next c =>
    -- a divorce removes two entries, and the account had none
    obtain ⟨b, hdivorce⟩ := hact
    refine iff_of_true ?_ fun _ hb => by cases hb
    rw [hdivorce.marriages, StorageMap.get_remove, StorageMap.get_remove, hnone, ite_self,
      ite_self]
  · next hwedding _ =>
    refine iff_of_true (hact ▸ hnone) fun b hb => ?_
    exact hwedding b a (Input.couple_eq_some hb)

/-- One who neither registers a marriage nor is named pays nothing for it. -/
theorem feeCharged_eq_zero (h : step cfg x w = .ok w') (hown : ∀ b, x.couple ≠ some (a, b))
    (hnot : ∀ b, x.couple ≠ some (b, a)) : feeCharged cfg a w x = 0 := by
  unfold feeCharged
  split
  · next hcouple =>
    -- only the couple pays
    obtain ⟨⟨c, d⟩, hcd⟩ := Option.isSome_iff_exists.mp hcouple
    obtain rfl := Input.couple_eq_some hcd
    have hwedding : Wedding cfg w.toState w'.toState c d := step_civilAct h
    rw [exec_ok h]
    apply Nat.sub_eq_zero_of_le
    refine hwedding.paid.free_le ?_ ?_
    · rintro rfl
      exact hown d rfl
    · rintro rfl
      exact hnot c rfl
  · rfl

/-- **Left alone is uninvited.** -/
theorem throughout_unmarried_iff (hown : ∀ x ∈ xs, ∀ b, x.couple ≠ some (a, b))
    (hnone : w.marriages.get a = none) :
    Throughout (step cfg) (fun w => w.marriages.get a = none) xs w ↔ Uninvited cfg a xs w :=
  throughout_iff_along_within (J := fun _ => True)
    (G := fun _ x => ∀ b, x.couple ≠ some (a, b)) (fun _ _ _ _ _ _ => trivial)
    (fun _ _ _ _ hnone hown h => unmarried_iff h hown hnone) trivial hnone (along_of_mem hown)

theorem Uninvited.leftAlone (h : Uninvited cfg a xs w)
    (hown : ∀ x ∈ xs, ∀ b, x.couple ≠ some (a, b)) (hnone : w.marriages.get a = none) :
    LeftAlone cfg a xs w := by
  refine ⟨(throughout_unmarried_iff hown hnone).mpr h, tally_eq_zero ?_⟩
  exact along_of_invariant (J := fun _ => True) (fun _ _ _ _ _ _ => trivial)
    (fun x w w' _ hguard h => feeCharged_eq_zero h hguard.1 hguard.2) trivial
    ((along_of_mem hown).and h)

/-- Without the calls of the others, one who registers no marriage is left alone. -/
theorem leftAlone_purge (hown : ∀ x ∈ xs, ∀ b, x.couple ≠ some (a, b))
    (hnone : w.marriages.get a = none) : LeftAlone cfg a (purge a xs) w := by
  have hmem : ∀ x ∈ purge a xs, x ∈ xs ∧ ¬ x.byOther a := by
    intro x hx
    obtain ⟨hx, hother⟩ := List.mem_filter.mp hx
    exact ⟨hx, by simpa using hother⟩
  have hownPurge : ∀ x ∈ purge a xs, ∀ b, x.couple ≠ some (a, b) :=
    fun x hx => hown x (hmem x hx).1
  -- whoever else could name the account signs the call
  have huninvited : Uninvited cfg a (purge a xs) w := by
    refine along_of_mem fun x hx b hb => ?_
    obtain ⟨hxs, hother⟩ := hmem x hx
    obtain rfl := Input.couple_eq_some hb
    by_cases hba : b = a
    · exact hown _ hxs a (hba ▸ rfl)
    · exact hother (decide_eq_true hba)
  exact huninvited.leftAlone hownPurge hnone

theorem LeftAlone.last (h : LeftAlone cfg a xs w) :
    (run (step cfg) xs w).marriages.get a = none := h.1.last

/-- An account that registers no marriage in a run is left alone there, and undisturbed by the
others, in exactly the runs where nobody marries it. -/
theorem consent_iff (cfg : Config AccountId L) (ledger : L) (now : ℕ) (a : AccountId)
    (xs : List (Input AccountId)) (hsigns : ¬ SignsMarriage a xs) :
    (LeftAlone cfg a xs (World.genesis ledger now) ↔
        Uninvited cfg a xs (World.genesis ledger now)) ∧
      (Undisturbed cfg a xs (World.genesis ledger now) ↔
        Uninvited cfg a xs (World.genesis ledger now)) := by
  have hown := not_signsMarriage hsigns
  have hnone : (World.genesis ledger now : World AccountId L).marriages.get a = none :=
    StorageMap.get_empty a
  have hbefore : ∀ {js}, js <+: xs → ∀ x ∈ js, ∀ b, x.couple ≠ some (a, b) :=
    fun hjs x hx => hown x (hjs.subset hx)
  refine ⟨⟨fun h => (throughout_unmarried_iff hown hnone).mp h.1,
    fun h => h.leftAlone hown hnone⟩, fun h => ?_, fun h js hjs => ?_⟩
  · refine (throughout_unmarried_iff hown hnone).mp (throughout_of_initial fun js hjs => ?_)
    -- without the others the account is unmarried, so it is with them
    rw [(h js hjs).1]
    exact (leftAlone_purge (hbefore hjs) hnone).last
  · have huninvited : Uninvited cfg a js (World.genesis ledger now) := h.initial hjs
    have hleft := huninvited.leftAlone (hbefore hjs) hnone
    have hpurged : LeftAlone cfg a (purge a js) (World.genesis ledger now) :=
      leftAlone_purge (hbefore hjs) hnone
    exact ⟨hleft.last.trans hpurged.last.symm, hleft.2.trans hpurged.2.symm⟩

end Consent

/-! ### A wedding without the partner -/

/-- Two citizens are registered, one of whom marries the other. -/
def unasked : List (Input ℕ) :=
  [decree (registration 3 (.ofNat 0)), decree (registration 4 (.ofNat 1)),
    signed 3 (.registerMarriage 4)]

/-- Two accounts with the fee to spare, before any call. -/
def unmarried : World ℕ (NativeLedger ℕ) :=
  .genesis (Balances.ofFree [(3, 10 * CentralBank.unit), (4, 10 * CentralBank.unit)]) 1

/-- Nobody marries a third account, which is left alone. -/
theorem consent_iff_bystander :
    LeftAlone citizens 5 unasked unmarried ∧ Undisturbed citizens 5 unasked unmarried := by
  have hsigns : ¬ SignsMarriage 5 unasked := by
    rintro ⟨x, hx, b, hb⟩
    obtain rfl := Input.couple_eq_some hb
    simp [unasked, decree, signed] at hx
  have huninvited : Uninvited citizens 5 unasked unmarried := by
    refine along_of_mem fun x hx b hb => ?_
    obtain rfl := Input.couple_eq_some hb
    simp [unasked, decree, signed] at hx
  obtain ⟨hleft, hundisturbed⟩ := consent_iff citizens _ 1 5 unasked hsigns
  exact ⟨hleft.mpr huninvited, hundisturbed.mpr huninvited⟩

/-- The partner signs nothing at all, is married and has paid the fee; without the calls of the
others, neither. -/
theorem married_unasked :
    (¬ SignsMarriage 4 unasked ∧ (run (step citizens) unasked unmarried).marriages.get 4 = some 3 ∧
      feesCharged citizens 4 unasked unmarried = 5 * CentralBank.unit) ∧
      ¬ LeftAlone citizens 4 unasked unmarried ∧ ¬ Undisturbed citizens 4 unasked unmarried := by
  have hmarried : (run (step citizens) unasked unmarried).marriages.get 4 = some 3 := by
    decide +kernel
  have hpurged : (run (step citizens) (purge 4 unasked) unmarried).marriages.get 4 = none := by
    decide +kernel
  refine ⟨⟨?_, hmarried, by decide +kernel⟩, fun hleft => ?_, fun hundisturbed => ?_⟩
  · rintro ⟨x, hx, b, hb⟩
    obtain rfl := Input.couple_eq_some hb
    simp [unasked, decree, signed] at hx
  · exact Option.some_ne_none 3 (hmarried.symm.trans hleft.last)
  · have hsame := (hundisturbed unasked (List.prefix_refl _)).1
    rw [hmarried, hpurged] at hsame
    cases hsame

end Identity
