import Altan.Foundation.ProvidedBalances

/-!
# Payments out of one account

Several transfers out of one account that leave it alive, all of them or none. The account pays the
total, whoever is paid and however often, the account itself included. They are not refused when
the account can spend the total and keep the existential deposit, and whoever is paid is alive.
Where refused payments are left out instead, all that was to be paid has left the account exactly
when no payment was refused and none went to the account itself.

## Main definitions

* `Spendable l a v`: nothing that is locked keeps the account `a` from spending `v`
* `SpendableTransfers`: a currency that refuses a transfer that leaves its account alive just when
  it is not spendable, or does not give its destination the existential deposit
* `Currency.payAll`: payments one after the other
* `Currency.received`: what they come to for an account
* `Currency.Reaches`: everyone has the existential deposit once they are paid

## Main results

* `payAll_free`, `payAll_issuance`: the balances after the payments
* `payAll_isOk`: when the payments go through
* `payOut_free_iff`, `payOut_received`: when payments that may be refused are all made, and what
  they come to then
-/

open Dispatch Ledger

namespace Ledger

variable {AccountId L : Type} [Ledger AccountId L] {l : L} {a : AccountId} {v w : ℕ}

/-- Nothing that is locked keeps the account `a` from spending `v`. What is reserved counts towards
what is locked. -/
def Spendable (l : L) (a : AccountId) (v : ℕ) : Prop :=
  ∀ id, v + (lockAmount l id a - reservedBalance l a) ≤ freeBalance l a

theorem Spendable.le_freeBalance (h : Spendable l a v) : v ≤ freeBalance l a :=
  (Nat.le_add_right v _).trans (h [])

theorem Spendable.of_le (h : Spendable l a v) (hle : w ≤ v) : Spendable l a w :=
  fun id => (Nat.add_le_add_right hle _).trans (h id)

end Ledger

/-- A currency that refuses a transfer that leaves the existential deposit exactly when the amount
is not spendable, or does not reach an account that has the existential deposit then. -/
class SpendableTransfers (AccountId : outParam Type) (L : Type) [Currency AccountId L] :
    Prop where
  transfer_isOk_iff : ∀ (l : L) a b v er, v ≠ 0 → a ≠ b →
    v + existentialDeposit L ≤ freeBalance l a → ((∃ l', Currency.transfer l a b v er = .ok l') ↔
      Spendable l a v ∧ existentialDeposit L ≤ freeBalance l b + v)

namespace Currency

variable {AccountId L : Type} [Currency AccountId L] {l l' : L} {a b c : AccountId} {v w : ℕ}
  {ps : List (AccountId × ℕ)}

/-- Pay amounts out of an account, which stays alive, one after the other. -/
def payAll (a : AccountId) : List (AccountId × ℕ) → L → Except CurrencyError L
  | [], l => .ok l
  | (b, v) :: ps, l => do
    let l ← transfer l a b v .keepAlive
    payAll a ps l

/-- What the payments come to for an account. -/
def received [DecidableEq AccountId] (c : AccountId) (ps : List (AccountId × ℕ)) : ℕ :=
  (ps.map fun p => if c = p.1 then p.2 else 0).sum

theorem payAll_cons : payAll a ((b, v) :: ps) l = .ok l' ↔
    ∃ l₁, transfer l a b v .keepAlive = .ok l₁ ∧ payAll a ps l₁ = .ok l' := bind_eq_ok

section Effects

variable [DecidableEq AccountId]

theorem received_cons : received c ((b, v) :: ps) = (if c = b then v else 0) + received c ps := by
  simp only [received, List.map_cons, List.sum_cons]

/-- **The balances after several payments**: the account pays the total, and whoever is paid
receives what is for them. -/
theorem payAll_free (h : payAll a ps l = .ok l') (c : AccountId) :
    freeBalance l' c + (if c = a then (ps.map Prod.snd).sum else 0) =
      freeBalance l c + received c ps := by
  induction ps generalizing l with
  | nil =>
    obtain rfl := Except.ok.inj h
    simp [received]
  | cons p ps ih =>
    obtain ⟨b, v⟩ := p
    obtain ⟨l₁, hfirst, hrest⟩ := payAll_cons.mp h
    have hone := transfer_keepAlive_free hfirst c
    have hothers := ih hrest
    rw [received_cons, List.map_cons, List.sum_cons]
    by_cases hc : c = a
    · rw [if_pos hc] at hone hothers ⊢
      omega
    · rw [if_neg hc] at hone hothers ⊢
      omega

theorem payAll_issuance (h : payAll a ps l = .ok l') : totalIssuance l' = totalIssuance l := by
  induction ps generalizing l with
  | nil => rw [Except.ok.inj h]
  | cons p ps ih =>
    obtain ⟨l₁, hfirst, hrest⟩ := payAll_cons.mp h
    exact (ih hrest).trans (transfer_keepAlive_issuance hfirst)

theorem payAll_reserved (h : payAll a ps l = .ok l') (c : AccountId) :
    reservedBalance l' c = reservedBalance l c := by
  induction ps generalizing l with
  | nil => rw [Except.ok.inj h]
  | cons p ps ih =>
    obtain ⟨l₁, hfirst, hrest⟩ := payAll_cons.mp h
    exact (ih hrest).trans (transfer_reserved hfirst c)

/-- A transfer leaves what its source can spend beyond it, and everybody else what they have. -/
theorem transfer_leaves [LockableCurrency AccountId L]
    (h : transfer l a b v .keepAlive = .ok l') (hs : Spendable l a (v + w)) :
    Spendable l' a w ∧ ∀ c, c ≠ a → freeBalance l c ≤ freeBalance l' c := by
  constructor
  · intro id
    have hfree := transfer_keepAlive_free h a
    rw [if_pos rfl] at hfree
    have hbefore := hs id
    rw [LockableCurrency.transfer_lock l a b v .keepAlive l' h, transfer_reserved h]
    omega
  · exact fun c hc => transfer_free_le h hc

/-- **Payments of what is spendable go through**, when the account keeps the existential deposit and
whoever is paid has it. -/
theorem payAll_isOk [LockableCurrency AccountId L] [SpendableTransfers AccountId L]
    (hs : Spendable l a ((ps.map Prod.snd).sum + existentialDeposit L))
    (halive : ∀ p ∈ ps, existentialDeposit L ≤ freeBalance l p.1) :
    ∃ l', payAll a ps l = .ok l' := by
  induction ps generalizing l with
  | nil => exact ⟨l, rfl⟩
  | cons p ps ih =>
    obtain ⟨b, v⟩ := p
    rw [List.map_cons, List.sum_cons, Nat.add_assoc] at hs
    have hle := hs.le_freeBalance
    obtain ⟨l₁, hfirst⟩ : ∃ l₁, transfer l a b v .keepAlive = .ok l₁ := by
      by_cases hnoop : v = 0 ∨ a = b
      · exact ⟨l, transfer_noop l a b v .keepAlive hnoop⟩
      obtain ⟨hv, hab⟩ := not_or.mp hnoop
      have hdest : existentialDeposit L ≤ freeBalance l b := halive (b, v) List.mem_cons_self
      exact (SpendableTransfers.transfer_isOk_iff l a b v .keepAlive hv hab (by omega)).mpr
        ⟨hs.of_le (Nat.le_add_right _ _), hdest.trans (Nat.le_add_right _ _)⟩
    obtain ⟨hleft, hothers⟩ := transfer_leaves hfirst hs
    obtain ⟨l', hrest⟩ := ih hleft fun p hp => by
      by_cases hp1 : p.1 = a
      -- the account itself has kept the existential deposit
      · rw [hp1]
        exact (Nat.le_add_left _ _).trans hleft.le_freeBalance
      · exact (halive p (List.mem_cons_of_mem _ hp)).trans (hothers p.1 hp1)
    exact ⟨l', payAll_cons.mpr ⟨l₁, hfirst, hrest⟩⟩

end Effects

/-! ### Payments that may be refused -/

section Refusals

variable [DecidableEq AccountId] {m : ℕ}

/-- Everyone who is to receive something has the existential deposit then, with what they were paid
before. -/
def Reaches (l : L) (ps : List (AccountId × ℕ)) : Prop :=
  ∀ pre b v post, ps = pre ++ (b, v) :: post → v ≠ 0 →
    existentialDeposit L ≤ freeBalance l b + received b pre + v

/-- None of the payments is refused, and none goes to the account they are made from. -/
structure Payable (l : L) (a : AccountId) (ps : List (AccountId × ℕ)) : Prop where
  elsewhere : ∀ p ∈ ps, p.2 ≠ 0 → p.1 ≠ a
  spendable : (ps.map Prod.snd).sum ≠ 0 → Spendable l a (ps.map Prod.snd).sum
  reaches : Reaches l ps

theorem payTo_reserved (l : L) (p : AccountId × ℕ) (c : AccountId) :
    reservedBalance (payTo a l p) c = reservedBalance l c := by
  unfold payTo
  cases ht : transfer l a p.1 p.2 .allowDeath with
  | error e => rw [attempt_of_error ht]
  | ok l' => rw [attempt_of_ok ht, transfer_reserved ht]

theorem payOut_reserved (l : L) (ps : List (AccountId × ℕ)) (c : AccountId) :
    reservedBalance (payOut l a ps) c = reservedBalance l c := by
  induction ps generalizing l with
  | nil => rfl
  | cons p ps ih => exact (ih (payTo a l p)).trans (payTo_reserved l p c)

/-- Whatever is paid, somebody receives it. -/
theorem sum_received {S : Finset AccountId} (h : ∀ p ∈ ps, p.1 ∈ S) :
    ∑ c ∈ S, received c ps = (ps.map Prod.snd).sum := by
  induction ps with
  | nil => exact Finset.sum_eq_zero fun c _ => rfl
  | cons p ps ih =>
    obtain ⟨b, v⟩ := p
    obtain ⟨hb, hps⟩ := List.forall_mem_cons.mp h
    have hfirst : ∑ c ∈ S, (if c = b then v else 0) = v := by
      rw [Finset.sum_ite_eq', if_pos hb]
    simp only [received_cons, List.map_cons, List.sum_cons]
    rw [Finset.sum_add_distrib, hfirst, ih hps]

theorem received_eq_zero (h : ∀ p ∈ ps, p.2 ≠ 0 → p.1 ≠ c) : received c ps = 0 := by
  induction ps with
  | nil => rfl
  | cons p ps ih =>
    obtain ⟨hp, hps⟩ := List.forall_mem_cons.mp h
    rw [received_cons, ih hps, Nat.add_zero]
    by_cases hc : c = p.1
    · rw [if_pos hc]
      by_contra hne
      exact hp hne hc.symm
    · exact if_neg hc

theorem received_of_total (h : (ps.map Prod.snd).sum = 0) : received c ps = 0 :=
  received_eq_zero fun p hp hne =>
    absurd (List.sum_eq_zero_iff.mp h p.2 (List.mem_map_of_mem hp)) hne

theorem reaches_nil : Reaches l [] := by
  intro pre b v post h
  have hlength := congrArg List.length h
  simp at hlength

theorem reaches_cons : Reaches l ((b, v) :: ps) ↔
    (v ≠ 0 → existentialDeposit L ≤ freeBalance l b + v) ∧
      ∀ pre c w post, ps = pre ++ (c, w) :: post → w ≠ 0 → existentialDeposit L ≤
        freeBalance l c + ((if c = b then v else 0) + received c pre) + w := by
  constructor
  · intro h
    refine ⟨fun hv => h [] b v ps rfl hv, fun pre c w post hps hw => ?_⟩
    have hlater := h ((b, v) :: pre) c w post (by rw [hps, List.cons_append]) hw
    rwa [received_cons] at hlater
  · rintro ⟨hfirst, hrest⟩ pre c w post hps hw
    cases pre with
    | nil =>
      obtain ⟨hp, rfl⟩ := List.cons.inj hps
      obtain ⟨rfl, rfl⟩ := Prod.mk.inj hp
      exact hfirst hw
    | cons p pre =>
      obtain ⟨rfl, htail⟩ := List.cons.inj hps
      rw [received_cons]
      exact hrest pre c w post htail hw

/-- A payment of nothing makes no difference. -/
theorem payable_cons_zero : Payable l a ((b, 0) :: ps) ↔ Payable l a ps := by
  have hsum : (((b, 0) :: ps).map Prod.snd).sum = (ps.map Prod.snd).sum := by simp
  have hreach : Reaches l ((b, 0) :: ps) ↔ Reaches l ps := by
    rw [reaches_cons]
    simp only [ite_self, Nat.zero_add, ne_eq, not_true_eq_false, false_imp_iff, true_and]
    exact Iff.rfl
  constructor
  · rintro ⟨helsewhere, hspendable, hreaches⟩
    rw [hsum] at hspendable
    exact ⟨fun p hp => helsewhere p (List.mem_cons_of_mem _ hp), hspendable, hreach.mp hreaches⟩
  · rintro ⟨helsewhere, hspendable, hreaches⟩
    refine ⟨fun p hp hne => ?_, ?_, hreach.mpr hreaches⟩
    · rcases List.mem_cons.mp hp with rfl | hp
      · exact absurd rfl hne
      · exact helsewhere p hp hne
    · rw [hsum]
      exact hspendable

/-- After a payment to another account the others are as payable as before with it. -/
theorem payable_cons [LockableCurrency AccountId L] {er : ExistenceRequirement} (hv : v ≠ 0)
    (hab : a ≠ b) (h : transfer l a b v er = .ok l')
    (hfree : freeBalance l' a + v = freeBalance l a) (hs : Spendable l a v) :
    Payable l a ((b, v) :: ps) ↔ Payable l' a ps := by
  have hmoved := transfer_ok l a b v er l' hv hab h
  -- what is locked stays, so that the rest is spendable with the payment before it
  have hleft : ∀ w, Spendable l' a w ↔ Spendable l a (v + w) := by
    intro w
    refine forall_congr' fun id => ?_
    rw [LockableCurrency.transfer_lock l a b v er l' h, transfer_reserved h]
    omega
  have hothers : ∀ c, c ≠ a →
      freeBalance l' c = freeBalance l c + if c = b then v else 0 := by
    intro c hc
    by_cases hcb : c = b
    · rw [if_pos hcb, hcb, hmoved.dest]
    · rw [if_neg hcb, Nat.add_zero, hmoved.others c hc hcb]
  constructor
  · rintro ⟨helsewhere, hspendable, hreaches⟩
    have hlater : ∀ p ∈ ps, p.2 ≠ 0 → p.1 ≠ a := fun p hp =>
      helsewhere p (List.mem_cons_of_mem _ hp)
    refine ⟨hlater, fun hsum => ?_, fun pre c w post hps hw => ?_⟩
    · rw [hleft, ← List.sum_cons, ← List.map_cons (f := Prod.snd) (a := (b, v))]
      exact hspendable (by rw [List.map_cons, List.sum_cons]; omega)
    · -- a later payee has received this payment too, if it is the same account
      have hc : c ≠ a := hlater (c, w) (by rw [hps]; simp) hw
      have hreach := (reaches_cons.mp hreaches).2 pre c w post hps hw
      rw [hothers c hc]
      omega
  · rintro ⟨helsewhere, hspendable, hreaches⟩
    refine ⟨fun p hp hne => ?_, fun _ => ?_, reaches_cons.mpr ⟨fun _ => hmoved.alive, ?_⟩⟩
    · rcases List.mem_cons.mp hp with rfl | hp
      · exact Ne.symm hab
      · exact helsewhere p hp hne
    · rw [List.map_cons, List.sum_cons]
      by_cases hsum : (ps.map Prod.snd).sum = 0
      · rw [hsum, Nat.add_zero]
        exact hs
      · exact (hleft _).mp (hspendable hsum)
    · intro pre c w post hps hw
      have hc : c ≠ a := helsewhere (c, w) (by rw [hps]; simp) hw
      have hreach := hreaches pre c w post hps hw
      rw [hothers c hc] at hreach
      omega

/-- **When nothing that was to be paid stays behind**: the account is left with `m` exactly if all
the payments could be made. -/
theorem payOut_free_iff [LockableCurrency AccountId L] [SpendableTransfers AccountId L]
    (hm : existentialDeposit L ≤ m) (h : freeBalance l a = m + (ps.map Prod.snd).sum) :
    freeBalance (payOut l a ps) a = m ↔ Payable l a ps := by
  induction ps generalizing l with
  | nil =>
    refine iff_of_true ?_ ⟨fun p hp => absurd hp (List.not_mem_nil), fun hne => absurd rfl hne,
      reaches_nil⟩
    change freeBalance l a = m
    simpa using h
  | cons p ps ih =>
    obtain ⟨b, v⟩ := p
    rw [List.map_cons, List.sum_cons] at h
    dsimp only at h
    change freeBalance (payOut (payTo a l (b, v)) a ps) a = m ↔ _
    -- what is not paid here is still there in the end
    have hstays : v ≠ 0 → payTo a l (b, v) = l →
        freeBalance (payOut (payTo a l (b, v)) a ps) a ≠ m := by
      intro hv hsame
      rw [hsame]
      have hdisbursed : Disbursed l (payOut l a ps) a (m + v) :=
        payOut_disbursed (by omega) (by omega)
      have hkept := hdisbursed.kept
      omega
    by_cases hv : v = 0
    · subst hv
      have hsame : payTo a l (b, 0) = l :=
        attempt_of_ok (transfer_noop l a b 0 .allowDeath (Or.inl rfl))
      rw [hsame, payable_cons_zero]
      exact ih (by omega)
    by_cases hab : a = b
    · have hsame : payTo a l (b, v) = l :=
        attempt_of_ok (transfer_noop l a b v .allowDeath (Or.inr hab))
      refine iff_of_false (hstays hv hsame) fun hpayable => ?_
      exact hpayable.elsewhere (b, v) List.mem_cons_self hv hab.symm
    have hiff := SpendableTransfers.transfer_isOk_iff l a b v .allowDeath hv hab (by omega)
    cases ht : transfer l a b v .allowDeath with
    | error e =>
      refine iff_of_false (hstays hv (attempt_of_error ht)) fun hpayable => ?_
      obtain ⟨l', hl'⟩ := hiff.mpr ⟨(hpayable.spendable (by
        rw [List.map_cons, List.sum_cons]
        dsimp only
        omega)).of_le (by simp), (reaches_cons.mp hpayable.reaches).1 hv⟩
      rw [ht] at hl'
      cases hl'
    | ok l' =>
      have hmoved := transfer_ok l a b v .allowDeath l' hv hab ht
      have hsource := hmoved.source
      rw [remainder_of_le (by omega)] at hsource
      rw [show payTo a l (b, v) = l' from attempt_of_ok ht,
        payable_cons hv hab ht (by omega) (hiff.mp ⟨l', ht⟩).1]
      exact ih (by omega)

/-- **What the payments come to** for the other accounts when all of them are made. -/
theorem payOut_received [LockableCurrency AccountId L] [SpendableTransfers AccountId L]
    (hm : existentialDeposit L ≤ m) (h : freeBalance l a = m + (ps.map Prod.snd).sum)
    (hp : Payable l a ps) (hc : c ≠ a) :
    freeBalance (payOut l a ps) c = freeBalance l c + received c ps := by
  induction ps generalizing l with
  | nil => rfl
  | cons p ps ih =>
    obtain ⟨b, v⟩ := p
    rw [List.map_cons, List.sum_cons] at h
    dsimp only at h
    change freeBalance (payOut (payTo a l (b, v)) a ps) c = _
    by_cases hv : v = 0
    · subst hv
      have hsame : payTo a l (b, 0) = l :=
        attempt_of_ok (transfer_noop l a b 0 .allowDeath (Or.inl rfl))
      rw [hsame, ih (by omega) (payable_cons_zero.mp hp), received_cons, ite_self, Nat.zero_add]
    have hab : a ≠ b := (hp.elsewhere (b, v) List.mem_cons_self hv).symm
    have hspendable : Spendable l a v := (hp.spendable (by
      rw [List.map_cons, List.sum_cons]
      dsimp only
      omega)).of_le (by simp)
    obtain ⟨l', ht⟩ := (SpendableTransfers.transfer_isOk_iff l a b v .allowDeath hv hab
      (by omega)).mpr ⟨hspendable, (reaches_cons.mp hp.reaches).1 hv⟩
    have hmoved := transfer_ok l a b v .allowDeath l' hv hab ht
    have hsource := hmoved.source
    rw [remainder_of_le (by omega)] at hsource
    have hfree : freeBalance l' c = freeBalance l c + if c = b then v else 0 := by
      by_cases hcb : c = b
      · rw [if_pos hcb, hcb, hmoved.dest]
      · rw [if_neg hcb, Nat.add_zero, hmoved.others c hc hcb]
    rw [show payTo a l (b, v) = l' from attempt_of_ok ht, ih (by omega)
      ((payable_cons hv hab ht (by omega) hspendable).mp hp), received_cons, hfree, Nat.add_assoc]

end Refusals

end Currency

/-! ### The ledgers of balances -/

namespace Balances

variable {AccountId : Type} [DecidableEq AccountId] {ed : ℕ} {s : Balances AccountId ed}
  {a b : AccountId} {v : ℕ}

/-- What is frozen counts the locks as far as they are not covered by what is reserved. -/
theorem spendable_iff :
    Spendable s a v ↔ v + (s.frozen a - (s.account a).reserved) ≤ (s.account a).free := by
  have hle : v ≤ (s.account a).free → (Spendable s a v ↔
      v + (s.frozen a - (s.account a).reserved) ≤ (s.account a).free) := by
    intro hv
    have hfrozen : s.frozen a ≤ (s.account a).free - v + (s.account a).reserved ↔
        ∀ id, lockAmount s id a ≤ (s.account a).free - v + (s.account a).reserved := frozen_le_iff
    constructor
    · intro h
      have hall := hfrozen.mpr fun id => by
        have hid : v + (lockAmount s id a - (s.account a).reserved) ≤ (s.account a).free := h id
        omega
      omega
    · intro h id
      have hid := hfrozen.mp (by omega) id
      change v + (lockAmount s id a - (s.account a).reserved) ≤ (s.account a).free
      omega
  constructor
  · exact fun h => (hle h.le_freeBalance).mp h
  · exact fun h => (hle ((Nat.le_add_right v _).trans h)).mpr h

instance : SpendableTransfers AccountId (Balances AccountId ed) where
  transfer_isOk_iff s a b v er hv hab hfunds := by
    rw [spendable_iff]
    change v + ed ≤ (s.account a).free at hfunds
    change (∃ s', s.transfer a b v er = .ok s') ↔
      v + (s.frozen a - (s.account a).reserved) ≤ (s.account a).free ∧
        ed ≤ (s.account b).free + v
    unfold transfer
    rw [if_neg (not_or.mpr ⟨hv, hab⟩), if_neg (by omega)]
    by_cases hfrozen : (s.account a).free < v + (s.frozen a - (s.account a).reserved)
    · rw [if_pos hfrozen]
      refine iff_of_false ?_ fun h => by omega
      rintro ⟨s', h⟩
      cases h
    -- the account stays alive, so the next refusals do not apply
    rw [if_neg hfrozen, if_neg (by omega), if_neg (by omega)]
    by_cases hdest : (s.account b).free + v < ed
    · rw [if_pos hdest]
      refine iff_of_false ?_ fun h => by omega
      rintro ⟨s', h⟩
      cases h
    · rw [if_neg hdest]
      refine iff_of_true ?_ ⟨by omega, by omega⟩
      obtain ⟨s', hs'⟩ := writes_isSome hab (by omega) (Nat.not_lt.mp hdest)
      exact ⟨s', by rw [hs']; rfl⟩

end Balances

instance {AccountId : Type} [DecidableEq AccountId] {ed : ℕ} :
    SpendableTransfers AccountId (ProvidedBalances AccountId ed) where
  transfer_isOk_iff s a b v er hv hab hfunds := by
    refine Iff.trans ?_
      (SpendableTransfers.transfer_isOk_iff s.toBalances a b v er hv hab hfunds)
    constructor
    · rintro ⟨s', hs'⟩
      exact ⟨s'.toBalances, ProvidedBalances.keep_eq_ok hs'⟩
    · rintro ⟨t, ht⟩
      exact ⟨⟨t, s.provided.transfer ht⟩, ProvidedBalances.keep_ok ht⟩
