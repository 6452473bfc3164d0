import Altan.Identity.Spec

/-!
# Marriages

Two active citizens, neither of whom is married, are married when one of them registers it, and the
fee is taken from both. Either of them may divorce, whatever has become of the other. Nothing else
writes the marriages.

## Main definitions

* `Matching`: the marriages pair accounts up
* `Wedding`, `Divorce`: what the two calls go through and do
* `CivilAct`: what any input does to the marriages

## Main results

* `step_civilAct`: every accepted input is a wedding, a divorce, or leaves the marriages alone
* `marriages_matching`: in every run the marriages are a matching, kept by weddings and divorces
-/

open Bounded Dispatch Ledger TransitionSystem Runtime

namespace Identity

variable {AccountId L : Type} [DecidableEq AccountId]

/-! ### Matchings -/

/-- The marriages pair accounts up: each is married to the one who is married to it, and not to
itself. -/
structure Matching (m : StorageMap AccountId AccountId) : Prop where
  symmetric : ∀ a b, m.get a = some b ↔ m.get b = some a
  irrefl : ∀ a, m.get a ≠ some a

namespace Matching

variable {m : StorageMap AccountId AccountId} {a b c : AccountId}

protected theorem empty : Matching (∅ : StorageMap AccountId AccountId) where
  symmetric a b := by simp
  irrefl a := by simp

theorem symm (h : Matching m) (hab : m.get a = some b) : m.get b = some a :=
  (h.symmetric a b).mp hab

/-- Of a couple, neither is married to anybody else. -/
theorem get_of_spouse (h : Matching m) (hab : m.get a = some b) (hcb : m.get c = some b) :
    c = a := Option.some.inj ((h.symm hcb).symm.trans (h.symm hab))

theorem of_symm (hsymm : ∀ a b, m.get a = some b → m.get b = some a)
    (hirrefl : ∀ a, m.get a ≠ some a) : Matching m :=
  ⟨fun a b => ⟨hsymm a b, hsymm b a⟩, hirrefl⟩

/-- Two accounts without an entry become a couple. -/
theorem wed (h : Matching m) (hab : a ≠ b) (ha : m.get a = none) (hb : m.get b = none) :
    Matching ((m.insert a b).insert b a) := by
  -- an entry is one of the couple's, or one between two others
  -- an entry is one of the couple, or an old one at neither end of which the couple is
  have hcases : ∀ {c d}, ((m.insert a b).insert b a).get c = some d →
      c = b ∧ d = a ∨ c = a ∧ d = b ∨ c ≠ b ∧ c ≠ a ∧ d ≠ b ∧ d ≠ a ∧ m.get c = some d := by
    intro c d hcd
    rcases StorageMap.get_insert_cases hcd with ⟨rfl, rfl⟩ | ⟨hcb, hcd⟩
    · exact Or.inl ⟨rfl, rfl⟩
    rcases StorageMap.get_insert_cases hcd with ⟨rfl, rfl⟩ | ⟨hca, hget⟩
    · exact Or.inr (Or.inl ⟨rfl, rfl⟩)
    have hback := h.symm hget
    refine Or.inr (Or.inr ⟨hcb, hca, ?_, ?_, hget⟩)
    · rintro rfl
      exact Option.some_ne_none c (hback.symm.trans hb)
    · rintro rfl
      exact Option.some_ne_none c (hback.symm.trans ha)
  apply of_symm
  · intro c d hcd
    rcases hcases hcd with ⟨rfl, rfl⟩ | ⟨rfl, rfl⟩ | ⟨-, -, hdb, hda, hcd⟩
    · rw [StorageMap.get_insert_of_ne hab, StorageMap.get_insert_self]
    · exact StorageMap.get_insert_self
    · rw [StorageMap.get_insert_of_ne hdb, StorageMap.get_insert_of_ne hda]
      exact h.symm hcd
  · intro c hcc
    rcases hcases hcc with ⟨rfl, rfl⟩ | ⟨rfl, rfl⟩ | ⟨-, -, -, -, hcc⟩
    · exact hab rfl
    · exact hab rfl
    · exact h.irrefl c hcc

/-- A couple is separated. -/
theorem divorce (h : Matching m) (hab : m.get a = some b) :
    Matching ((m.remove a).remove b) := by
  have hold : ∀ {c d}, ((m.remove a).remove b).get c = some d →
      c ≠ b ∧ c ≠ a ∧ m.get c = some d := by
    intro c d hcd
    rw [StorageMap.get_remove, StorageMap.get_remove] at hcd
    split_ifs at hcd with hcb hca
    exact ⟨hcb, hca, hcd⟩
  apply of_symm
  · intro c d hcd
    obtain ⟨hcb, hca, hget⟩ := hold hcd
    -- the other end of an entry that is left is not one of the couple
    have hback := h.symm hget
    have hda : d ≠ a := by
      rintro rfl
      exact hcb (Option.some.inj (hback.symm.trans hab))
    have hdb : d ≠ b := by
      rintro rfl
      exact hca (h.get_of_spouse hab hget)
    rw [StorageMap.get_remove_of_ne hdb, StorageMap.get_remove_of_ne hda]
    exact hback
  · intro c hcc
    exact h.irrefl c (hold hcc).2.2

end Matching

/-! ### Weddings and divorces -/

/-- What a divorce goes through and does. -/
structure Divorce (s s' : State AccountId L) (a b : AccountId) : Prop where
  married : s.marriages.get a = some b
  marriages : s'.marriages = (s.marriages.remove a).remove b
  ledger : s'.ledger = s.ledger

section Acts

variable {cfg : Config AccountId L} {ctx : Context AccountId} {s s' : State AccountId L}

theorem registerDivorce_divorce (h : registerDivorce ctx s = .ok s') :
    ∃ caller spouse, ctx.origin = .signed caller ∧ Divorce s s' caller spouse := by
  simp only [registerDivorce, ensureSigned_bind_eq_ok, required_bind_eq_ok, ensure_bind_eq_ok,
    pure_eq_ok] at h
  obtain ⟨caller, horigin, spouse, hmarried, -, rfl⟩ := h
  exact ⟨caller, spouse, horigin, hmarried, rfl, rfl⟩

/-- A married citizen may divorce. -/
theorem registerDivorce_isOk {a b : AccountId} (now : ℕ) (hmarried : s.marriages.get a = some b)
    (hregistered : s.citizens.containsKey a = true) :
    ∃ s', registerDivorce ⟨.signed a, now⟩ s = .ok s' := by
  refine ⟨{ s with marriages := (s.marriages.remove a).remove b }, ?_⟩
  simp only [registerDivorce, ensureSigned_bind_eq_ok, required_bind_eq_ok, ensure_bind_eq_ok,
    pure_eq_ok]
  exact ⟨a, rfl, b, hmarried, hregistered, rfl⟩

theorem ensureBirthOrigin_marriages :
    Yields (fun s' => s'.marriages = s.marriages) (ensureBirthOrigin cfg ctx s) := by
  unfold ensureBirthOrigin checkAndIncrementOracleRate
  split
  · exact .pure rfl
  · refine .bind fun _ _ => .bind fun _ _ => ?_
    dsimp only
    split
    · exact .bind fun _ _ => .pure rfl
    · exact .pure rfl

section Bridge

variable {who : AccountId}

theorem doFreezeCitizen_marriages :
    Yields (fun s' => s'.marriages = s.marriages) (doFreezeCitizen who s) :=
  .bind fun _ _ => .pure rfl

theorem doUnfreezeCitizen_marriages :
    Yields (fun s' => s'.marriages = s.marriages) (doUnfreezeCitizen who s) :=
  .bind fun _ _ => .bind fun _ _ => .pure rfl

theorem doDemoteToRegular_marriages :
    Yields (fun s' => s'.marriages = s.marriages) (doDemoteToRegular who s) :=
  .bind fun _ _ => .pure rfl

theorem doExile_marriages :
    Yields (fun s' => s'.marriages = s.marriages) (doExile cfg who s) :=
  .bind fun _ _ => .bind fun _ _ => .pure rfl

end Bridge

variable [Currency AccountId L]

/-- Two accounts pay an amount each to a third. -/
structure BothPaid (l l' : L) (a b dest : AccountId) (v : ℕ) : Prop where
  free : ∀ c, freeBalance l' c + (if c = a then v else 0) + (if c = b then v else 0) =
    freeBalance l c + if c = dest then 2 * v else 0
  reserved : ∀ c, reservedBalance l' c = reservedBalance l c
  issuance : totalIssuance l' = totalIssuance l

/-- Two transfers to one account, one after the other. -/
theorem bothPaid_of_transfers {l l₁ l' : L} {a b dest : AccountId} {v : ℕ}
    (ha : Currency.transfer l a dest v .keepAlive = .ok l₁)
    (hb : Currency.transfer l₁ b dest v .keepAlive = .ok l') : BothPaid l l' a b dest v where
  free c := by
    have hfirst := Currency.transfer_keepAlive_free ha c
    have hsecond := Currency.transfer_keepAlive_free hb c
    -- the third may be one of the two
    split_ifs at hfirst hsecond ⊢ <;> omega
  reserved c := (Currency.transfer_reserved hb c).trans (Currency.transfer_reserved ha c)
  issuance := (Currency.transfer_keepAlive_issuance hb).trans
    (Currency.transfer_keepAlive_issuance ha)

/-- Nobody else pays. -/
theorem BothPaid.free_le {l l' : L} {a b dest c : AccountId} {v : ℕ}
    (h : BothPaid l l' a b dest v) (ha : c ≠ a) (hb : c ≠ b) :
    freeBalance l c ≤ freeBalance l' c := by
  have hfree := h.free c
  rw [if_neg ha, if_neg hb] at hfree
  omega

/-- What registering a marriage goes through and does. -/
structure Wedding (cfg : Config AccountId L) (s s' : State AccountId L) (a b : AccountId) :
    Prop where
  distinct : a ≠ b
  active : ∀ c, c = a ∨ c = b → (s.citizens.get c).map CitizenRecord.status = some .active
  unmarriedA : s.marriages.get a = none
  unmarriedB : s.marriages.get b = none
  marriages : s'.marriages = (s.marriages.insert a b).insert b a
  paid : BothPaid s.ledger s'.ledger a b cfg.civilFeeTreasury cfg.marriageFee

theorem registerMarriage_wedding {partnerB : AccountId}
    (h : registerMarriage cfg ctx partnerB s = .ok s') :
    ∃ partnerA, ctx.origin = .signed partnerA ∧ Wedding cfg s s' partnerA partnerB := by
  simp only [registerMarriage, ensureSigned_bind_eq_ok, citizen_bind_eq_ok, ensure_bind_eq_ok,
    required_bind_eq_ok, liftCurrency_bind_eq_ok, pure_eq_ok] at h
  obtain ⟨partnerA, horigin, hne, recA, hrecA, hactiveA, recB, hrecB, hactiveB, hsingleA, hsingleB,
    l, hpaidA, l', hpaidB, rfl⟩ := h
  refine ⟨partnerA, horigin, hne, ?_, StorageMap.not_containsKey.mp hsingleA,
    StorageMap.not_containsKey.mp hsingleB, rfl, bothPaid_of_transfers hpaidA hpaidB⟩
  rintro c (rfl | rfl)
  · rw [hrecA, Option.map_some, hactiveA]
  · rw [hrecB, Option.map_some, hactiveB]

variable [ReservableCurrency AccountId L]

/-- **No other call writes the marriages.** -/
theorem dispatch_marriages {c : Call AccountId} (hmarriage : ∀ b, c ≠ .registerMarriage b)
    (hdivorce : c ≠ .registerDivorce) :
    Yields (fun s' => s'.marriages = s.marriages) (dispatch cfg ctx c s) := by
  cases c with
  | registerMarriage b => exact absurd rfl (hmarriage b)
  | registerDivorce => exact absurd rfl hdivorce
  | registerBirth child parent1 parent2 childHash birthRegionId =>
    refine Yields.bind fun t ht => ?_
    have hbirth := ensureBirthOrigin_marriages t ht
    refine .bind fun _ _ => .bind fun _ _ => .bind fun _ _ => .bind fun _ _ => .bind fun _ _ => ?_
    exact .pure hbirth
  | _ =>
    -- checks, and then other records are written
    repeat refine Yields.bind fun _ _ => ?_
    exact .pure rfl

end Acts

/-! ### Couples of registered citizens -/

section Couples

variable {w w' : World AccountId L}

/-- The marriages are a matching of registered citizens. -/
structure Wed (w : World AccountId L) : Prop where
  matching : Matching w.marriages
  registered : ∀ a b, w.marriages.get a = some b → w.citizens.containsKey a = true

theorem wed_genesis (ledger : L) (now : ℕ) :
    Wed (World.genesis ledger now : World AccountId L) where
  matching := .empty
  registered a b h := by simp [World.genesis, genesis] at h

theorem Wed.of_divorce (hw : Wed w) {a b : AccountId}
    (hregistered : ∀ c, w.citizens.containsKey c = true → w'.citizens.containsKey c = true)
    (h : Divorce w.toState w'.toState a b) : Wed w' where
  matching := by
    rw [h.marriages]
    exact hw.matching.divorce h.married
  registered c d hcd := by
    rw [h.marriages, StorageMap.get_remove, StorageMap.get_remove] at hcd
    split_ifs at hcd
    exact hregistered c (hw.registered c d hcd)

theorem Wed.of_wedding [Currency AccountId L] {cfg : Config AccountId L} (hw : Wed w)
    {a b : AccountId}
    (hregistered : ∀ c, w.citizens.containsKey c = true → w'.citizens.containsKey c = true)
    (h : Wedding cfg w.toState w'.toState a b) : Wed w' where
  matching := by
    rw [h.marriages]
    exact hw.matching.wed h.distinct h.unmarriedA h.unmarriedB
  registered c d hcd := by
    have hactive : ∀ {c}, c = a ∨ c = b → w.citizens.containsKey c = true := by
      intro c hc
      obtain ⟨r, hr, -⟩ := Option.map_eq_some_iff.mp (h.active c hc)
      exact StorageMap.containsKey_iff.mpr ⟨r, hr⟩
    rw [h.marriages] at hcd
    apply hregistered
    rcases StorageMap.get_insert_cases hcd with ⟨rfl, -⟩ | ⟨-, hcd⟩
    · exact hactive (Or.inr rfl)
    rcases StorageMap.get_insert_cases hcd with ⟨rfl, -⟩ | ⟨-, hcd⟩
    · exact hactive (Or.inl rfl)
    · exact hw.registered c d hcd

end Couples

/-! ### Runs -/

section Runs

variable [Currency AccountId L] [ReservableCurrency AccountId L] {cfg : Config AccountId L}
  {w w' : World AccountId L} {x : Input AccountId}

/-- What an accepted input does to the marriages. -/
def CivilAct (cfg : Config AccountId L) (w : World AccountId L) (x : Input AccountId)
    (w' : World AccountId L) : Prop :=
  match x with
  | .call (.signed a) (.registerMarriage b) => Wedding cfg w.toState w'.toState a b
  | .call (.signed a) .registerDivorce => ∃ b, Divorce w.toState w'.toState a b
  | _ => w'.marriages = w.marriages

/-- **Every accepted input is a wedding, a divorce, or leaves the marriages alone.** -/
theorem step_civilAct (h : step cfg x w = .ok w') : CivilAct cfg w x w' := by
  cases x with
  | block =>
    rw [← Except.ok.inj h]
    rfl
  | call origin c =>
    simp only [step, bind_eq_ok, pure_eq_ok] at h
    obtain ⟨s, hs, rfl⟩ := h
    -- the couple is whoever signs, and whom that account names or is married to
    by_cases hmarriage : ∃ b, c = .registerMarriage b
    · obtain ⟨b, rfl⟩ := hmarriage
      obtain ⟨a, horigin, hwedding⟩ := registerMarriage_wedding hs
      cases horigin
      exact hwedding
    by_cases hdivorce : c = .registerDivorce
    · subst hdivorce
      obtain ⟨a, b, horigin, hdivorced⟩ := registerDivorce_divorce hs
      cases horigin
      exact ⟨b, hdivorced⟩
    -- the two calls apart, the marriages are kept, whoever makes the call
    have hkept := dispatch_marriages (not_exists.mp hmarriage) hdivorce s hs
    unfold CivilAct
    split
    · next heq => exact absurd ⟨_, (Input.call.inj heq).2⟩ hmarriage
    · next heq => exact absurd (Input.call.inj heq).2 hdivorce
    · exact hkept
  | doFreezeCitizen who =>
    simp only [step, bind_eq_ok, pure_eq_ok] at h
    obtain ⟨s, hs, rfl⟩ := h
    exact doFreezeCitizen_marriages s hs
  | doUnfreezeCitizen who =>
    simp only [step, bind_eq_ok, pure_eq_ok] at h
    obtain ⟨s, hs, rfl⟩ := h
    exact doUnfreezeCitizen_marriages s hs
  | doDemoteToRegular who =>
    simp only [step, bind_eq_ok, pure_eq_ok] at h
    obtain ⟨s, hs, rfl⟩ := h
    exact doDemoteToRegular_marriages s hs
  | doExile who =>
    simp only [step, bind_eq_ok, pure_eq_ok] at h
    obtain ⟨s, hs, rfl⟩ := h
    exact doExile_marriages s hs

/-- **Step lemma.** -/
theorem Wed.step (hw : Wed w) (h : step cfg x w = .ok w') : Wed w' := by
  have hregistered : ∀ c, w.citizens.containsKey c = true → w'.citizens.containsKey c = true :=
    fun c hc => (step_effect h).containsKey hc
  have hact := step_civilAct h
  unfold CivilAct at hact
  split at hact
  · exact hw.of_wedding hregistered hact
  · obtain ⟨b, hdivorced⟩ := hact
    exact hw.of_divorce hregistered hdivorced
  · -- no citizen is deleted
    constructor
    · rw [hact]
      exact hw.matching
    · intro a b hab
      rw [hact] at hab
      exact hregistered a (hw.registered a b hab)

/-- Whoever is married may divorce. -/
def MayDivorce (cfg : Config AccountId L) (w : World AccountId L) : Prop :=
  ∀ a b, w.marriages.get a = some b →
    ∃ w', step cfg (.call (.signed a) .registerDivorce) w = .ok w'

theorem Wed.mayDivorce (hw : Wed w) : MayDivorce cfg w := by
  intro a b hab
  obtain ⟨s, hs⟩ := registerDivorce_isOk w.now hab (hw.registered a b hab)
  exact ⟨{ w with toState := s }, step_call hs⟩

/-- In every run the marriages are a matching, in which either of a couple may divorce; a wedding
joins two unmarried citizens, who pay the fee each, a divorce separates one couple, nothing else
writes the marriages, and a call that fails changes nothing. -/
theorem marriages_matching (cfg : Config AccountId L) (ledger : L) (now : ℕ)
    (xs : List (Input AccountId)) :
    Throughout (step cfg) (fun w => Matching w.marriages ∧ MayDivorce cfg w) xs
        (World.genesis ledger now) ∧
      Along (step cfg) (fun w x => CivilAct cfg w x (exec (step cfg) x w)) xs
        (World.genesis ledger now) ∧
      ∀ w x e, step cfg x w = .error e → exec (step cfg) x w = w := by
  refine ⟨?_, ?_, fun w x e he => exec_error he⟩
  · have hwed : Throughout (step cfg) Wed xs (World.genesis ledger now) :=
      throughout_of_along (fun x w w' hw _ h => hw.step h) (wed_genesis ledger now)
        (along_true xs _)
    exact hwed.imp fun w hw => ⟨hw.matching, hw.mayDivorce⟩
  · refine along_of_step (fun x w w' h => ?_) xs _
    rw [exec_ok h]
    exact step_civilAct h

end Runs

end Identity
