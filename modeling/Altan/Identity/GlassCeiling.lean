import Altan.Foundation.Accounting
import Altan.Identity.Spec

/-!
# The glass ceiling

Only the legislative branch is to pass beyond the Tumeds. Who forms a Khural lists Tumeds, and each
of them is checked to be legislative and of one nation; that the caller leads one of them is not
looked up. Leaving appointments aside, the record of who leads a Tumed has its branch.

## Main definitions

* `Represents`: a delegate leads a legislative Tumed of the Khural he formed, which is of his nation
* `GlassCeiling`: every delegate does
* `ListsOwn`: the caller's own Tumed, of his nation, is among those listed

## Main results

* `glassCeiling_iff`: the ceiling holds in exactly the runs where every Khural is formed with the
  caller's own Tumed, and no unit of a delegate is written over
-/

open Bounded Dispatch Ledger TransitionSystem Runtime

namespace Identity

variable {AccountId L : Type}

/-- A delegate of a Khural or of a confederation. -/
def CitizenRole.isDelegate : CitizenRole → Bool
  | .khuralDelegate => true
  | .confederationDelegate => true
  | _ => false

/-- Nobody is given a rank, but at registration that of a regular citizen. -/
def Deed.Unappointed : Deed AccountId → Prop
  | .registration _ role _ _ => role = .regular
  | .appointment .. => False
  | _ => True

/-- The deed of forming a Tumed or a Khural. -/
def Deed.elevates : Deed AccountId → Bool
  | .tumed .. => true
  | .khural .. => true
  | _ => false

instance : (d : Deed AccountId) → Decidable d.Unappointed
  | .registration _ role _ _ => inferInstanceAs (Decidable (role = .regular))
  | .appointment .. => isFalse id
  | .birth .. | .verification .. | .arbad .. | .zun .. | .myangad .. | .tumed .. | .khural ..
  | .confederation .. | .leave .. | .other => isTrue trivial

variable [DecidableEq AccountId]

/-- A citizen of the legislative branch, who leads a legislative Tumed of the Khural he formed,
which is of his nation. -/
def Represents (c : Civics AccountId) (who : AccountId) (r : CitizenRecord) : Prop :=
  r.branch = some .legislative ∧ ∃ i k j t, c.khurals.Leads KhuralRecord.leader who i k ∧
    c.tumeds.Leads TumedRecord.leader who j t ∧ t.branch = .legislative ∧ j ∈ k.tumeds.val ∧
      r.nationId = k.nationId

/-- Every delegate has come up from a legislative Tumed of his Khural. -/
def GlassCeiling (c : Civics AccountId) : Prop :=
  ∀ who r, c.citizens.get who = some r → r.role.isDelegate = true → Represents c who r

/-- The record of who leads a Tumed has its branch. -/
def BranchKept (c : Civics AccountId) : Prop :=
  ∀ who r, c.citizens.get who = some r → r.role = .tumedLeader →
    ∀ j t, c.tumeds.Leads TumedRecord.leader who j t → r.branch = some t.branch

/-- No delegate's unit is under the next number. -/
def NotInOffice {U : Type} (citizens : StorageMap AccountId CitizenRecord)
    (r : Roster AccountId U) : Prop :=
  ∀ who rec, citizens.get who = some rec → rec.role.isDelegate = true →
    r.byLeader.get who ≠ some r.nextId

/-- The Tumed that the caller leads, of his nation, is among those listed. -/
def ListsOwn (c : Civics AccountId) (leader : AccountId) (tumeds : List ℕ) : Prop :=
  ∃ r j t, c.citizens.get leader = some r ∧ c.tumeds.Leads TumedRecord.leader leader j t ∧
    j ∈ tumeds ∧ t.nationId = r.nationId

/-- Who forms a Khural lists his own Tumed, and no unit of a delegate is written over. -/
def KeepsCeiling (c : Civics AccountId) : Deed AccountId → Prop
  | .tumed .. => NotInOffice c.citizens c.tumeds
  | .khural leader tumeds => ListsOwn c leader tumeds ∧ NotInOffice c.citizens c.khurals
  | _ => True

/-! ### Offices -/

/-- Neither a delegate nor the leader of a Tumed. -/
def CitizenRecord.IsLow (r : CitizenRecord) : Prop :=
  r.role.isDelegate = false ∧ r.role ≠ .tumedLeader

/-- Who is a delegate or leads a Tumed was so before, of the same branch and nation. -/
structure SameOffice (r r' : CitizenRecord) : Prop where
  delegate : r'.role.isDelegate = true → r.role.isDelegate = true
  tumedLeader : r'.role = .tumedLeader → r.role = .tumedLeader
  branch : r'.branch = r.branch
  nationId : r'.nationId = r.nationId

theorem SameOffice.low {r r' : CitizenRecord} (h : SameOffice r r') (hr : r.IsLow) : r'.IsLow := by
  refine ⟨?_, fun hrole => hr.2 (h.tumedLeader hrole)⟩
  rw [← Bool.not_eq_true]
  intro hrole
  have hdelegate := h.delegate hrole
  rw [hr.1] at hdelegate
  cases hdelegate

theorem SameOffice.trans {r r' r'' : CitizenRecord} (h : SameOffice r r') (h' : SameOffice r' r'') :
    SameOffice r r'' where
  delegate hrole := h.delegate (h'.delegate hrole)
  tumedLeader hrole := h.tumedLeader (h'.tumedLeader hrole)
  branch := h'.branch.trans h.branch
  nationId := h'.nationId.trans h.nationId

theorem SameOffice.of_role {r r' : CitizenRecord} (hrole : r'.role = r.role)
    (hbranch : r'.branch = r.branch) (hnation : r'.nationId = r.nationId) : SameOffice r r' where
  delegate h := hrole ▸ h
  tumedLeader h := hrole ▸ h
  branch := hbranch
  nationId := hnation

/-- Nobody comes into the offices of a delegate or of the leader of a Tumed. -/
def KeepsOffices (citizens citizens' : StorageMap AccountId CitizenRecord) : Prop :=
  ∀ who r', citizens'.get who = some r' →
    r'.IsLow ∨ ∃ r, citizens.get who = some r ∧ SameOffice r r'

theorem KeepsOffices.refl (citizens : StorageMap AccountId CitizenRecord) :
    KeepsOffices citizens citizens :=
  fun _ r' h => Or.inr ⟨r', h, .of_role rfl rfl rfl⟩

theorem KeepsOffices.trans {m m' m'' : StorageMap AccountId CitizenRecord}
    (h : KeepsOffices m m') (h' : KeepsOffices m' m'') : KeepsOffices m m'' := by
  intro who r'' hget''
  rcases h' who r'' hget'' with hlow | ⟨r', hget', hsame'⟩
  · exact Or.inl hlow
  · rcases h who r' hget' with hlow | ⟨r, hget, hsame⟩
    · exact Or.inl (hsame'.low hlow)
    · exact Or.inr ⟨r, hget, hsame.trans hsame'⟩

section Writes

variable {citizens : StorageMap AccountId CitizenRecord} {who : AccountId} {r r' : CitizenRecord}

theorem keepsOffices_insert (h : r'.IsLow ∨ ∃ r, citizens.get who = some r ∧ SameOffice r r') :
    KeepsOffices citizens (citizens.insert who r') := by
  intro a rec hget
  rcases StorageMap.get_insert_cases hget with ⟨rfl, rfl⟩ | ⟨-, hold⟩
  · exact h
  · exact KeepsOffices.refl citizens a rec hold

theorem keepsOffices_modify {f : CitizenRecord → CitizenRecord}
    (hf : ∀ r, (f r).IsLow ∨ SameOffice r (f r)) :
    KeepsOffices citizens (citizens.modify who f) := by
  cases hget : citizens.get who with
  | none =>
    rw [StorageMap.modify_of_none hget]
    exact KeepsOffices.refl citizens
  | some r =>
    rw [StorageMap.modify_of_get hget]
    exact keepsOffices_insert ((hf r).imp_right fun hsame => ⟨r, hget, hsame⟩)

end Writes

theorem advanceVesting_sameOffice (level : VestingLevel) (r : CitizenRecord) :
    SameOffice r (r.advanceVesting level) := by
  unfold CitizenRecord.advanceVesting
  exact .of_role ((apply_ite CitizenRecord.role _ _ _).trans (ite_self _))
    ((apply_ite CitizenRecord.branch _ _ _).trans (ite_self _))
    ((apply_ite CitizenRecord.nationId _ _ _).trans (ite_self _))

/-- Forming an Arbad brings nobody beyond the Arbads. -/
theorem keepsOffices_enrol (now : ℕ) (leader : AccountId) (members : List AccountId)
    (citizens : StorageMap AccountId CitizenRecord) :
    KeepsOffices citizens (enrol now leader members citizens) := by
  unfold enrol
  have hlead : ∀ r : CitizenRecord,
      ((r.inOffice .arbadLeader now twoYearTerm).advanceVesting .arbadMember).IsLow :=
    fun r => (advanceVesting_sameOffice _ _).low ⟨rfl, by simp [CitizenRecord.inOffice]⟩
  apply (keepsOffices_modify fun r => Or.inl (hlead r)).trans
  generalize citizens.modify leader _ = led
  induction members generalizing led with
  | nil => exact KeepsOffices.refl led
  | cons m members ih =>
    exact (keepsOffices_modify fun r => Or.inr (advanceVesting_sameOffice _ r)).trans (ih _)

/-! ### What a deed does to the ceiling -/

variable {c c' : Civics AccountId} {period now : ℕ} {d : Deed AccountId}

theorem glassCeiling_genesis : GlassCeiling (Civics.genesis : Civics AccountId) := by
  intro who r hget
  simp [Civics.genesis] at hget

theorem branchKept_genesis : BranchKept (Civics.genesis : Civics AccountId) := by
  intro who r hget
  simp [Civics.genesis] at hget

/-- Where nobody comes into office, the ceiling is kept with the units. -/
theorem GlassCeiling.keep (hc : GlassCeiling c) (hoffices : KeepsOffices c.citizens c'.citizens)
    (htumeds : c'.tumeds = c.tumeds) (hkhurals : c'.khurals = c.khurals) : GlassCeiling c' := by
  intro who r' hget' hdelegate
  rcases hoffices who r' hget' with hlow | ⟨r, hget, hsame⟩
  · rw [hlow.1] at hdelegate
    cases hdelegate
  · obtain ⟨hbranch, i, k, j, t, hk, ht, hleg, hmem, hnation⟩ :=
      hc who r hget (hsame.delegate hdelegate)
    rw [← hkhurals] at hk
    rw [← htumeds] at ht
    exact ⟨hsame.branch.trans hbranch, i, k, j, t, hk, ht, hleg, hmem,
      hsame.nationId.trans hnation⟩

theorem BranchKept.keep (hb : BranchKept c) (hoffices : KeepsOffices c.citizens c'.citizens)
    (htumeds : c'.tumeds = c.tumeds) : BranchKept c' := by
  intro who r' hget' hrole j t ht
  rcases hoffices who r' hget' with hlow | ⟨r, hget, hsame⟩
  · exact absurd hrole hlow.2
  · rw [htumeds] at ht
    exact hsame.branch.trans (hb who r hget (hsame.tumedLeader hrole) j t ht)

/-- The deeds that bring nobody into office. -/
theorem Effect.keepsOffices (h : Effect period now d c c') (hd : d.Unappointed)
    (helevates : d.elevates = false) :
    KeepsOffices c.citizens c'.citizens ∧ c'.tumeds = c.tumeds ∧ c'.khurals = c.khurals := by
  cases h with
  | registration _ _ _ hr =>
    refine ⟨keepsOffices_insert (Or.inl ?_), rfl, rfl⟩
    rw [show _ = CitizenRole.regular from hd] at hr
    exact ⟨by rw [hr.role]; rfl, by rw [hr.role]; exact CitizenRole.noConfusion⟩
  | birth _ _ _ hr =>
    refine ⟨keepsOffices_insert (Or.inl ?_), rfl, rfl⟩
    exact ⟨by rw [hr.role]; rfl, by rw [hr.role]; exact CitizenRole.noConfusion⟩
  | verification hget =>
    exact ⟨keepsOffices_insert (Or.inr ⟨_, hget, .of_role rfl rfl rfl⟩), rfl, rfl⟩
  | appointment => exact hd.elim
  | arbad => exact ⟨keepsOffices_enrol _ _ _ _, rfl, rfl⟩
  | zun =>
    refine ⟨keepsOffices_modify fun r => Or.inl ?_, rfl, rfl⟩
    exact (advanceVesting_sameOffice _ _).low ⟨rfl, CitizenRole.noConfusion⟩
  | myangad =>
    exact ⟨keepsOffices_modify fun r => Or.inl ⟨rfl, CitizenRole.noConfusion⟩, rfl, rfl⟩
  | tumed | khural => cases helevates
  | confederation hget hrole =>
    refine ⟨keepsOffices_insert (Or.inr ⟨_, hget, ?_⟩), rfl, rfl⟩
    exact ⟨fun _ => by rw [hrole]; rfl, CitizenRole.noConfusion, rfl, rfl⟩
  | amended hget hsame hoffice =>
    refine ⟨keepsOffices_insert ?_, rfl, rfl⟩
    rcases hoffice with ⟨hrole, hbranch⟩ | hrole
    · exact Or.inr ⟨_, hget, .of_role hrole hbranch hsame.nationId⟩
    · exact Or.inl ⟨by rw [hrole]; rfl, by rw [hrole]; exact CitizenRole.noConfusion⟩
  | leave | kept => exact ⟨KeepsOffices.refl _, rfl, rfl⟩

theorem Effect.branchKept (h : Effect period now d c c') (hd : d.Unappointed) (hb : BranchKept c) :
    BranchKept c' := by
  cases d with
  | tumed leader others =>
    cases h with
    | @tumed _ _ _ t _ hget hleader =>
      subst hleader
      intro who r hwho hrole j t' ht'
      rw [StorageMap.get_modify] at hwho
      by_cases hne : t.leader = who
      -- the leader has the branch of the Tumed
      · subst hne
        rw [if_pos rfl, hget] at hwho
        obtain ⟨-, rfl⟩ := Roster.leads_form_self.mp ht'
        rw [← Option.some.inj hwho]
      · rw [if_neg (Ne.symm hne)] at hwho
        exact hb who r hwho hrole j t' ((Roster.leads_form_of_ne hne).mp ht').2
  | khural leader tumeds =>
    cases h with
    | khural hget =>
      intro who r hwho hrole j t ht
      rcases StorageMap.get_insert_cases hwho with ⟨-, rfl⟩ | ⟨-, hwho⟩
      · cases hrole
      · exact hb who r hwho hrole j t ht
  | _ =>
    obtain ⟨hoffices, htumeds, -⟩ := h.keepsOffices hd rfl
    exact hb.keep hoffices htumeds

/-- A new Tumed keeps the ceiling just if it is written over no delegate's. -/
theorem glassCeiling_tumed_iff {leader : AccountId} {others : List ℕ} (hc : GlassCeiling c)
    (h : Effect period now (.tumed leader others) c c') :
    GlassCeiling c' ↔ NotInOffice c.citizens c.tumeds := by
  cases h with
  | @tumed _ _ _ t r hget hleader _ hrole =>
    subst hleader
    constructor
    · intro h' who rec hwho hdelegate hnext
      have hne : t.leader ≠ who := by
        rintro rfl
        rw [hget] at hwho
        rw [← Option.some.inj hwho, hrole] at hdelegate
        cases hdelegate
      obtain ⟨-, i, k, j, t', -, ht', -⟩ := h' who rec
        ((StorageMap.get_modify.trans (if_neg (Ne.symm hne))).trans hwho) hdelegate
      obtain ⟨hj, hindex, -⟩ := (Roster.leads_form_of_ne hne).mp ht'
      rw [hnext] at hindex
      exact hj (Option.some.inj hindex).symm
    · intro hfree who rec hwho hdelegate
      rw [StorageMap.get_modify] at hwho
      by_cases hne : t.leader = who
      -- the leader is no delegate any more
      · subst hne
        rw [if_pos rfl, hget] at hwho
        rw [← Option.some.inj hwho] at hdelegate
        cases hdelegate
      · rw [if_neg (Ne.symm hne)] at hwho
        obtain ⟨hbranch, i, k, j, t', hk, ht', hrest⟩ := hc who rec hwho hdelegate
        refine ⟨hbranch, i, k, j, t', hk, (Roster.leads_form_of_ne hne).mpr ⟨?_, ht'⟩, hrest⟩
        rintro rfl
        exact hfree who rec hwho hdelegate ht'.1

/-- A new Khural keeps the ceiling just if the caller's own Tumed is listed, and it is written over
no delegate's. -/
theorem glassCeiling_khural_iff {leader : AccountId} {tumeds : List ℕ} (hb : BranchKept c)
    (hc : GlassCeiling c) (h : Effect period now (.khural leader tumeds) c c') :
    GlassCeiling c' ↔ ListsOwn c leader tumeds ∧ NotInOffice c.citizens c.khurals := by
  cases h with
  | @khural _ _ _ k r hget _ hleader htumeds _ hlegislative hrole =>
    subst hleader
    constructor
    · intro h'
      refine ⟨?_, ?_⟩
      · obtain ⟨-, i, k', j, t, hk, ht, -, hmem, hnation⟩ :=
          h' k.leader _ StorageMap.get_insert_self rfl
        obtain ⟨-, rfl⟩ := Roster.leads_form_self.mp hk
        rw [htumeds] at hmem
        obtain ⟨t', ht', -, htnation⟩ := hlegislative j hmem
        obtain rfl : t' = t := Option.some.inj (ht'.symm.trans ht.2.1)
        exact ⟨r, j, t', hget, ht, hmem, htnation.trans hnation.symm⟩
      · intro who rec hwho hdelegate hnext
        have hne : k.leader ≠ who := by
          rintro rfl
          rw [hget] at hwho
          rw [← Option.some.inj hwho, hrole] at hdelegate
          cases hdelegate
        obtain ⟨-, i, k', j, t, hk, -⟩ := h' who rec
          ((StorageMap.get_insert_of_ne (Ne.symm hne)).trans hwho) hdelegate
        obtain ⟨hi, hindex, -⟩ := (Roster.leads_form_of_ne hne).mp hk
        rw [hnext] at hindex
        exact hi (Option.some.inj hindex).symm
    · rintro ⟨⟨r', j, t, hget', ht, hmem, hnation⟩, hfree⟩ who rec hwho hdelegate
      obtain rfl : r = r' := Option.some.inj (hget.symm.trans hget')
      rcases StorageMap.get_insert_cases hwho with ⟨rfl, rfl⟩ | ⟨hne, hwho⟩
      -- the caller is of the branch of the Tumed, which is one of those listed
      · obtain ⟨t', ht', hleg, htnation⟩ := hlegislative j hmem
        obtain rfl : t' = t := Option.some.inj (ht'.symm.trans ht.2.1)
        refine ⟨(hb _ r hget hrole j t' ht).trans (congrArg some hleg), c.khurals.nextId, k, j, t',
          Roster.leads_form_self.mpr ⟨rfl, rfl⟩, ht, hleg, htumeds ▸ hmem, ?_⟩
        exact hnation.symm.trans htnation
      · obtain ⟨hbranch, i, k', j', t', hk, hrest⟩ := hc who rec hwho hdelegate
        refine ⟨hbranch, i, k', j', t', (Roster.leads_form_of_ne (Ne.symm hne)).mpr ⟨?_, hk⟩, hrest⟩
        rintro rfl
        exact hfree who rec hwho hdelegate hk.1

/-- **A deed other than an appointment keeps the ceiling just if a new Khural is formed with the
caller's own Tumed, and no unit of a delegate is written over.** -/
theorem glassCeiling_effect_iff (hd : d.Unappointed) (hb : BranchKept c) (hc : GlassCeiling c)
    (h : Effect period now d c c') : GlassCeiling c' ↔ KeepsCeiling c d := by
  cases d with
  | tumed => exact glassCeiling_tumed_iff hc h
  | khural => exact glassCeiling_khural_iff hb hc h
  | _ =>
    obtain ⟨hoffices, htumeds, hkhurals⟩ := h.keepsOffices hd rfl
    exact iff_of_true (hc.keep hoffices htumeds hkhurals) trivial

/-- **The glass ceiling.** Of the runs without appointments, in which everybody is registered as a
regular citizen, the ceiling holds in exactly those where every Khural is formed with the caller's
own Tumed, and no unit of a delegate is written over. -/
theorem glassCeiling_iff [Currency AccountId L] [ReservableCurrency AccountId L]
    {cfg : Config AccountId L} {ledger : L} {xs : List (Input AccountId)}
    (hrun : Along (step cfg) (fun _ x => x.deed.Unappointed) xs (World.genesis ledger now)) :
    Throughout (step cfg) (fun w => GlassCeiling w.civics) xs (World.genesis ledger now) ↔
      Along (step cfg) (fun w x => KeepsCeiling w.civics x.deed) xs (World.genesis ledger now) := by
  refine throughout_iff_along_within (J := fun w => BranchKept w.civics) ?_ ?_ ?_ ?_ hrun
  · exact fun _ _ _ hb hd h => (step_effect h).branchKept hd hb
  · exact fun _ _ _ hb hc hd h => glassCeiling_effect_iff hd hb hc (step_effect h)
  · exact branchKept_genesis
  · exact glassCeiling_genesis

/-- The ceiling does not hold of a delegate of the executive branch. -/
theorem not_glassCeiling {who : AccountId}
    (h : (c.citizens.get who).map (fun r => (r.role, r.branch)) =
      some (.khuralDelegate, some .executive)) : ¬ GlassCeiling c := by
  intro hc
  obtain ⟨r, hget, hr⟩ := Option.map_eq_some_iff.mp h
  obtain ⟨hrole, hbranch⟩ := Prod.mk.inj hr
  obtain ⟨hlegislative, -⟩ := hc who r hget (by rw [hrole]; rfl)
  rw [hbranch] at hlegislative
  cases hlegislative

/-- Nine units of the first ten, without a given one. -/
def nineOthers (i : ℕ) : List ℕ := ((List.range 10).erase i).take 9

/-- Twenty citizens rise to lead Myangads, ten of them legislative and ten executive, and one of each
ten forms a Tumed of them. The executive one forms a Khural of the legislative Tumed. -/
def upstart : List (Input ℕ) :=
  [decree (registration 5 (.ofByte 0))] ++
    (List.range 20).flatMap (fun i =>
      [decree (registration (10 + i) (.ofByte (.ofNat (i + 1)))),
        decree (.bootstrapVerifyCreator (10 + i)), signed (10 + i) (.formArbad [5])]) ++
    (List.range 20).map (fun i => signed (10 + i) (.formZun (nineOthers i))) ++
    (List.range 20).map (fun i => signed (10 + i)
      (.formMyangad (if i < 10 then .legislative else .executive) (nineOthers i))) ++
    [signed 10 (.formTumed (List.range' 1 9)), signed 20 (.formTumed (List.range' 11 9)),
      signed 20 (.formKhural [0])]

/-- The citizens rise as above, until one of them may form a Tumed. -/
def rise : List (Input ℕ) := upstart.take 101

/-- The legislative citizen among them forms the Tumed, and a Khural of it. -/
def delegation : List (Input ℕ) :=
  [signed 10 (.formTumed (List.range' 1 9)), signed 10 (.formKhural [0])]

/-- A deed that makes nobody a leader of a Tumed or a delegate needs no condition. -/
theorem KeepsCeiling.of_elevates (hd : d.elevates = false) : KeepsCeiling c d := by
  cases d with
  | tumed | khural => cases hd
  | _ => trivial

/-- Where nobody leads a unit of the tier, none of a delegate is written over. -/
theorem notInOffice_of_empty {U : Type} {citizens : StorageMap AccountId CitizenRecord}
    {r : Roster AccountId U} (h : r.byLeader = ∅) : NotInOffice citizens r := by
  intro who rec _ _ hindex
  rw [h] at hindex
  cases hindex

/-- The legislative citizen comes to lead the Tumed, forms a Khural of it and is a delegate. -/
theorem glassCeiling_delegate :
    (Throughout (step citizens) (fun w => GlassCeiling w.civics) (rise ++ delegation) noCitizens) ∧
      ((run (step citizens) (rise ++ delegation) noCitizens).civics.citizens.get 10).map
        (fun r => (r.role, r.branch)) = some (.khuralDelegate, some .legislative) := by
  have hunappointed : ∀ x ∈ rise ++ delegation, x.deed.Unappointed := by decide +kernel
  have hrise : ∀ x ∈ rise, x.deed.elevates = false := by decide +kernel
  have halong : Along (step citizens) (fun w x => KeepsCeiling w.civics x.deed) rise noCitizens :=
    (along_of_mem hrise).imp fun _ _ => KeepsCeiling.of_elevates
  refine ⟨(glassCeiling_iff (along_of_mem hunappointed)).mpr (along_append.mpr
    ⟨halong, fun _ _ => ?_, fun _ _ => ?_, trivial⟩), by decide +kernel⟩
  · exact notInOffice_of_empty (by decide +kernel)
  -- the Tumed is led by the caller, who is of its nation, and there is no Khural yet
  · set c := State.civics _
    obtain ⟨hindex, htumed, hnation, hempty⟩ : c.tumeds.byLeader.get 10 = some 0 ∧
        (c.tumeds.units.get 0).map (fun t => (t.leader, t.nationId)) = some (10, 1) ∧
        (c.citizens.get 10).map CitizenRecord.nationId = some 1 ∧ c.khurals.byLeader = ∅ := by
      decide +kernel
    obtain ⟨t, ht, hleads⟩ := Option.map_eq_some_iff.mp htumed
    obtain ⟨r, hr, hnation⟩ := Option.map_eq_some_iff.mp hnation
    obtain ⟨hleader, hnation'⟩ := Prod.mk.inj hleads
    exact ⟨⟨r, 0, t, hr, ⟨hindex, ht, hleader⟩, List.mem_singleton_self 0,
      hnation'.trans hnation.symm⟩, notInOffice_of_empty hempty⟩

/-- The delegate of the Khural is of the executive branch. -/
theorem ceiling_broken :
    Along (step citizens) (fun _ x => x.deed.Unappointed) upstart noCitizens ∧
      ¬ Throughout (step citizens) (fun w => GlassCeiling w.civics) upstart noCitizens := by
  -- whether an appointment is asked for does not depend on the state
  have hunappointed : ∀ x ∈ upstart, x.deed.Unappointed := by decide +kernel
  refine ⟨along_of_mem hunappointed, fun h => ?_⟩
  have hupstart : ((run (step citizens) upstart noCitizens).civics.citizens.get 20).map
      (fun r => (r.role, r.branch)) = some (.khuralDelegate, some .executive) := by
    decide +kernel
  exact not_glassCeiling hupstart h.last

end Identity
