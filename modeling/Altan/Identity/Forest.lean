import Altan.Foundation.Accounting
import Altan.Identity.Spec

/-!
# The tiers as a forest

A citizen is to be in one Arbad, an Arbad in one Zun, and so on up to the Khurals; then a Khural of
legislative Tumeds rests on a thousand Arbads for each of them. Each unit is checked to list
different parts. Whether a part is in another unit is not looked up.

## Main definitions

* `Built`: every unit lists as many different parts as it should, all of which are formed
* `arbadsUnder`: the Arbads a Khural rests on
* `IsForest`: no citizen is in two Arbads, and no unit is part of two
* `Unshared`: the parts of a new unit are in no other

## Main results

* `isForest_iff`: the tiers are a forest in exactly the runs where the parts of every new unit are
  in no other
-/

open Bounded Dispatch Ledger TransitionSystem Runtime

namespace Identity

variable {AccountId L : Type}

/-- The leader and the members of an Arbad. -/
def ArbadRecord.people (a : ArbadRecord AccountId) : List AccountId := a.leader :: a.members.val

/-- A tier is made of tens of different units of the tier below, all of which are formed. -/
def MadeOfTens {U V : Type} (parts : U → List ℕ) (units : StorageMap ℕ U)
    (below : StorageMap ℕ V) : Prop :=
  ∀ i u, units.get i = some u → (parts u).Nodup ∧ (parts u).length = 10 ∧
    ∀ id ∈ parts u, ∃ v, below.get id = some v

/-- Every unit lists as many different parts as it should, all of which are formed. -/
structure Built (c : Civics AccountId) : Prop where
  zuns : MadeOfTens (fun z => z.arbads.val) c.zuns.units c.arbads.units
  myangads : MadeOfTens (fun m => m.zuns.val) c.myangads.units c.zuns.units
  tumeds : MadeOfTens (fun t => t.myangads.val) c.tumeds.units c.myangads.units
  khurals : ∀ i k, c.khurals.units.get i = some k → k.tumeds.val.Nodup ∧
    ∀ id ∈ k.tumeds.val, ∃ t, c.tumeds.units.get id = some t

section Tens

variable {U V : Type} {parts : U → List ℕ} {units : StorageMap ℕ U} {below : StorageMap ℕ V}

/-- A tier stays made of tens while the tier below is added to or changed. -/
theorem MadeOfTens.insert_below (h : MadeOfTens parts units below) (n : ℕ) (v : V) :
    MadeOfTens parts units (below.insert n v) := by
  intro i u hu
  obtain ⟨hnodup, hlength, hformed⟩ := h i u hu
  refine ⟨hnodup, hlength, fun id hid => ?_⟩
  rw [StorageMap.get_insert]
  split
  · exact ⟨v, rfl⟩
  · exact hformed id hid

theorem MadeOfTens.insert (h : MadeOfTens parts units below) {n : ℕ} {u : U}
    (hnodup : (parts u).Nodup) (hlength : (parts u).length = 10)
    (hformed : ∀ id ∈ parts u, ∃ v, below.get id = some v) :
    MadeOfTens parts (units.insert n u) below := by
  intro i w hw
  rcases StorageMap.get_insert_cases hw with ⟨-, rfl⟩ | ⟨-, hold⟩
  · exact ⟨hnodup, hlength, hformed⟩
  · exact h i w hold

/-- Different units of a tier made of tens have ten times as many parts. -/
theorem MadeOfTens.card_parts (h : MadeOfTens parts units below) (hex : Exclusive parts units)
    {s : Finset ℕ} (hs : ∀ i ∈ s, ∃ u, units.get i = some u) :
    (together parts units s).card = 10 * s.card ∧
      ∀ i ∈ together parts units s, ∃ v, below.get i = some v := by
  constructor
  · refine card_together hex fun i hi => ?_
    obtain ⟨u, hu⟩ := hs i hi
    obtain ⟨hnodup, hlength, -⟩ := h i u hu
    exact ⟨u, hu, hnodup, hlength⟩
  · intro id hid
    obtain ⟨i, hi, u, hu, hpart⟩ := mem_together.mp hid
    exact (h i u hu).2.2 id hpart

end Tens

/-! ### What a Khural rests on -/

variable {c c' : Civics AccountId} {period now : ℕ} {d : Deed AccountId}

/-- The Arbads a Khural rests on: those of the Zuns of the Myangads of its Tumeds. -/
def arbadsUnder (c : Civics AccountId) (k : KhuralRecord AccountId) : Finset ℕ :=
  together (fun z => z.arbads.val) c.zuns.units
    (together (fun m => m.zuns.val) c.myangads.units
      (together (fun t => t.myangads.val) c.tumeds.units k.tumeds.val.toFinset))

/-- No citizen is in two Arbads and no unit is part of two; so a Khural rests on a thousand Arbads
for each Tumed. -/
structure IsForest (c : Civics AccountId) : Prop where
  arbads : Exclusive ArbadRecord.people c.arbads.units
  zuns : Exclusive (fun z => z.arbads.val) c.zuns.units
  myangads : Exclusive (fun m => m.zuns.val) c.myangads.units
  tumeds : Exclusive (fun t => t.myangads.val) c.tumeds.units
  khurals : Exclusive (fun k => k.tumeds.val) c.khurals.units
  thousands : ∀ i k, c.khurals.units.get i = some k →
    (arbadsUnder c k).card = 1000 * k.tumeds.val.length ∧
      ∀ id ∈ arbadsUnder c k, ∃ a, c.arbads.units.get id = some a

/-- **A Khural rests on a thousand Arbads for each Tumed, where no unit is part of two.** -/
theorem Built.thousands (hb : Built c) (hz : Exclusive (fun z => z.arbads.val) c.zuns.units)
    (hm : Exclusive (fun m => m.zuns.val) c.myangads.units)
    (ht : Exclusive (fun t => t.myangads.val) c.tumeds.units) {i : ℕ}
    {k : KhuralRecord AccountId} (hk : c.khurals.units.get i = some k) :
    (arbadsUnder c k).card = 1000 * k.tumeds.val.length ∧
      ∀ id ∈ arbadsUnder c k, ∃ a, c.arbads.units.get id = some a := by
  obtain ⟨hnodup, hformed⟩ := hb.khurals i k hk
  -- tier by tier downwards
  obtain ⟨hcardM, hformedM⟩ := hb.tumeds.card_parts ht (s := k.tumeds.val.toFinset)
    fun id hid => hformed id (List.mem_toFinset.mp hid)
  obtain ⟨hcardZ, hformedZ⟩ := hb.myangads.card_parts hm hformedM
  obtain ⟨hcardA, hformedA⟩ := hb.zuns.card_parts hz hformedZ
  refine ⟨?_, hformedA⟩
  unfold arbadsUnder
  rw [hcardA, hcardZ, hcardM, List.toFinset_card_of_nodup hnodup]
  omega

/-- What is left of a forest to be shown of tiers that are built. -/
theorem Built.isForest (hb : Built c) (ha : Exclusive ArbadRecord.people c.arbads.units)
    (hz : Exclusive (fun z => z.arbads.val) c.zuns.units)
    (hm : Exclusive (fun m => m.zuns.val) c.myangads.units)
    (ht : Exclusive (fun t => t.myangads.val) c.tumeds.units)
    (hk : Exclusive (fun k => k.tumeds.val) c.khurals.units) : IsForest c :=
  ⟨ha, hz, hm, ht, hk, fun _ _ hget => hb.thousands hz hm ht hget⟩

theorem built_genesis : Built (Civics.genesis : Civics AccountId) := by
  constructor <;> intro i u hu <;> simp [Civics.genesis] at hu

theorem isForest_genesis : IsForest (Civics.genesis : Civics AccountId) where
  arbads := exclusive_empty _
  zuns := exclusive_empty _
  myangads := exclusive_empty _
  tumeds := exclusive_empty _
  khurals := exclusive_empty _
  thousands i k hk := by simp [Civics.genesis] at hk

/-! ### What a deed does to the forest -/

variable [DecidableEq AccountId]

/-- The parts of a new unit are in no other of its tier. -/
def Unshared (c : Civics AccountId) : Deed AccountId → Prop
  | .arbad _ leader members =>
    Unassigned ArbadRecord.people c.arbads.units c.arbads.nextId (leader :: members)
  | .zun leader others => ∀ own ∈ c.arbads.byLeader.get leader,
    Unassigned (fun z => z.arbads.val) c.zuns.units c.zuns.nextId (own :: others)
  | .myangad leader _ others => ∀ own ∈ c.zuns.byLeader.get leader,
    Unassigned (fun m => m.zuns.val) c.myangads.units c.myangads.nextId (own :: others)
  | .tumed leader others => ∀ own ∈ c.myangads.byLeader.get leader,
    Unassigned (fun t => t.myangads.val) c.tumeds.units c.tumeds.nextId (own :: others)
  | .khural _ tumeds =>
    Unassigned (fun k => k.tumeds.val) c.khurals.units c.khurals.nextId tumeds
  | _ => True

theorem Effect.built (h : Effect period now d c c') (hb : Built c) : Built c' := by
  cases h with
  | arbad => exact { hb with zuns := hb.zuns.insert_below _ _ }
  | leave => exact { hb with zuns := hb.zuns.insert_below _ _ }
  | zun _ _ ht =>
    exact { hb with
      zuns := hb.zuns.insert ht.nodup ht.length ht.formed
      myangads := hb.myangads.insert_below _ _ }
  | myangad _ _ _ ht =>
    exact { hb with
      myangads := hb.myangads.insert ht.nodup ht.length ht.formed
      tumeds := hb.tumeds.insert_below _ _ }
  | tumed _ _ ht =>
    refine { hb with tumeds := hb.tumeds.insert ht.nodup ht.length ht.formed, khurals := ?_ }
    intro i k hk
    obtain ⟨hnodup, hformed⟩ := hb.khurals i k hk
    exact ⟨hnodup, fun id hid => by
      obtain ⟨t, ht⟩ := hformed id hid
      exact StorageMap.containsKey_iff.mp
        (StorageMap.containsKey_insert_of_containsKey (StorageMap.containsKey_iff.mpr ⟨t, ht⟩))⟩
  | khural _ _ _ htumeds hnodup hlegislative =>
    refine { hb with khurals := ?_ }
    intro i k hk
    rcases StorageMap.get_insert_cases hk with ⟨-, rfl⟩ | ⟨-, hold⟩
    · rw [htumeds]
      exact ⟨hnodup, fun id hid => (hlegislative id hid).imp fun _ ht => ht.1⟩
    · exact hb.khurals i k hold
  | _ => exact { hb with }

/-- The unit of the leader comes first among the parts of a new unit. -/
theorem Tenfold.unassigned_iff {U V : Type} {r : Roster AccountId U} {leader : AccountId}
    {others ids : List ℕ} (h : Tenfold r leader others ids) {parts : V → List ℕ}
    {units : StorageMap ℕ V} {n : ℕ} :
    Unassigned parts units n ids ↔
      ∀ own ∈ r.byLeader.get leader, Unassigned parts units n (own :: others) := by
  obtain ⟨own, hown, rfl⟩ := h.own
  simp [hown]

/-- **A deed keeps the forest just if the parts of the new unit are in no other.** -/
theorem isForest_effect_iff (hb : Built c) (hc : IsForest c) (h : Effect period now d c c') :
    IsForest c' ↔ Unshared c d := by
  have hb' := h.built hb
  cases h with
  | @arbad _ _ leader members a _ _ hleader hmembers =>
    have hpeople : a.people = leader :: members := by
      unfold ArbadRecord.people
      rw [hleader, hmembers]
    show _ ↔ Unassigned _ _ _ (leader :: members)
    rw [← hpeople]
    refine Iff.trans ⟨fun h' => h'.arbads, fun h' => ?_⟩ (exclusive_insert_iff hc.arbads)
    exact hb'.isForest h' hc.zuns hc.myangads hc.tumeds hc.khurals
  | zun _ _ ht =>
    refine Iff.trans ?_ ht.unassigned_iff
    refine Iff.trans ⟨fun h' => h'.zuns, fun h' => ?_⟩ (exclusive_insert_iff hc.zuns)
    exact hb'.isForest hc.arbads h' hc.myangads hc.tumeds hc.khurals
  | myangad _ _ _ ht =>
    refine Iff.trans ?_ ht.unassigned_iff
    refine Iff.trans ⟨fun h' => h'.myangads, fun h' => ?_⟩ (exclusive_insert_iff hc.myangads)
    exact hb'.isForest hc.arbads hc.zuns h' hc.tumeds hc.khurals
  | tumed _ _ ht =>
    refine Iff.trans ?_ ht.unassigned_iff
    refine Iff.trans ⟨fun h' => h'.tumeds, fun h' => ?_⟩ (exclusive_insert_iff hc.tumeds)
    exact hb'.isForest hc.arbads hc.zuns hc.myangads h' hc.khurals
  | khural _ _ _ htumeds =>
    show _ ↔ Unassigned _ _ _ _
    rw [← htumeds]
    refine Iff.trans ⟨fun h' => h'.khurals, fun h' => ?_⟩ (exclusive_insert_iff hc.khurals)
    exact hb'.isForest hc.arbads hc.zuns hc.myangads hc.tumeds h'
  | @leave _ _ _ position a hget =>
    refine iff_of_true (hb'.isForest (hc.arbads.shrink hget ?_) hc.zuns hc.myangads hc.tumeds
      hc.khurals) trivial
    -- who stays in the Arbad was in it
    intro p hp
    rcases List.mem_cons.mp hp with rfl | hp
    · exact List.mem_cons_self
    · exact List.mem_cons_of_mem _ (BoundedVec.mem_of_mem_swapRemove hp)
  | _ =>
    exact iff_of_true (hb'.isForest hc.arbads hc.zuns hc.myangads hc.tumeds hc.khurals) trivial

/-- **Forest.** No citizen is in two Arbads, no unit is part of two and every Khural rests on a
thousand Arbads for each Tumed, in exactly the runs where the parts of every new unit are in no
other. -/
theorem isForest_iff [Currency AccountId L] [ReservableCurrency AccountId L]
    {cfg : Config AccountId L} {ledger : L} {xs : List (Input AccountId)} :
    Throughout (step cfg) (fun w => IsForest w.civics) xs (World.genesis ledger now) ↔
      Along (step cfg) (fun w x => Unshared w.civics x.deed) xs (World.genesis ledger now) :=
  throughout_iff_of_effect (fun _ _ _ _ hj h => h.built hj)
    (fun _ _ _ _ hj hc h => isForest_effect_iff hj hc h) built_genesis isForest_genesis

/-- A citizen is taken into the Arbads of two others. -/
def doubleMember : List (Input ℕ) :=
  [decree (registration 3 (.ofByte 1)), decree (registration 4 (.ofByte 2)),
    decree (registration 5 (.ofByte 3)), decree (.bootstrapVerifyCreator 3),
    decree (.bootstrapVerifyCreator 4), signed 3 (.formArbad [5]), signed 4 (.formArbad [5])]

/-- The member is in both. -/
theorem member_shared :
    ¬ Throughout (step citizens) (fun w => IsForest w.civics) doubleMember noCitizens := by
  intro h
  have hsame : (0 : ℕ) = 1 := h.last.arbads 0 1 ⟨3, ⟨[5], by decide⟩, 1, none⟩
    ⟨4, ⟨[5], by decide⟩, 1, none⟩ (by decide +kernel) (by decide +kernel) 5 (by decide)
    (by decide)
  cases hsame

end Identity
