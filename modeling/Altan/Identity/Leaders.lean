import Altan.Identity.Spec

/-!
# Who leads which unit

At every tier an index beside the units says which of them a leader leads, and a promotion to the
next tier starts from there. The index is overwritten when a leader who lost the rank forms another
unit of the tier; the unit of before keeps naming the leader.

## Main definitions

* `Indexed`: at every tier the index names exactly the units that are led
* `MayLead`: who forms a unit leads none of its tier, and its number is free

## Main results

* `indexed_iff`: the indexes agree with the units in exactly the runs where nobody who leads a unit
  forms another one of the tier
-/

open Bounded Dispatch Ledger TransitionSystem Runtime

namespace Identity

variable {AccountId L : Type} [DecidableEq AccountId]

/-- At every tier the index names a unit for an account just if the account leads it. -/
structure Indexed (c : Civics AccountId) : Prop where
  arbads : c.arbads.Agrees ArbadRecord.leader
  zuns : c.zuns.Agrees ZunRecord.leader
  myangads : c.myangads.Agrees MyangadRecord.leader
  tumeds : c.tumeds.Agrees TumedRecord.leader
  khurals : c.khurals.Agrees KhuralRecord.leader
  confederations : c.confederations.Agrees ConfederationRecord.leader

/-- Who comes to lead a new unit leads none of its tier, and its number is free; or the number is
that of the unit he leads. -/
def MayLead (c : Civics AccountId) : Deed AccountId → Prop
  | .arbad _ leader _ => c.arbads.MayForm leader
  | .zun leader _ => c.zuns.MayForm leader
  | .myangad leader _ _ => c.myangads.MayForm leader
  | .tumed leader _ => c.tumeds.MayForm leader
  | .khural leader _ => c.khurals.MayForm leader
  | .confederation leader _ => c.confederations.MayForm leader
  | _ => True

theorem indexed_genesis : Indexed (Civics.genesis : Civics AccountId) :=
  ⟨Roster.agrees_empty _ _, Roster.agrees_empty _ _, Roster.agrees_empty _ _,
    Roster.agrees_empty _ _, Roster.agrees_empty _ _, Roster.agrees_empty _ _⟩

variable {period now : ℕ} {d : Deed AccountId} {c c' : Civics AccountId}

/-- **A deed keeps the indexes in agreement just if its leader may lead the new unit.** -/
theorem indexed_effect_iff (hc : Indexed c) (h : Effect period now d c c') :
    Indexed c' ↔ MayLead c d := by
  cases h with
  | arbad _ hleader =>
    subst hleader
    refine (Iff.intro ?_ ?_).trans (Roster.agrees_form_iff hc.arbads)
    · exact fun h' => h'.arbads
    · exact fun h' => { hc with arbads := h' }
  | zun _ hleader =>
    subst hleader
    refine (Iff.intro ?_ ?_).trans (Roster.agrees_form_iff hc.zuns)
    · exact fun h' => h'.zuns
    · exact fun h' => { hc with zuns := h' }
  | myangad _ hleader =>
    subst hleader
    refine (Iff.intro ?_ ?_).trans (Roster.agrees_form_iff hc.myangads)
    · exact fun h' => h'.myangads
    · exact fun h' => { hc with myangads := h' }
  | tumed _ hleader =>
    subst hleader
    refine (Iff.intro ?_ ?_).trans (Roster.agrees_form_iff hc.tumeds)
    · exact fun h' => h'.tumeds
    · exact fun h' => { hc with tumeds := h' }
  | khural _ _ hleader =>
    subst hleader
    refine (Iff.intro ?_ ?_).trans (Roster.agrees_form_iff hc.khurals)
    · exact fun h' => h'.khurals
    · exact fun h' => { hc with khurals := h' }
  | confederation _ _ _ hleader =>
    subst hleader
    refine (Iff.intro ?_ ?_).trans (Roster.agrees_form_iff hc.confederations)
    · exact fun h' => h'.confederations
    · exact fun h' => { hc with confederations := h' }
  -- an Arbad that is left keeps its leader
  | leave hget => exact iff_of_true { hc with arbads := hc.arbads.update hget rfl } trivial
  | _ => exact iff_of_true { hc with } trivial

/-- **Leaders.** At every tier the index names exactly the units that are led, in exactly the runs
where nobody who leads a unit forms another one of its tier, and every new unit takes a number that
is free. -/
theorem indexed_iff [Currency AccountId L] [ReservableCurrency AccountId L]
    {cfg : Config AccountId L} {ledger : L} {xs : List (Input AccountId)} :
    Throughout (step cfg) (fun w => Indexed w.civics) xs (World.genesis ledger now) ↔
      Along (step cfg) (fun w x => MayLead w.civics x.deed) xs (World.genesis ledger now) :=
  throughout_iff_of_effect (J := fun _ => True) (fun _ _ _ _ _ _ => trivial)
    (fun _ _ _ _ _ hc h => indexed_effect_iff hc h) trivial indexed_genesis

/-- A citizen forms an Arbad, loses the rank and forms another. -/
def secondArbad : List (Input ℕ) :=
  [decree (registration 3 (.ofByte 1)), decree (registration 4 (.ofByte 2)),
    decree (.bootstrapVerifyCreator 3), signed 3 (.formArbad [4]), .doDemoteToRegular 3,
    signed 3 (.formArbad [4])]

/-- The first Arbad still names the citizen, whom the index sends to the second. -/
theorem arbad_orphaned :
    ¬ Throughout (step citizens) (fun w => Indexed w.civics) secondArbad noCitizens := by
  intro h
  have hfirst : (run (step citizens) secondArbad noCitizens).arbadByLeader.get 3 = some 0 :=
    (h.last.arbads 3 0).mpr ⟨⟨3, ⟨[4], by decide⟩, 1, none⟩, by decide +kernel, rfl⟩
  have hsecond : (run (step citizens) secondArbad noCitizens).arbadByLeader.get 3 = some 1 := by
    decide +kernel
  rw [hfirst] at hsecond
  cases hsecond

end Identity
