import Altan.Foundation.Accounting
import Altan.Identity.Status
import Altan.Runtime.Constants

/-!
# The directors of a delinquent organization

The directors of an organization are frozen when it becomes delinquent. But only some members are
visited, those that come first in the storage, and they are directors or not: the others are passed
over. All directors are frozen just when each of them is among the first members of an organization
that becomes delinquent then, or is frozen already.

## Main definitions

* `inspected`: the organizations an input looks at
* `Caught`: somebody is found when organizations are punished
* `Punished`: the storage before and after organizations are punished
* `Freezes`: an input freezes the directors of the organizations it makes delinquent
* `FindsDirectors`: all of them are found

## Main results

* `scan_eq`: the organizations the scan looks at
* `applyPunishment_punished`, `scan_punished`: the punishment of one, and of several
* `freezes_iff`: the directors are frozen when they are found
-/

open Bounded Dispatch TransitionSystem

namespace Organizations

variable {AccountId L C V : Type} [DecidableEq AccountId]

/-! ### The organizations an input looks at -/

/-- The organizations the scan of a block looks at. -/
def scannedOrgs (cfg : Config AccountId L C V) (s : State AccountId L C V) : List ℕ :=
  (List.range (min cfg.maxOrgsPerBlock s.nextOrgId)).map fun i =>
    wrappingAdd u32Max s.orgScanCursor i % s.nextOrgId

/-- The block of an input, and the organizations it looks at. -/
def inspected (cfg : Config AccountId L C V) (s : State AccountId L C V) :
    RuntimeInput AccountId L C V → ℕ × List ℕ
  | .org (.onInitialize now) => (now, scannedOrgs cfg s)
  | .org (.call ctx (.reportTaxEvasion orgId)) => (ctx.now, [orgId])
  | _ => (0, [])

section Scan

variable {cfg : Config AccountId L C V}

/-- **The scan looks at one organization after the other**, as many as it may, or all of them. -/
theorem scan_eq {total i : ℕ} (cfg : Config AccountId L C V) (now cursor rounds next : ℕ)
    (s : State AccountId L C V) (hi : i < total) :
    (scan cfg now total cursor rounds i next s).1 =
      ((List.range' i (min rounds (total - i))).map fun i =>
        wrappingAdd u32Max cursor i % total).foldl (fun s id => scanOrg cfg now id s) s := by
  induction rounds generalizing i next s with
  | zero =>
    rw [Nat.zero_min]
    rfl
  | succ rounds ih =>
    have hlength : min (rounds + 1) (total - i) = min rounds (total - (i + 1)) + 1 := by omega
    rw [hlength, List.range'_succ, List.map_cons, List.foldl_cons]
    simp only [scan]
    split
    · next hlast =>
      rw [Nat.sub_eq_zero_of_le hlast, Nat.min_zero]
      rfl
    · next hmore => exact ih _ _ (Nat.lt_of_not_le hmore)

/-- The scan of a block moves the cursor besides. -/
theorem onInitialize_eq (cfg : Config AccountId L C V) (now : ℕ) (s : State AccountId L C V) :
    ∃ cursor, onInitialize cfg now s =
      { (scannedOrgs cfg s).foldl (fun s id => scanOrg cfg now id s) s with
        orgScanCursor := cursor } := by
  unfold onInitialize
  split
  · next hnone =>
    refine ⟨s.orgScanCursor, ?_⟩
    rw [scannedOrgs, hnone, Nat.min_zero]
    rfl
  · next hsome =>
    have hscan := scan_eq cfg now s.orgScanCursor cfg.maxOrgsPerBlock s.orgScanCursor s
      (Nat.pos_of_ne_zero hsome)
    rw [Nat.sub_zero, ← List.range_eq_range'] at hscan
    refine ⟨(scan cfg now s.nextOrgId s.orgScanCursor cfg.maxOrgsPerBlock 0 s.orgScanCursor s).2,
      ?_⟩
    dsimp only
    rw [hscan]
    rfl

end Scan

/-! ### Who is found -/

/-- Somebody is among the members of an organization that are visited. -/
def Early (cfg : Config AccountId L C V) (s : State AccountId L C V) (orgId : ℕ)
    (who : AccountId) : Prop :=
  who ∈ (cfg.order.arrange (s.crewMembers.row orgId)).take cfg.maxDirectorsPerOrg

/-- Somebody is found when organizations are punished: a director of one that is punishable, among
the members that are visited. -/
def Caught (cfg : Config AccountId L C V) (now : ℕ) (ids : List ℕ) (s : State AccountId L C V)
    (who : AccountId) : Prop :=
  ∃ id ∈ ids, Punishable cfg now s id ∧ IsDirector s id who ∧ Early cfg s id who

/-- The directors that are found are the directors among the members that are visited. -/
theorem mem_visitedDirectors {cfg : Config AccountId L C V} {s : State AccountId L C V} {orgId : ℕ}
    {who : AccountId} :
    who ∈ visitedDirectors cfg orgId s ↔ IsDirector s orgId who ∧ Early cfg s orgId who := by
  have hvisited : ∀ a crew,
      (a, crew) ∈ (s.crewMembers.iterPrefix cfg.order orgId).take cfg.maxDirectorsPerOrg →
        s.crewMembers.get (orgId, a) = some crew := fun a crew h =>
    StorageMap.mem_iterPrefix.mp (List.mem_of_mem_take h)
  unfold visitedDirectors Early
  rw [← StorageMap.map_fst_iterPrefix, ← List.map_take, List.mem_filterMap, List.mem_map]
  constructor
  · rintro ⟨⟨a, crew⟩, hmem, hfound⟩
    dsimp only at hfound
    split at hfound
    · next hrole =>
      obtain rfl := Option.some.inj hfound
      exact ⟨⟨crew, hvisited a crew hmem, hrole⟩, ⟨a, crew⟩, hmem, rfl⟩
    · cases hfound
  · rintro ⟨⟨crew', hget, hrole⟩, ⟨a, crew⟩, hmem, rfl⟩
    obtain rfl := Option.some.inj ((hvisited a crew hmem).symm.trans hget)
    exact ⟨(a, crew), hmem, if_pos hrole⟩

/-! ### The punishment -/

section Punishment

omit [DecidableEq AccountId] in
/-- The debt of an organization is a matter of its own. -/
theorem accruePenalty_eq (cfg : Config AccountId L C V) (orgId now : ℕ)
    (s : State AccountId L C V) : ∃ debt last, accruePenalty cfg orgId now s =
      { s with
        orgPenaltyDebt := debt
        lastPenaltyBlock := last } := by
  dsimp only [accruePenalty]
  split
  · exact ⟨_, _, rfl⟩
  · exact ⟨_, _, rfl⟩

/-- The punishment makes an organization delinquent that is punishable. -/
theorem applyPunishment_of_punishable {cfg : Config AccountId L C V} {orgId now : ℕ}
    {s : State AccountId L C V} {org : Organization AccountId}
    (hget : s.organizations.get orgId = some org) (hactive : org.status = .active)
    (hoverdue : Overdue cfg now org) : ∃ debt last, (applyPunishment cfg orgId now s).1 =
      { s with
        organizations := s.organizations.insert orgId { org with status := .delinquent }
        citizens := (visitedDirectors cfg orgId s).foldl
          (fun citizens director => attempt (cfg.freezeCitizen director) citizens) s.citizens
        orgPenaltyDebt := debt
        lastPenaltyBlock := last } := by
  obtain ⟨debt, last, haccrued⟩ := accruePenalty_eq cfg orgId now (markDelinquent cfg orgId now s)
  refine ⟨debt, last, ?_⟩
  simp only [applyPunishment, hget, hactive, if_pos hoverdue, decide_true, if_true]
  rw [haccrued, markDelinquent, StorageMap.modify_of_get hget]

/-- And nothing but the debt of any other. -/
theorem applyPunishment_of_not {cfg : Config AccountId L C V} {orgId now : ℕ}
    {s : State AccountId L C V} (hnot : ¬ Punishable cfg now s orgId) :
    ∃ debt last, (applyPunishment cfg orgId now s).1 =
      { s with
        orgPenaltyDebt := debt
        lastPenaltyBlock := last } := by
  unfold applyPunishment
  split
  · exact ⟨_, _, rfl⟩
  · next org hget =>
    split
    · next hoverdue =>
      have hidle : ¬ org.status = .active := fun hactive =>
        hnot ⟨org, hget, hactive, hoverdue⟩
      simp only [hidle, decide_false, Bool.false_eq_true, if_false]
      exact accruePenalty_eq cfg orgId now s
    · exact ⟨_, _, rfl⟩

end Punishment

/-! ### The punishment of several organizations -/

/-- The module that is called freezes a citizen who is registered. -/
def FreezesCitizens (cfg : Config AccountId L (Identity.State AccountId Unit) V) : Prop :=
  ∀ who citizens, (attempt (cfg.freezeCitizen who) citizens).status =
    Identity.changeStatus .freeze who citizens.status

/-- The storage before and after organizations are punished: those that are punishable become
delinquent, and whoever is found is frozen. -/
structure Punished (cfg : Config AccountId L (Identity.State AccountId Unit) V) (now : ℕ)
    (ids : List ℕ) (s s' : State AccountId L (Identity.State AccountId Unit) V) : Prop where
  crew : s'.crewMembers = s.crewMembers
  punishable : ∀ id, Punishable cfg now s' id ↔ Punishable cfg now s id ∧ id ∉ ids
  delinquent : ∀ id ∈ ids, Punishable cfg now s id → s'.status id = some .delinquent
  others : ∀ id, (id ∈ ids → ¬ Punishable cfg now s id) → s'.status id = s.status id
  frozen : ∀ a, Caught cfg now ids s a →
    s'.citizens.status a = (s.citizens.status a).map Identity.CitizenStatus.freeze
  free : ∀ a, ¬ Caught cfg now ids s a → s'.citizens.status a = s.citizens.status a

section Citizens

variable {cfg : Config AccountId L (Identity.State AccountId Unit) V} {now orgId : ℕ}
  {ids ids' : List ℕ} {s s₁ s' : State AccountId L (Identity.State AccountId Unit) V}

/-- Freezing twice is freezing once. -/
theorem map_freeze_freeze (status : Option Identity.CitizenStatus) :
    (status.map Identity.CitizenStatus.freeze).map Identity.CitizenStatus.freeze =
      status.map Identity.CitizenStatus.freeze := by
  rw [Option.map_map]
  rfl

theorem isDirector_congr {orgId : ℕ} (h : s'.crewMembers = s.crewMembers) (a : AccountId) :
    IsDirector s' orgId a ↔ IsDirector s orgId a := by
  rw [IsDirector, h, IsDirector]

theorem Punished.nil : Punished cfg now [] s s := by
  refine ⟨rfl, fun id => ?_, fun id hid => ?_, fun _ _ => rfl, fun a hcaught => ?_, fun _ _ => rfl⟩
  · exact (and_iff_left List.not_mem_nil).symm
  · cases hid
  · obtain ⟨id, hid, -⟩ := hcaught
    cases hid

/-- Who is found at first, or then. -/
theorem Punished.caught_append (h : Punished cfg now ids s s₁) (a : AccountId) :
    Caught cfg now (ids ++ ids') s a ↔ Caught cfg now ids s a ∨ Caught cfg now ids' s₁ a := by
  have hdirector : ∀ id, IsDirector s₁ id a ↔ IsDirector s id a := fun id =>
    isDirector_congr h.crew a
  have hearly : ∀ id, Early cfg s₁ id a ↔ Early cfg s id a := fun id => by
    rw [Early, h.crew, Early]
  constructor
  · rintro ⟨id, hid, hpunishable, hcaught⟩
    by_cases hfirst : id ∈ ids
    · exact Or.inl ⟨id, hfirst, hpunishable, hcaught⟩
    · refine Or.inr ⟨id, (List.mem_append.mp hid).resolve_left hfirst,
        (h.punishable id).mpr ⟨hpunishable, hfirst⟩, ?_⟩
      rwa [hdirector, hearly]
  · rintro (⟨id, hid, hcaught⟩ | ⟨id, hid, hpunishable, hcaught⟩)
    · exact ⟨id, List.mem_append_left _ hid, hcaught⟩
    · rw [hdirector, hearly] at hcaught
      exact ⟨id, List.mem_append_right _ hid, ((h.punishable id).mp hpunishable).1, hcaught⟩

/-- **Organizations are punished one after the other.** -/
theorem Punished.append (h : Punished cfg now ids s s₁) (h' : Punished cfg now ids' s₁ s') :
    Punished cfg now (ids ++ ids') s s' where
  crew := h'.crew.trans h.crew
  punishable id := by
    rw [h'.punishable, h.punishable, and_assoc, List.mem_append, not_or]
  delinquent id hid hpunishable := by
    by_cases hfirst : id ∈ ids
    · have hkept : s'.status id = s₁.status id := h'.others id fun _ hagain =>
        ((h.punishable id).mp hagain).2 hfirst
      rw [hkept]
      exact h.delinquent id hfirst hpunishable
    · exact h'.delinquent id ((List.mem_append.mp hid).resolve_left hfirst)
        ((h.punishable id).mpr ⟨hpunishable, hfirst⟩)
  others id hnot := by
    rw [h'.others id fun hid hpunishable => ?_]
    · exact h.others id fun hid => hnot (List.mem_append_left _ hid)
    · exact hnot (List.mem_append_right _ hid) ((h.punishable id).mp hpunishable).1
  frozen a hcaught := by
    by_cases hfirst : Caught cfg now ids s a
    · have hfrozen := h.frozen a hfirst
      by_cases hthen : Caught cfg now ids' s₁ a
      · rw [h'.frozen a hthen, hfrozen, map_freeze_freeze]
      · rw [h'.free a hthen, hfrozen]
    · have hthen := (h.caught_append a).mp hcaught |>.resolve_left hfirst
      rw [h'.frozen a hthen, h.free a hfirst]
  free a hcaught := by
    rw [h.caught_append, not_or] at hcaught
    rw [h'.free a hcaught.2, h.free a hcaught.1]

/-- Some citizens are frozen, one after the other. -/
theorem status_foldl_freeze (hcfg : FreezesCitizens cfg) (directors : List AccountId)
    (c : Identity.State AccountId Unit) (a : AccountId) :
    (directors.foldl (fun citizens director => attempt (cfg.freezeCitizen director) citizens)
      c).status a =
        if a ∈ directors then (c.status a).map Identity.CitizenStatus.freeze else c.status a := by
  induction directors generalizing c with
  | nil => rfl
  | cons director directors ih =>
    rw [List.foldl_cons, ih, hcfg]
    by_cases ha : a = director
    · subst ha
      rw [Identity.changeStatus_self, map_freeze_freeze, ite_self, if_pos List.mem_cons_self]
    · rw [Identity.changeStatus_of_ne ha]
      exact if_congr ((List.mem_cons.trans (or_iff_right ha)).symm) rfl rfl

theorem caught_singleton {a : AccountId} : Caught cfg now [orgId] s a ↔
    Punishable cfg now s orgId ∧ a ∈ visitedDirectors cfg orgId s := by
  simp only [Caught, List.mem_singleton, exists_eq_left, mem_visitedDirectors]

/-- An organization that is not punishable is left alone. -/
theorem Punished.of_not (hnot : ¬ Punishable cfg now s orgId)
    (hcrew : s'.crewMembers = s.crewMembers) (horgs : s'.organizations = s.organizations)
    (hcitizens : s'.citizens = s.citizens) : Punished cfg now [orgId] s s' := by
  refine ⟨hcrew, fun id => ?_, fun id hid h => ?_, fun id _ => ?_, fun a ha => ?_, fun a _ => ?_⟩
  · rw [Punishable, horgs]
    refine (and_iff_left_of_imp fun h hid => hnot ?_).symm
    exact List.mem_singleton.mp hid ▸ h
  · exact absurd (List.mem_singleton.mp hid ▸ h) hnot
  · rw [State.status, horgs, State.status]
  · exact absurd (caught_singleton.mp ha).1 hnot
  · rw [hcitizens]

/-- **The punishment of one organization.** -/
theorem applyPunishment_punished (hcfg : FreezesCitizens cfg) (orgId now : ℕ)
    (s : State AccountId L (Identity.State AccountId Unit) V) :
    Punished cfg now [orgId] s (applyPunishment cfg orgId now s).1 := by
  by_cases hpunishable : Punishable cfg now s orgId
  · obtain ⟨org, hget, hactive, hoverdue⟩ := id hpunishable
    obtain ⟨debt, last, he⟩ := applyPunishment_of_punishable hget hactive hoverdue
    rw [he]
    refine ⟨rfl, fun id => ?_, fun id hid _ => ?_, fun id hnot => ?_, fun a ha => ?_,
      fun a ha => ?_⟩
    · rw [List.mem_singleton]
      by_cases hid : id = orgId
      -- a delinquent organization is not active
      · subst hid
        refine iff_of_false ?_ fun h => h.2 rfl
        rintro ⟨org', hget', hactive', -⟩
        rw [StorageMap.get_insert_self] at hget'
        obtain rfl := Option.some.inj hget'
        cases hactive'
      · rw [Punishable, StorageMap.get_insert_of_ne hid]
        exact (and_iff_left hid).symm
    · rw [status_insert rfl, if_pos (List.mem_singleton.mp hid)]
    · rw [status_insert rfl, if_neg]
      rintro rfl
      exact hnot (List.mem_singleton_self _) hpunishable
    · exact (status_foldl_freeze hcfg _ _ a).trans (if_pos (caught_singleton.mp ha).2)
    · exact (status_foldl_freeze hcfg _ _ a).trans
        (if_neg fun h => ha (caught_singleton.mpr ⟨hpunishable, h⟩))
  · obtain ⟨debt, last, he⟩ := applyPunishment_of_not hpunishable
    rw [he]
    exact .of_not hpunishable rfl rfl rfl

/-- The scan leaves out the organizations that are frozen, which are not punishable. -/
theorem scanOrg_punished (hcfg : FreezesCitizens cfg) (orgId now : ℕ)
    (s : State AccountId L (Identity.State AccountId Unit) V) :
    Punished cfg now [orgId] s (scanOrg cfg now orgId s) := by
  unfold scanOrg
  split
  · next org hget =>
    split
    · exact applyPunishment_punished hcfg orgId now s
    · next hfrozen =>
      refine .of_not ?_ rfl rfl rfl
      rintro ⟨org', hget', hactive, -⟩
      obtain rfl := Option.some.inj (hget.symm.trans hget')
      exact hfrozen (fun h => by cases h.symm.trans hactive)
  · next hnone =>
    refine .of_not ?_ rfl rfl rfl
    rintro ⟨org, hget, -⟩
    cases hnone.symm.trans hget

/-- **The punishment of several organizations.** -/
theorem scan_punished (hcfg : FreezesCitizens cfg) (now : ℕ) (ids : List ℕ)
    (s : State AccountId L (Identity.State AccountId Unit) V) :
    Punished cfg now ids s (ids.foldl (fun s id => scanOrg cfg now id s) s) := by
  induction ids generalizing s with
  | nil => exact .nil
  | cons orgId ids ih => exact (scanOrg_punished hcfg orgId now s).append (ih _)

/-- What else changes does not concern those who are punished. -/
theorem Punished.congr (h : Punished cfg now ids s s₁) (hcrew : s'.crewMembers = s₁.crewMembers)
    (horgs : s'.organizations = s₁.organizations) (hcitizens : s'.citizens = s₁.citizens) :
    Punished cfg now ids s s' where
  crew := hcrew.trans h.crew
  punishable id := by
    rw [Punishable, horgs]
    exact h.punishable id
  delinquent id hid hpunishable := by
    rw [State.status, horgs]
    exact h.delinquent id hid hpunishable
  others id hnot := by
    rw [State.status, horgs]
    exact h.others id hnot
  frozen a ha := by
    rw [hcitizens]
    exact h.frozen a ha
  free a ha := by
    rw [hcitizens]
    exact h.free a ha

/-- **Which organizations become delinquent.** -/
theorem Punished.detected (h : Punished cfg now ids s s') :
    Detected s s' orgId ↔ orgId ∈ ids ∧ Punishable cfg now s orgId := by
  constructor
  · rintro ⟨hactive, hdelinquent⟩
    by_contra hnot
    rw [h.others orgId fun hid hpunishable => hnot ⟨hid, hpunishable⟩, hactive] at hdelinquent
    cases hdelinquent
  · rintro ⟨hid, hpunishable⟩
    obtain ⟨org, hget, hactive, hoverdue⟩ := id hpunishable
    refine ⟨?_, h.delinquent orgId hid hpunishable⟩
    rw [status_of_get hget, hactive]

end Citizens

/-! ### The inputs -/

/-- Every registered director of an organization is frozen. -/
def DirectorsFrozen (s : State AccountId L (Identity.State AccountId Unit) V) (orgId : ℕ) : Prop :=
  ∀ a, IsDirector s orgId a → (s.citizens.status a).isSome → s.citizens.status a = some .frozen

/-- An input finds every registered director of the organizations it makes delinquent, or the
director is frozen already. -/
def FindsDirectors (cfg : Config AccountId L (Identity.State AccountId Unit) V)
    (s : State AccountId L (Identity.State AccountId Unit) V)
    (x : RuntimeInput AccountId L (Identity.State AccountId Unit) V) : Prop :=
  ∀ orgId ∈ (inspected cfg s x).2, Punishable cfg (inspected cfg s x).1 s orgId →
    ∀ a, IsDirector s orgId a → (s.citizens.status a).isSome →
      s.citizens.status a = some .frozen ∨
        Caught cfg (inspected cfg s x).1 (inspected cfg s x).2 s a

/-- An input freezes every registered director of the organizations it makes delinquent. -/
def Freezes [Currency AccountId L] (cfg : Config AccountId L (Identity.State AccountId Unit) V)
    (s : State AccountId L (Identity.State AccountId Unit) V)
    (x : RuntimeInput AccountId L (Identity.State AccountId Unit) V) : Prop :=
  ∀ orgId, Detected s (exec (runtimeStep cfg) x s) orgId →
    DirectorsFrozen (exec (runtimeStep cfg) x s) orgId

section Inputs

variable {cfg : Config AccountId L (Identity.State AccountId Unit) V} {now orgId : ℕ}
  {ids : List ℕ} {s s' : State AccountId L (Identity.State AccountId Unit) V}

/-- **The directors of the organizations that are punished are frozen when they are found.** -/
theorem Punished.freezes_iff (h : Punished cfg now ids s s') :
    (∀ orgId, Detected s s' orgId → DirectorsFrozen s' orgId) ↔
      ∀ orgId ∈ ids, Punishable cfg now s orgId → ∀ a, IsDirector s orgId a →
        (s.citizens.status a).isSome →
          s.citizens.status a = some .frozen ∨ Caught cfg now ids s a := by
  constructor
  · intro hfrozen orgId hid hpunishable a hdirector hregistered
    by_cases hcaught : Caught cfg now ids s a
    · exact Or.inr hcaught
    · left
      rw [← h.free a hcaught] at hregistered ⊢
      exact hfrozen orgId (h.detected.mpr ⟨hid, hpunishable⟩) a
        ((isDirector_congr h.crew a).mpr hdirector) hregistered
  · intro hfound orgId hdetected a hdirector hregistered
    obtain ⟨hid, hpunishable⟩ := h.detected.mp hdetected
    rw [isDirector_congr h.crew] at hdirector
    by_cases hcaught : Caught cfg now ids s a
    · rw [h.frozen a hcaught] at hregistered ⊢
      obtain ⟨status, hstatus⟩ := Option.isSome_iff_exists.mp (Option.isSome_map ▸ hregistered)
      rw [hstatus]
      rfl
    · rw [h.free a hcaught] at hregistered ⊢
      exact (hfound orgId hid hpunishable a hdirector hregistered).resolve_right hcaught

omit [DecidableEq AccountId] in
/-- An organization that is written does not become delinquent unless the entry is. -/
theorem not_detected_of_insert {org : Organization AccountId} {id : ℕ}
    (h : s'.organizations = s.organizations.insert orgId org)
    (hnot : s.status orgId = some .active → org.status ≠ .delinquent) : ¬ Detected s s' id := by
  rintro ⟨hactive, hdelinquent⟩
  rw [status_insert h] at hdelinquent
  split at hdelinquent
  · next hid => exact hnot (hid ▸ hactive) (Option.some.inj hdelinquent)
  · cases hactive.symm.trans hdelinquent

omit [DecidableEq AccountId] in
theorem not_detected_of_organizations {id : ℕ} (h : s'.organizations = s.organizations) :
    ¬ Detected s s' id := by
  rintro ⟨hactive, hdelinquent⟩
  rw [State.status, h] at hdelinquent
  cases hactive.symm.trans hdelinquent

omit [DecidableEq AccountId] in
/-- A tax return makes no organization delinquent. -/
theorem not_detected_of_declareTax {declaration : TaxDeclaration} {ledger : L} {vaults : V} {id : ℕ}
    (h : declareTax declaration { s with vaults := vaults, ledger := ledger } = .ok s') :
    ¬ Detected s s' id := by
  obtain ⟨org, -, rfl⟩ := declareTax_eq_ok.mp h
  refine not_detected_of_insert rfl fun _ hdelinquent => ?_
  dsimp only at hdelinquent
  split at hdelinquent
  · cases hdelinquent
  · next hnot => exact hnot hdelinquent

variable [Currency AccountId L]

/-- **What an input does**: the organizations it looks at are punished, or it makes none
delinquent. -/
theorem step_punished (hcfg : FreezesCitizens cfg)
    {x : RuntimeInput AccountId L (Identity.State AccountId Unit) V}
    (h : runtimeStep cfg x s = .ok s') :
    Punished cfg (inspected cfg s x).1 (inspected cfg s x).2 s s' ∨
      (inspected cfg s x).2 = [] ∧ ∀ id, ¬ Detected s s' id := by
  cases x with
  | elsewhere ledger citizens vaults =>
    obtain rfl := Except.ok.inj h
    exact Or.inr ⟨rfl, fun id => not_detected_of_organizations rfl⟩
  | org x =>
    cases x with
    | onInitialize now =>
      obtain ⟨cursor, he⟩ := onInitialize_eq cfg now s
      rw [← Except.ok.inj h]
      -- a block punishes whom it scans, and moves the cursor
      refine Or.inl ((scan_punished hcfg now (scannedOrgs cfg s) s).congr ?_ ?_ ?_)
      · rw [he]
      · rw [he]
      · rw [he]
    | call ctx c =>
      cases c with
      | registerOrganization name hqRegion requiredFounders =>
        obtain ⟨caller, -, -, bounded, -, rfl⟩ := registerOrganization_eq_ok.mp h
        exact Or.inr ⟨rfl, fun id => not_detected_of_insert rfl fun _ h => by cases h⟩
      | activateOrganization orgId =>
        obtain ⟨org, -, -, hkept | hactive⟩ := activateOrganization_organizations h
        · exact Or.inr ⟨rfl, fun id => not_detected_of_organizations hkept⟩
        · exact Or.inr ⟨rfl, fun id => not_detected_of_insert hactive fun _ h => by cases h⟩
      | addCrewMember orgId member role regionAssigned =>
        exact Or.inr ⟨rfl, fun id => not_detected_of_organizations (addCrewMember_organizations h)⟩
      | fileTaxReturn orgId regionId declaredProfit amount documentHash =>
        obtain ⟨-, declaration, ledger, -, -, hdeclare⟩ := fileTaxReturn_declareTax h
        exact Or.inr ⟨rfl, fun id => not_detected_of_declareTax hdeclare⟩
      | reportTaxEvasion orgId =>
        obtain ⟨reporter, -, org, -, -, -, -, rfl⟩ := reportTaxEvasion_eq_ok.mp h
        exact Or.inl ((applyPunishment_punished hcfg orgId ctx.now s).congr rfl rfl rfl)
      | freezeOrganization orgId =>
        obtain ⟨-, org, -, rfl⟩ := freezeOrganization_eq_ok.mp h
        exact Or.inr ⟨rfl, fun id => not_detected_of_insert rfl fun _ h => by cases h⟩
      | fileTaxReturnZk =>
        obtain ⟨-, declaration, ledger, vaults, -, -, hdeclare⟩ := fileTaxReturnZk_declareTax h
        exact Or.inr ⟨rfl, fun id => not_detected_of_declareTax hdeclare⟩
      | spendOrgFunds orgId beneficiary amount =>
        exact Or.inr ⟨rfl, fun id => not_detected_of_organizations (spendOrgFunds_organizations h)⟩

/-- **Step lemma.** An input freezes the directors just when it finds them. -/
theorem freezes_iff (hcfg : FreezesCitizens cfg)
    {x : RuntimeInput AccountId L (Identity.State AccountId Unit) V}
    (h : runtimeStep cfg x s = .ok s') : Freezes cfg s x ↔ FindsDirectors cfg s x := by
  unfold Freezes
  rw [exec_ok h]
  rcases step_punished hcfg h with hpunished | ⟨hnone, hnot⟩
  · exact hpunished.freezes_iff
  · unfold FindsDirectors
    refine iff_of_true (fun id hdetected => absurd hdetected (hnot id)) fun id hid => ?_
    rw [hnone] at hid
    cases hid

end Inputs

/-! ### Runs -/

/-- The citizens of the runtime are frozen when they are registered. -/
theorem organization_freezesCitizens [Currency AccountId L] (decode : List UInt8 → AccountId)
    (order : IterationOrder AccountId) (regionTreasury confederationTreasury : AccountId) :
    FreezesCitizens (Runtime.organization (L := L) decode order regionTreasury
      confederationTreasury) := by
  intro who citizens
  have hattempt : attempt ((Runtime.organization (L := L) decode order regionTreasury
      confederationTreasury).freezeCitizen who) citizens =
        attempt (Identity.doFreezeCitizen who) citizens := by
    unfold attempt Runtime.organization
    dsimp only
    cases Identity.doFreezeCitizen who citizens <;> rfl
  rw [hattempt]
  exact Identity.attempt_doFreezeCitizen_status

/-- **All directors are frozen in exactly the runs in which they are found.** -/
theorem freezes_iff_findsDirectors [Currency AccountId L] (decode : List UInt8 → AccountId)
    (order : IterationOrder AccountId) (regionTreasury confederationTreasury : AccountId)
    (xs : List (RuntimeInput AccountId L (Identity.State AccountId Unit)
      (ShieldedVaults.State Unit)))
    (s : State AccountId L (Identity.State AccountId Unit) (ShieldedVaults.State Unit)) :
    let cfg := Runtime.organization decode order regionTreasury confederationTreasury
    Along (runtimeStep cfg) (Freezes cfg) xs s ↔
      Along (runtimeStep cfg) (FindsDirectors cfg) xs s :=
  along_congr_of_step fun _ _ _ h => freezes_iff (organization_freezesCitizens _ _ _ _) h

/-- The citizen 20 is registered. -/
def registeredDirector : Identity.State ℕ Unit :=
  exec (fun ctx : Identity.Context ℕ => Identity.registerCitizen ctx 20 1 .regular true none none
    .internal (.ofNat 0) (.ofNat 0) (.ofNat 0)) ⟨.root, 0⟩ (Identity.genesis ())

/-- The account 20 founds an organization alone, and takes on the accounts before it as employees.
The tax period passes. -/
def crowded : List (RuntimeInput ℕ (Runtime.NativeLedger ℕ) (Identity.State ℕ Unit)
    (ShieldedVaults.State Unit)) :=
  [.elsewhere (Balances.ofFree [(20, 1000 * CentralBank.unit)]) registeredDirector
      (ShieldedVaults.genesis ()),
    .org (Runtime.orgCall 20 0 (.registerOrganization [] 0 1)),
    .org (Runtime.orgCall 20 0 (.activateOrganization 0))] ++
  (List.range 20).map (fun employee =>
    .org (Runtime.orgCall 20 0 (.addCrewMember 0 employee .employee 0))) ++
  [.org (.onInitialize 5256001)]

/-- **The employees come first, and the director is not frozen.** -/
theorem director_passed_over :
    ¬ ∀ xs, Along (runtimeStep Runtime.orgs) (Freezes Runtime.orgs) xs Runtime.orgGenesis := by
  intro h
  have hlast := (along_append.mp (h crowded)).2.1 _ rfl 0
  have hfrozen := hlast (by decide +kernel) 20 (by decide +kernel) (by decide +kernel)
  revert hfrozen
  decide +kernel

end Organizations
