import Mathlib.Algebra.Order.Floor.Div
import Altan.Organizations.Filing

/-!
# The scanner misses nobody

Each block the scan looks at some organizations and takes up where the last has stopped. While no
organization is registered, the scans of several blocks go round all organizations: together they
look at every one, and whoever was overdue before the first of them is delinquent after the last.

## Main definitions

* `visited`: the organizations the scans of a run look at
* `Unhindered`: no organization is registered, and the cursor does not start over at a scan
* `LeavesToScan`: an input leaves an overdue organization to the scan

## Main results

* `cursor_run`: the cursor stays among the organizations
* `turn_subset_visited`: the scans of a run make one long turn
* `pursued_run`: whoever is visited when overdue is delinquent from then on
* `scanner_misses_nobody`: the scans that go round once
-/

open Bounded Dispatch TransitionSystem RoundRobin

namespace Organizations

variable {AccountId L C V : Type} [DecidableEq AccountId] {cfg : Config AccountId L C V}
  {s s' : State AccountId L C V} {id now : ℕ}

/-! ### The cursor -/

section Cursor

/-- The next scan starts among the organizations. -/
theorem scan_cursor_lt (cfg : Config AccountId L C V) (now cursor rounds : ℕ) {total i next : ℕ}
    (hnext : next < total) (s : State AccountId L C V) :
    (scan cfg now total cursor rounds i next s).2 < total := by
  have htotal : 0 < total := Nat.zero_lt_of_lt hnext
  induction rounds generalizing i next s with
  | zero => exact hnext
  | succ rounds ih =>
    simp only [scan]
    split
    · exact htotal
    · exact ih (Nat.mod_lt _ htotal) _

/-- A scan that does not go round moves the cursor on by as many as it looks at. -/
theorem scan_cursor (cfg : Config AccountId L C V) (now : ℕ) {total cursor rounds i next : ℕ}
    (hround : i + rounds < total) (hfits : cursor + (i + rounds) ≤ u32Max)
    (hnext : next = (cursor + i) % total) (s : State AccountId L C V) :
    (scan cfg now total cursor rounds i next s).2 = (cursor + (i + rounds)) % total := by
  induction rounds generalizing i next s with
  | zero => exact hnext
  | succ rounds ih =>
    have hshift : i + 1 + rounds = i + (rounds + 1) := by omega
    have hwrap : wrappingAdd u32Max (wrappingAdd u32Max cursor i) 1 = cursor + (i + 1) := by
      unfold wrappingAdd
      rw [Nat.mod_add_mod, Nat.add_assoc]
      exact Nat.mod_eq_of_lt (by omega)
    simp only [scan]
    rw [if_neg (by omega), ih (by omega) (by omega) (by rw [hwrap]), hshift]

omit [DecidableEq AccountId] in
/-- **The scan of a block takes its turn.** -/
theorem scannedOrgs_eq_turn (hfits : s.orgScanCursor + cfg.maxOrgsPerBlock ≤ u32Max) :
    scannedOrgs cfg s = turn s.nextOrgId s.orgScanCursor (min cfg.maxOrgsPerBlock s.nextOrgId) := by
  refine List.map_congr_left fun i hi => ?_
  have hlt := List.mem_range.mp hi
  unfold wrappingAdd
  rw [Nat.mod_eq_of_lt (a := s.orgScanCursor + i) (by omega)]

/-- The counters of the scanner stay where they are. -/
structure Still (s s' : State AccountId L C V) : Prop where
  nextOrgId : s'.nextOrgId = s.nextOrgId
  cursor : s'.orgScanCursor = s.orgScanCursor

omit [DecidableEq AccountId] in
theorem Still.trans {s₁ s₂ s₃ : State AccountId L C V} (h : Still s₁ s₂) (h' : Still s₂ s₃) :
    Still s₁ s₃ :=
  ⟨h'.nextOrgId.trans h.nextOrgId, h'.cursor.trans h.cursor⟩

theorem applyPunishment_still (cfg : Config AccountId L C V) (orgId now : ℕ)
    (s : State AccountId L C V) : Still s (applyPunishment cfg orgId now s).1 := by
  by_cases hpunishable : Punishable cfg now s orgId
  · obtain ⟨org, hget, hactive, hoverdue⟩ := hpunishable
    obtain ⟨debt, last, he⟩ := applyPunishment_of_punishable hget hactive hoverdue
    rw [he]
    exact ⟨rfl, rfl⟩
  · obtain ⟨debt, last, he⟩ := applyPunishment_of_not hpunishable
    rw [he]
    exact ⟨rfl, rfl⟩

theorem scanOrg_still (cfg : Config AccountId L C V) (now orgId : ℕ)
    (s : State AccountId L C V) : Still s (scanOrg cfg now orgId s) := by
  unfold scanOrg
  split
  · split
    · exact applyPunishment_still cfg orgId now s
    · exact ⟨rfl, rfl⟩
  · exact ⟨rfl, rfl⟩

theorem scan_still (cfg : Config AccountId L C V) (now : ℕ) (ids : List ℕ)
    (s : State AccountId L C V) : Still s (ids.foldl (fun s id => scanOrg cfg now id s) s) := by
  induction ids generalizing s with
  | nil => exact ⟨rfl, rfl⟩
  | cons id ids ih => exact (scanOrg_still cfg now id s).trans (ih _)

theorem onInitialize_nextOrgId (cfg : Config AccountId L C V) (now : ℕ)
    (s : State AccountId L C V) : (onInitialize cfg now s).nextOrgId = s.nextOrgId := by
  obtain ⟨cursor, he⟩ := onInitialize_eq cfg now s
  rw [he]
  exact (scan_still cfg now (scannedOrgs cfg s) s).nextOrgId

/-- The cursor is among the organizations after a scan. -/
theorem onInitialize_cursor_lt (h : s.orgScanCursor < max s.nextOrgId 1) :
    (onInitialize cfg now s).orgScanCursor < max s.nextOrgId 1 := by
  unfold onInitialize
  split
  · exact h
  · next hsome =>
    have hlt : s.orgScanCursor < s.nextOrgId := by omega
    exact (scan_cursor_lt cfg now s.orgScanCursor cfg.maxOrgsPerBlock hlt s).trans_le
      (Nat.le_max_left _ _)

/-- The cursor after a scan that does not go round. -/
theorem onInitialize_cursor (cfg : Config AccountId L C V) (now : ℕ) {s : State AccountId L C V}
    (hround : cfg.maxOrgsPerBlock < s.nextOrgId)
    (hfits : s.orgScanCursor + cfg.maxOrgsPerBlock ≤ u32Max)
    (hcursor : s.orgScanCursor < s.nextOrgId) :
    (onInitialize cfg now s).orgScanCursor =
      (s.orgScanCursor + cfg.maxOrgsPerBlock) % s.nextOrgId := by
  unfold onInitialize
  rw [if_neg (Nat.ne_zero_of_lt hround)]
  have hplaces : 0 + cfg.maxOrgsPerBlock < s.nextOrgId := by rwa [Nat.zero_add]
  have hscan := scan_cursor cfg now hplaces (by rwa [Nat.zero_add])
    (Nat.mod_eq_of_lt hcursor).symm s
  rwa [Nat.zero_add] at hscan

end Cursor

/-! ### The inputs between the scans -/

/-- The input is the scan of a block. -/
def RuntimeInput.isScan : RuntimeInput AccountId L C V → Bool
  | .org (.onInitialize _) => true
  | _ => false

/-- The input registers an organization. -/
def RuntimeInput.IsRegistration : RuntimeInput AccountId L C V → Prop
  | .org (.call _ (.registerOrganization ..)) => True
  | _ => False

instance : DecidablePred fun x : RuntimeInput AccountId L C V => x.IsRegistration := by
  intro x
  dsimp only
  unfold RuntimeInput.IsRegistration
  split <;> infer_instance

/-- The cursor is among the organizations, whose number is in its range. -/
structure CursorBounded (s : State AccountId L C V) : Prop where
  cursor : s.orgScanCursor < max s.nextOrgId 1
  next : s.nextOrgId ≤ u32Max

section Steps

variable [Currency AccountId L] {x : RuntimeInput AccountId L C V}

/-- **Neither counter moves between the scans and the registrations.** -/
theorem still_of_step (hscan : x.isScan = false) (hreg : ¬ x.IsRegistration)
    (h : runtimeStep cfg x s = .ok s') : Still s s' := by
  cases x with
  | elsewhere ledger citizens vaults =>
    obtain rfl := Except.ok.inj h
    exact ⟨rfl, rfl⟩
  | org x =>
    cases x with
    | onInitialize now => cases hscan
    | call ctx c =>
      cases c with
      | registerOrganization => exact absurd trivial hreg
      | activateOrganization orgId =>
        obtain ⟨-, -, org, -, -, -, -, ledger, -, deposits, -, rfl⟩ :=
          activateOrganization_eq_ok.mp h
        exact ⟨rfl, rfl⟩
      | addCrewMember orgId member role regionAssigned =>
        obtain ⟨-, -, -, -, -, -, -, -, rfl⟩ := addCrewMember_eq_ok.mp h
        exact ⟨rfl, rfl⟩
      | fileTaxReturn orgId regionId declaredProfit amount documentHash =>
        obtain ⟨-, declaration, ledger, -, -, hdeclare⟩ := fileTaxReturn_declareTax h
        obtain ⟨org, -, rfl⟩ := declareTax_eq_ok.mp hdeclare
        exact ⟨rfl, rfl⟩
      | reportTaxEvasion orgId =>
        obtain ⟨reporter, -, org, -, -, -, -, rfl⟩ := reportTaxEvasion_eq_ok.mp h
        exact (applyPunishment_still cfg orgId ctx.now s).trans ⟨rfl, rfl⟩
      | freezeOrganization orgId =>
        obtain ⟨-, org, -, rfl⟩ := freezeOrganization_eq_ok.mp h
        exact ⟨rfl, rfl⟩
      | fileTaxReturnZk orgId regionId declaredProfit nullifier commitment amountPaid
          documentHash =>
        obtain ⟨-, declaration, ledger, vaults, -, -, hdeclare⟩ := fileTaxReturnZk_declareTax h
        obtain ⟨org, -, rfl⟩ := declareTax_eq_ok.mp hdeclare
        exact ⟨rfl, rfl⟩
      | spendOrgFunds orgId beneficiary amount =>
        simp only [runtimeStep, step, dispatch, spendOrgFunds, ensureSigned_bind_eq_ok,
          ensure_bind_eq_ok, required_bind_eq_ok, ensureDirector_bind_eq_ok, mapError_bind_eq_ok,
          pure_eq_ok] at h
        obtain ⟨_, -, _, -, -, -, -, _, -, rfl⟩ := h
        exact ⟨rfl, rfl⟩

/-- What an input does to the number of organizations, if it registers none. -/
theorem nextOrgId_of_step (hreg : ¬ x.IsRegistration) (h : runtimeStep cfg x s = .ok s') :
    s'.nextOrgId = s.nextOrgId := by
  by_cases hscan : x.isScan = true
  · unfold RuntimeInput.isScan at hscan
    split at hscan
    · obtain rfl := Except.ok.inj h
      exact onInitialize_nextOrgId cfg _ s
    · cases hscan
  · exact (still_of_step (Bool.eq_false_of_not_eq_true hscan) hreg h).nextOrgId

/-- **What one input keeps.** -/
theorem cursorBounded_step (hs : CursorBounded s) (h : runtimeStep cfg x s = .ok s') :
    CursorBounded s' := by
  by_cases hreg : x.IsRegistration
  · -- one more organization, up to the end of the range
    unfold RuntimeInput.IsRegistration at hreg
    split at hreg
    · obtain ⟨caller, -, -, bounded, -, rfl⟩ := registerOrganization_eq_ok.mp h
      obtain ⟨hcursor, hnext⟩ := hs
      refine ⟨?_, Nat.min_le_right _ _⟩
      show s.orgScanCursor < max (saturatingAdd u32Max s.nextOrgId 1) 1
      have hmore : s.nextOrgId ≤ saturatingAdd u32Max s.nextOrgId 1 :=
        Nat.le_min.mpr ⟨Nat.le_succ _, hnext⟩
      omega
    · exact hreg.elim
  · have hnext := nextOrgId_of_step hreg h
    refine ⟨?_, hnext ▸ hs.next⟩
    rw [hnext]
    by_cases hscan : x.isScan = true
    · unfold RuntimeInput.isScan at hscan
      split at hscan
      · obtain rfl := Except.ok.inj h
        exact onInitialize_cursor_lt hs.cursor
      · cases hscan
    · rw [(still_of_step (Bool.eq_false_of_not_eq_true hscan) hreg h).cursor]
      exact hs.cursor

/-- **What every run keeps.** -/
theorem cursor_run (cfg : Config AccountId L C V) (ledger : L) (citizens : C) (vaults : V)
    (xs : List (RuntimeInput AccountId L C V)) :
    CursorBounded (run (runtimeStep cfg) xs (genesis ledger citizens vaults)) :=
  run_invariant (fun _ _ _ hs h => cursorBounded_step hs h) xs ⟨Nat.one_pos, Nat.zero_le _⟩

end Steps

/-! ### The organizations that are visited -/

/-- The organizations an input looks at in a scan. -/
def scanVisits (cfg : Config AccountId L C V) (s : State AccountId L C V) :
    RuntimeInput AccountId L C V → List ℕ
  | .org (.onInitialize _) => scannedOrgs cfg s
  | _ => []

section Visits

variable [Currency AccountId L]

/-- The organizations the scans of a run look at. -/
def visited (cfg : Config AccountId L C V) :
    List (RuntimeInput AccountId L C V) → State AccountId L C V → List ℕ
  | [], _ => []
  | x :: xs, s => scanVisits cfg s x ++ visited cfg xs (exec (runtimeStep cfg) x s)

/-- An input registers no organization, and the places a scan may look at are within the range. -/
def Unhindered (cfg : Config AccountId L C V) (s : State AccountId L C V)
    (x : RuntimeInput AccountId L C V) : Prop :=
  ¬ x.IsRegistration ∧ (x.isScan = true → s.orgScanCursor + cfg.maxOrgsPerBlock ≤ u32Max)

instance (s : State AccountId L C V) (x : RuntimeInput AccountId L C V) :
    Decidable (Unhindered cfg s x) := inferInstanceAs (Decidable (_ ∧ _))

variable {x : RuntimeInput AccountId L C V} {ys : List (RuntimeInput AccountId L C V)}

/-- An input is a scan, or it moves neither counter and looks at nothing. -/
theorem scan_or_still (h : ∀ s', runtimeStep cfg x s = .ok s' → Unhindered cfg s x) :
    (∃ now, x = .org (.onInitialize now)) ∨
      x.isScan = false ∧ Still s (exec (runtimeStep cfg) x s) ∧
        scanVisits cfg s x = [] := by
  by_cases hscan : x.isScan = true
  · left
    unfold RuntimeInput.isScan at hscan
    split at hscan
    · exact ⟨_, rfl⟩
    · cases hscan
  · have hfalse := Bool.eq_false_of_not_eq_true hscan
    refine Or.inr ⟨hfalse, ?_, ?_⟩
    · rcases exec_cases (runtimeStep cfg) x s with ⟨t, ht, he⟩ | ⟨_, _, he⟩
      · rw [he]
        exact still_of_step hfalse (h t ht).1 ht
      · rw [he]
        exact ⟨rfl, rfl⟩
    · unfold scanVisits
      split
      · cases hfalse
      · rfl

/-- **The scans that do not go round make one long turn.** -/
theorem turn_subset_visited (hround : cfg.maxOrgsPerBlock < s.nextOrgId)
    (hcursor : s.orgScanCursor < s.nextOrgId) (h : Along (runtimeStep cfg) (Unhindered cfg) ys s) :
    turn s.nextOrgId s.orgScanCursor (ys.countP RuntimeInput.isScan * cfg.maxOrgsPerBlock) ⊆
      visited cfg ys s := by
  -- on the inputs; the turns of the scans are put together
  induction ys generalizing s with
  | nil =>
    intro id hid
    rw [List.countP_nil, Nat.zero_mul] at hid
    cases hid
  | cons y ys ih =>
    obtain ⟨hfirst, hrest⟩ := h
    rcases scan_or_still hfirst with ⟨now, rfl⟩ | ⟨hfalse, hstill, hnone⟩
    · have hfits := (hfirst _ rfl).2 rfl
      have hstep : exec (runtimeStep cfg) (.org (.onInitialize now)) s = onInitialize cfg now s :=
        rfl
      rw [hstep] at hrest
      have hnext := onInitialize_nextOrgId cfg now s
      have hmoved := onInitialize_cursor cfg now hround hfits hcursor
      have hlater := ih (hnext ▸ hround)
        (by rw [hmoved, hnext]; exact Nat.mod_lt _ (Nat.zero_lt_of_lt hcursor)) hrest
      rw [hnext, hmoved] at hlater
      -- the turn of this scan, and that of the others
      rw [List.countP_cons_of_pos rfl, Nat.succ_mul, Nat.add_comm, turn_add, visited, hstep]
      refine List.append_subset.mpr ⟨?_, fun id hid => List.mem_append_right _ (hlater hid)⟩
      intro id hid
      refine List.mem_append_left _ ?_
      rw [scanVisits, scannedOrgs_eq_turn hfits, Nat.min_eq_left hround.le]
      exact hid
    · have hlater := ih (hstill.nextOrgId ▸ hround)
        (by rw [hstill.cursor, hstill.nextOrgId]; exact hcursor) hrest
      rw [hstill.cursor, hstill.nextOrgId] at hlater
      rw [List.countP_cons_of_neg (by rw [hfalse]; exact Bool.false_ne_true), visited, hnone]
      exact hlater

/-- One scan that goes round visits everybody. -/
theorem mem_visited_of_round (hround : s.nextOrgId ≤ cfg.maxOrgsPerBlock) (hid : id < s.nextOrgId)
    (hscan : ys.countP RuntimeInput.isScan ≠ 0)
    (h : Along (runtimeStep cfg) (Unhindered cfg) ys s) :
    id ∈ visited cfg ys s := by
  induction ys generalizing s with
  | nil => exact absurd rfl hscan
  | cons y ys ih =>
    obtain ⟨hfirst, hrest⟩ := h
    rcases scan_or_still hfirst with ⟨now, rfl⟩ | ⟨hfalse, hstill, hnone⟩
    · refine List.mem_append_left _ ?_
      rw [scanVisits, scannedOrgs_eq_turn ((hfirst _ rfl).2 rfl), Nat.min_eq_right hround]
      exact mem_turn (Nat.le_refl _) hid
    · have hnext := hstill.nextOrgId
      rw [List.countP_cons_of_neg (by rw [hfalse]; exact Bool.false_ne_true)] at hscan
      exact List.mem_append_right _ (ih (hnext ▸ hround) (hnext ▸ hid) hscan hrest)

/-- **Scans that are together as long as the round visit everybody.** -/
theorem mem_visited (hcursor : s.orgScanCursor < max s.nextOrgId 1) (hid : id < s.nextOrgId)
    (hscans : s.nextOrgId ≤ ys.countP RuntimeInput.isScan * cfg.maxOrgsPerBlock)
    (h : Along (runtimeStep cfg) (Unhindered cfg) ys s) : id ∈ visited cfg ys s := by
  rcases Nat.lt_or_ge cfg.maxOrgsPerBlock s.nextOrgId with hlt | hge
  · exact turn_subset_visited hlt (by omega) h (mem_turn hscans hid)
  · refine mem_visited_of_round hge hid ?_ h
    intro hzero
    rw [hzero, Nat.zero_mul] at hscans
    omega

end Visits

/-! ### Who is pursued -/

section Pursuit

omit [DecidableEq AccountId] in
/-- An organization is active and overdue by a block, in terms of its standing. -/
theorem punishable_iff : Punishable cfg now s id ↔ s.status id = some .active ∧
    ∃ last, s.lastPaid id = some last ∧ cfg.taxPeriodBlocks < now - last := by
  constructor
  · rintro ⟨org, hget, hactive, hoverdue⟩
    exact ⟨by rw [status_of_get hget, hactive], _, lastPaid_of_get hget, hoverdue⟩
  · rintro ⟨hstatus, last, hlast, hoverdue⟩
    obtain ⟨org, hget, hactive⟩ := Option.map_eq_some_iff.mp hstatus
    obtain rfl := Option.some.inj ((lastPaid_of_get hget).symm.trans hlast)
    exact ⟨org, hget, hactive, hoverdue⟩

omit [DecidableEq AccountId] in
/-- Who is overdue by a block is overdue by the later ones. -/
theorem Punishable.later {now' : ℕ} (h : Punishable cfg now s id) (hle : now ≤ now') :
    Punishable cfg now' s id := by
  obtain ⟨org, hget, hactive, hoverdue⟩ := h
  exact ⟨org, hget, hactive, Nat.lt_of_lt_of_le hoverdue (Nat.sub_le_sub_right hle _)⟩

/-- An organization is delinquent, or active and overdue by a block. -/
def Pursued (cfg : Config AccountId L C V) (now : ℕ) (s : State AccountId L C V) (id : ℕ) : Prop :=
  s.status id = some .delinquent ∨ Punishable cfg now s id

omit [DecidableEq AccountId] in
/-- A pursued organization stays so while it is detected at most and does not pay. -/
theorem Pursued.of_status (h : Pursued cfg now s id)
    (hstatus : s'.status id = s.status id ∨ s.status id = some .pending ∨ Detected s s' id)
    (hpaid : s'.lastPaid id = s.lastPaid id) :
    Pursued cfg now s' id ∧
      (s.status id = some .delinquent → s'.status id = some .delinquent) := by
  rcases hstatus with hsame | hpending | hdetected
  · refine ⟨?_, fun hdelinquent => hsame.trans hdelinquent⟩
    rcases h with hdelinquent | hpunishable
    · exact Or.inl (hsame.trans hdelinquent)
    · rw [punishable_iff] at hpunishable
      exact Or.inr (punishable_iff.mpr (by rw [hsame, hpaid]; exact hpunishable))
  · -- a pending organization is not pursued
    exfalso
    rcases h with hdelinquent | hpunishable
    · rw [hpending] at hdelinquent
      cases hdelinquent
    · rw [punishable_iff, hpending] at hpunishable
      cases hpunishable.1
  · exact ⟨Or.inl hdetected.2, fun _ => hdetected.2⟩

/-- One organization of the scan. -/
theorem scanOrg_pursued (cfg : Config AccountId L C V) (orgId : ℕ) (h : Pursued cfg now s id) :
    Pursued cfg now (scanOrg cfg now orgId s) id ∧
      (s.status id = some .delinquent ∨ id = orgId →
        (scanOrg cfg now orgId s).status id = some .delinquent) := by
  have hpaid : (scanOrg cfg now orgId s).lastPaid id = s.lastPaid id :=
    scan_lastPaid cfg now [orgId] s
  have hstatus := (scanOrg_scanned cfg now orgId s).status id
  have hkept := h.of_status (hstatus.imp_right Or.inr) hpaid
  refine ⟨hkept.1, ?_⟩
  rintro (hdelinquent | rfl)
  · exact hkept.2 hdelinquent
  · rcases h with hdelinquent | hpunishable
    · exact hkept.2 hdelinquent
    -- whoever is punishable is not frozen, and is punished
    · have ⟨org, hget, hactive, _⟩ := hpunishable
      have hfrozen : org.status ≠ .frozen := by
        rw [hactive]
        decide
      simp only [scanOrg, hget, if_pos hfrozen]
      exact (applyPunishment_detected hpunishable).2

/-- **Whoever is visited when overdue becomes delinquent.** -/
theorem scan_pursued (cfg : Config AccountId L C V) (ids : List ℕ) (h : Pursued cfg now s id) :
    let s' := ids.foldl (fun s id => scanOrg cfg now id s) s
    Pursued cfg now s' id ∧
      (s.status id = some .delinquent ∨ id ∈ ids → s'.status id = some .delinquent) := by
  induction ids generalizing s with
  | nil =>
    refine ⟨h, ?_⟩
    rintro (hdelinquent | hid)
    · exact hdelinquent
    · cases hid
  | cons orgId ids ih =>
    obtain ⟨hfirst, hcaught⟩ := scanOrg_pursued cfg orgId h
    obtain ⟨hrest, hdelinquent⟩ := ih hfirst
    refine ⟨hrest, fun hid => hdelinquent ?_⟩
    rcases hid with hid | hid
    · exact Or.inl (hcaught (Or.inl hid))
    · rcases List.mem_cons.mp hid with rfl | hid
      · exact Or.inl (hcaught (Or.inr rfl))
      · exact Or.inr hid

/-- An input leaves an organization that is overdue by a block to the scan: a scan is not in an
earlier block, and nobody files a tax return for the organization or freezes it. -/
def LeavesToScan (now id : ℕ) : RuntimeInput AccountId L C V → Prop
  | .org (.onInitialize now') => now ≤ now'
  | .org (.call _ (.freezeOrganization orgId)) => orgId ≠ id
  | x => x.filed ≠ some id

omit [DecidableEq AccountId] in
theorem LeavesToScan.not_filed {x : RuntimeInput AccountId L C V} (h : LeavesToScan now id x) :
    x.filed ≠ some id := by
  unfold LeavesToScan at h
  split at h
  · exact nofun
  · exact nofun
  · exact h

omit [DecidableEq AccountId] in
/-- A tax return leaves the standing of the other organizations. -/
theorem status_of_declareTax {declaration : TaxDeclaration} {ledger : L} {vaults : V}
    (h : declareTax declaration { s with vaults := vaults, ledger := ledger } = .ok s')
    (hid : declaration.orgId ≠ id) : s'.status id = s.status id := by
  obtain ⟨org, -, rfl⟩ := declareTax_eq_ok.mp h
  rw [status_insert rfl, if_neg (Ne.symm hid)]
  rfl

variable [Currency AccountId L] {x : RuntimeInput AccountId L C V}

/-- The standing of an organization that is left to the scan. -/
theorem status_of_leaves (hleaves : LeavesToScan now id x) (hreg : ¬ x.IsRegistration)
    (h : runtimeStep cfg x s = .ok s') :
    s'.status id = s.status id ∨ s.status id = some .pending ∨ Detected s s' id := by
  have hsame : s'.organizations = s.organizations → s'.status id = s.status id := fun h => by
    rw [State.status, h, State.status]
  have hfiled := hleaves.not_filed
  cases x with
  | elsewhere ledger citizens vaults =>
    obtain rfl := Except.ok.inj h
    exact Or.inl rfl
  | org x =>
    cases x with
    | onInitialize now' =>
      obtain rfl := Except.ok.inj h
      exact ((onInitialize_scanned cfg now' s).status id).imp_right Or.inr
    | call ctx c =>
      cases c with
      | registerOrganization => exact absurd trivial hreg
      | activateOrganization orgId =>
        obtain ⟨org, hget, hpending, hkept | hactive⟩ := activateOrganization_organizations h
        · exact Or.inl (hsame hkept)
        · -- who is activated was pending
          by_cases hid : id = orgId
          · rw [hid]
            exact Or.inr (Or.inl (by rw [status_of_get hget, hpending]))
          · exact Or.inl (by rw [status_insert hactive, if_neg hid])
      | addCrewMember orgId member role regionAssigned =>
        exact Or.inl (hsame (addCrewMember_organizations h))
      | fileTaxReturn orgId regionId declaredProfit amount documentHash =>
        obtain ⟨-, declaration, ledger, rfl, -, hdeclare⟩ := fileTaxReturn_declareTax h
        -- whoever files is another organization
        exact Or.inl (status_of_declareTax hdeclare fun he => hfiled (congrArg some he))
      | reportTaxEvasion orgId =>
        obtain ⟨reporter, -, org, -, -, -, -, rfl⟩ := reportTaxEvasion_eq_ok.mp h
        exact ((applyPunishment_scanned cfg orgId ctx.now s).status id).imp_right Or.inr
      | freezeOrganization orgId =>
        obtain ⟨-, org, -, rfl⟩ := freezeOrganization_eq_ok.mp h
        exact Or.inl (by rw [status_insert rfl, if_neg (Ne.symm hleaves)])
      | fileTaxReturnZk orgId regionId declaredProfit nullifier commitment amountPaid
          documentHash =>
        obtain ⟨-, declaration, ledger, vaults, rfl, -, hdeclare⟩ := fileTaxReturnZk_declareTax h
        exact Or.inl (status_of_declareTax hdeclare fun he => hfiled (congrArg some he))
      | spendOrgFunds orgId beneficiary amount =>
        exact Or.inl (hsame (spendOrgFunds_organizations h))

/-- **Step lemma.** A pursued organization stays so, and is delinquent once it is visited. -/
theorem pursued_step (hleaves : LeavesToScan now id x) (hreg : ¬ x.IsRegistration)
    (hs : Pursued cfg now s id) (h : runtimeStep cfg x s = .ok s') :
    Pursued cfg now s' id ∧
      (s.status id = some .delinquent ∨ id ∈ scanVisits cfg s x →
        s'.status id = some .delinquent) := by
  have hnew : ¬ Registers id s x := by
    intro hregisters
    unfold Registers at hregisters
    split at hregisters
    · exact hreg trivial
    · exact hregisters
  have hpaid := lastPaid_of_step hleaves.not_filed hnew h
  obtain ⟨hkept, hdelinquent⟩ := hs.of_status (status_of_leaves hleaves hreg h) hpaid
  refine ⟨hkept, ?_⟩
  rintro (hstatus | hvisited)
  · exact hdelinquent hstatus
  · unfold scanVisits at hvisited
    split at hvisited
    · next now' =>
      -- the scan finds the organization overdue
      obtain rfl := Except.ok.inj h
      obtain ⟨cursor, he⟩ := onInitialize_eq cfg now' s
      have hscan := scan_pursued cfg (scannedOrgs cfg s)
        (hs.imp_right fun hpunishable => hpunishable.later hleaves)
      rw [he]
      exact hscan.2 (Or.inr hvisited)
    · cases hvisited

/-- **Run lemma.** A pursued organization that the scans of a run visit is delinquent then. -/
theorem pursued_run {ys : List (RuntimeInput AccountId L C V)}
    (h : Along (runtimeStep cfg) (fun _ x => LeavesToScan now id x ∧ ¬ x.IsRegistration) ys s)
    (hs : Pursued cfg now s id)
    (hvisited : s.status id = some .delinquent ∨ id ∈ visited cfg ys s) :
    (run (runtimeStep cfg) ys s).status id = some .delinquent := by
  induction ys generalizing s with
  | nil =>
    rcases hvisited with hstatus | hvisited
    · exact hstatus
    · cases hvisited
  | cons y ys ih =>
    obtain ⟨hfirst, hrest⟩ := h
    rcases exec_cases (runtimeStep cfg) y s with ⟨t, ht, he⟩ | ⟨e, ht, he⟩
    · obtain ⟨hleaves, hreg⟩ := hfirst t ht
      obtain ⟨hkept, hdelinquent⟩ := pursued_step hleaves hreg hs ht
      rw [run_cons, he]
      rw [he] at hrest
      refine ih hrest hkept ?_
      rcases hvisited with hstatus | hvisited
      · exact Or.inl (hdelinquent (Or.inl hstatus))
      · rw [visited, he, List.mem_append] at hvisited
        exact hvisited.imp (fun hvisited => hdelinquent (Or.inr hvisited)) fun hlater => hlater
    · rw [run_cons, he]
      rw [he] at hrest
      refine ih hrest hs ?_
      rcases hvisited with hstatus | hvisited
      · exact Or.inl hstatus
      · rw [visited, he, List.mem_append] at hvisited
        refine Or.inr (hvisited.resolve_left fun hvisited => ?_)
        -- a scan is not refused
        unfold scanVisits at hvisited
        split at hvisited
        · cases ht
        · cases hvisited

end Pursuit

/-! ### The scans that go round once -/

/-- **The scanner misses nobody.** In a state that a run has reached, the cursor is among the
organizations, if there are any, and the scan of a block visits none of them twice. As many scans
as go round the organizations, with whatever else between them that registers none, visit all of
them; and whoever was active and overdue by the first of them, and is left to the scan, is
delinquent after the last. -/
theorem scanner_misses_nobody [Currency AccountId L] (cfg : Config AccountId L C V) (ledger : L)
    (citizens : C) (vaults : V) (xs : List (RuntimeInput AccountId L C V))
    (hmax : 0 < cfg.maxOrgsPerBlock) :
    let s := run (runtimeStep cfg) xs (genesis ledger citizens vaults)
    (0 < s.nextOrgId → s.orgScanCursor < s.nextOrgId) ∧
      (s.orgScanCursor + cfg.maxOrgsPerBlock ≤ u32Max → (scannedOrgs cfg s).Nodup) ∧
        (∀ now, ∃ cursor, onInitialize cfg now s =
          { (scannedOrgs cfg s).foldl (fun s id => scanOrg cfg now id s) s with
            orgScanCursor := cursor }) ∧
          ∀ ys, Along (runtimeStep cfg) (Unhindered cfg) ys s →
            s.nextOrgId ⌈/⌉ cfg.maxOrgsPerBlock ≤ ys.countP RuntimeInput.isScan →
              ∀ id < s.nextOrgId, id ∈ visited cfg ys s ∧
                ∀ now, Punishable cfg now s id →
                  Along (runtimeStep cfg) (fun _ x => LeavesToScan now id x) ys s →
                    (run (runtimeStep cfg) ys s).status id = some .delinquent := by
  intro s
  have hs := cursor_run cfg ledger citizens vaults xs
  refine ⟨fun hpos => ?_, fun hfits => ?_, fun now => onInitialize_eq cfg now s, ?_⟩
  · have hcursor := hs.cursor
    rwa [Nat.max_eq_left hpos] at hcursor
  · rw [scannedOrgs_eq_turn hfits]
    exact nodup_turn (Nat.min_le_right _ _)
  · intro ys hys hscans id hid
    rw [ceilDiv_le_iff_le_mul hmax, Nat.mul_comm] at hscans
    have hvisited := mem_visited hs.cursor hid hscans hys
    refine ⟨hvisited, fun now hpunishable hleaves => ?_⟩
    refine pursued_run ?_ (Or.inr hpunishable) (Or.inr hvisited)
    exact (hleaves.and hys).imp fun _ _ h => ⟨h.1, h.2.1⟩

/-- A scan of one organization a block. -/
def oneABlock : Config ℕ (Runtime.NativeLedger ℕ) (Identity.State ℕ Unit)
    (ShieldedVaults.State Unit) :=
  { Runtime.orgs with maxOrgsPerBlock := 1 }

/-- The accounts 7 and 8 found an organization each. -/
def twoFounded : List (RuntimeInput ℕ (Runtime.NativeLedger ℕ) (Identity.State ℕ Unit)
    (ShieldedVaults.State Unit)) :=
  [.org (Runtime.orgCall 7 0 (.registerOrganization [] 0 1)),
    .org (Runtime.orgCall 8 0 (.registerOrganization [] 0 1)),
    .org (Runtime.orgCall 7 0 (.activateOrganization 0)),
    .org (Runtime.orgCall 8 0 (.activateOrganization 1))]

/-- Two scans after the tax period, with a call between them. -/
def twoScans : List (RuntimeInput ℕ (Runtime.NativeLedger ℕ) (Identity.State ℕ Unit)
    (ShieldedVaults.State Unit)) :=
  [.org (.onInitialize 5256001),
    .org (Runtime.orgCall 8 5256001 (.addCrewMember 1 9 .employee 0)),
    .org (.onInitialize 5256002)]

/-- Both organizations are delinquent after the second scan. -/
theorem scanner_twoScans :
    let s := run (runtimeStep oneABlock) twoFounded Runtime.orgGenesis
    ∀ id < 2, (run (runtimeStep oneABlock) twoScans s).status id = some .delinquent := by
  intro s id hid
  have hs : s.nextOrgId = 2 ∧ (∀ id < 2, s.status id = some .active ∧ s.lastPaid id = some 0) ∧
      Along (runtimeStep oneABlock) (Unhindered oneABlock) twoScans s := by decide +kernel
  obtain ⟨hnext, hstanding, hquiet⟩ := hs
  obtain ⟨hactive, hpaid⟩ := hstanding id hid
  obtain ⟨-, -, -, hround⟩ := scanner_misses_nobody oneABlock
    (Balances.ofFree ([3, 7, 8].map fun account => (account, 1000 * CentralBank.unit)))
    (Identity.genesis ()) (ShieldedVaults.genesis ()) twoFounded (by decide)
  refine (hround twoScans hquiet ?_ id (hid.trans_eq hnext.symm)).2 5256001 ?_ ?_
  · rw [ceilDiv_le_iff_le_mul (by decide)]
    exact hnext.le
  · exact punishable_iff.mpr ⟨hactive, 0, hpaid, by decide⟩
  · refine along_of_mem fun x hx => ?_
    simp only [twoScans, List.mem_cons, List.not_mem_nil, or_false] at hx
    rcases hx with rfl | rfl | rfl
    · exact Nat.le_refl _
    · exact nofun
    · exact Nat.le_succ _

end Organizations
