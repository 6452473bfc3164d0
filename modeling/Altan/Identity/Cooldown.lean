import Altan.Identity.Spec

/-!
# The cooldown after leaving an Arbad

Who leaves an Arbad shall be in no new one for a time. The block of the last leave is recorded, and
looked up for the members of a new Arbad: not for who forms it, nor for a couple.

## Main definitions

* `Movement`, `recordMovement`: who has left, who has formed an Arbad, and when
* `Orderly`: everybody in an Arbad has waited
* `CooledDown`: those have waited that nobody looks up

## Main results

* `orderly_iff`: the cooldown is kept in exactly the runs where those have waited that nobody looks
  up
-/

open Bounded Dispatch Ledger TransitionSystem Runtime

namespace Identity

variable {AccountId L : Type}

/-! ### The history -/

/-- A leave from an Arbad, or a new Arbad with its people, in a block. -/
inductive Movement (AccountId : Type)
  | left (who : AccountId) (block : ℕ)
  | formed (people : List AccountId) (block : ℕ)
  deriving DecidableEq

/-- What an accepted input adds to the history, the latest first. -/
def recordMovement [DecidableEq AccountId] (w : World AccountId L) (x : Input AccountId)
    (history : List (Movement AccountId)) : List (Movement AccountId) :=
  match x.deed with
  | .leave who _ => .left who w.now :: history
  | .arbad _ leader members => .formed (leader :: members) w.now :: history
  | _ => history

/-- Who is in a new Arbad has waited since an earlier leave. -/
def Waits (period : ℕ) : Movement AccountId → Movement AccountId → Prop
  | .formed people block, .left who leave => who ∈ people → leave + period ≤ block
  | _, _ => True

instance [DecidableEq AccountId] (period : ℕ) : (later earlier : Movement AccountId) →
    Decidable (Waits period later earlier)
  | .formed people block, .left who leave =>
    inferInstanceAs (Decidable (who ∈ people → leave + period ≤ block))
  | .left .., .left .. => isTrue trivial
  | .left .., .formed .. => isTrue trivial
  | .formed .., .formed .. => isTrue trivial

/-- Everybody who was in a new Arbad had waited since each leave before. -/
def Orderly (period : ℕ) (history : List (Movement AccountId)) : Prop :=
  history.Pairwise (Waits period)

instance [DecidableEq AccountId] (period : ℕ) (history : List (Movement AccountId)) :
    Decidable (Orderly period history) := inferInstanceAs (Decidable (List.Pairwise _ _))

theorem orderly_cons_left {period : ℕ} {who : AccountId} {block : ℕ}
    {history : List (Movement AccountId)} :
    Orderly period (.left who block :: history) ↔ Orderly period history := by
  unfold Orderly
  rw [List.pairwise_cons]
  apply and_iff_right
  intro movement _
  cases movement <;> trivial

theorem orderly_cons_formed {period : ℕ} {people : List AccountId} {block : ℕ}
    {history : List (Movement AccountId)} :
    Orderly period (.formed people block :: history) ↔
      (∀ who ∈ people, ∀ leave, Movement.left who leave ∈ history → leave + period ≤ block) ∧
        Orderly period history := by
  unfold Orderly
  rw [List.pairwise_cons]
  apply and_congr_left
  intro _
  constructor
  · intro h who hwho leave hleave
    exact h _ hleave hwho
  · intro h movement hmovement
    cases movement with
    | left who leave => exact fun hwho => h who hwho leave hmovement
    | formed => trivial

/-! ### Who is looked up -/

variable [DecidableEq AccountId]

/-- An account has waited since the leave that is recorded of it. -/
def HasWaited (period now : ℕ) (c : Civics AccountId) (who : AccountId) : Prop :=
  ∀ leave ∈ c.lastArbadLeave.get who, leave + period ≤ now

instance (period now : ℕ) (c : Civics AccountId) (who : AccountId) :
    Decidable (HasWaited period now c who) := inferInstanceAs (Decidable (∀ _ ∈ _, _))

/-- Who leads a new Arbad has waited, and so have the members of that of a couple; the members of
another are looked up while the blocks are in range. -/
def CooledDown (period now : ℕ) (c : Civics AccountId) : Deed AccountId → Prop
  | .arbad family leader members => HasWaited period now c leader ∧
    (family = true ∨ u32Max ≤ now → ∀ m ∈ members, HasWaited period now c m)
  | _ => True

instance (period now : ℕ) (c : Civics AccountId) :
    (d : Deed AccountId) → Decidable (CooledDown period now c d)
  | .arbad _ _ _ => inferInstanceAs (Decidable (_ ∧ _))
  | .registration .. | .birth .. | .verification .. | .appointment .. | .zun .. | .myangad ..
  | .tumed .. | .khural .. | .confederation .. | .leave .. | .other => isTrue trivial

/-- What is looked up of the members makes sure that they have waited. -/
theorem hasWaited_of_check {period now : ℕ} {c : Civics AccountId} {who : AccountId}
    (hnow : now < u32Max) (h : ∀ leave, c.lastArbadLeave.get who = some leave →
      saturatingAdd u32Max leave period ≤ now) : HasWaited period now c who := by
  intro leave hleave
  have hle := h leave hleave
  unfold saturatingAdd at hle
  omega

theorem forall_hasWaited_iff {period now : ℕ} {c c' : Civics AccountId} {family : Bool}
    {leader : AccountId} {members : List AccountId}
    (h : Effect period now (.arbad family leader members) c c') :
    (∀ who ∈ leader :: members, HasWaited period now c who) ↔
      CooledDown period now c (.arbad family leader members) := by
  rw [List.forall_mem_cons]
  apply and_congr_right
  intro _
  constructor
  · intro hmembers _
    exact hmembers
  · intro hmembers
    by_cases hlookup : family = true ∨ u32Max ≤ now
    · exact hmembers hlookup
    · rw [not_or, Bool.not_eq_true, Nat.not_le] at hlookup
      cases h with
      | arbad _ _ _ hcooldown =>
        intro m hm
        exact hasWaited_of_check hlookup.2 (hcooldown hlookup.1 m hm)

/-! ### What is recorded -/

/-- The deeds other than a leave keep what is recorded of leaves. -/
theorem Effect.sameLeaves {period now : ℕ} {d : Deed AccountId} {c c' : Civics AccountId}
    (h : Effect period now d c c') (hd : ∀ who arbadId, d ≠ .leave who arbadId) :
    c'.lastArbadLeave = c.lastArbadLeave := by
  cases h with
  | leave => exact absurd rfl (hd _ _)
  | _ => rfl

theorem left_mem_recordMovement {w : World AccountId L} {x : Input AccountId}
    {history : List (Movement AccountId)} (hd : ∀ who arbadId, x.deed ≠ .leave who arbadId)
    {who : AccountId} {leave : ℕ} :
    Movement.left who leave ∈ recordMovement w x history ↔
      Movement.left who leave ∈ history := by
  unfold recordMovement
  split
  · next hleave => exact absurd hleave (hd _ _)
  · simp
  · rfl

/-- The leave that is recorded of an account is in the history, and none there is later. -/
structure Recalled (t : World AccountId L × List (Movement AccountId)) : Prop where
  past : ∀ who leave, Movement.left who leave ∈ t.2 → leave ≤ t.1.now
  last : ∀ who leave, Movement.left who leave ∈ t.2 →
    ∃ last, t.1.lastArbadLeave.get who = some last ∧ leave ≤ last
  recorded : ∀ who last, t.1.lastArbadLeave.get who = some last → Movement.left who last ∈ t.2

/-- Who has waited since the last leave has since every leave. -/
theorem Recalled.hasWaited_iff {t : World AccountId L × List (Movement AccountId)}
    (h : Recalled t) {period : ℕ} {who : AccountId} :
    HasWaited period t.1.now t.1.civics who ↔
      ∀ leave, Movement.left who leave ∈ t.2 → leave + period ≤ t.1.now := by
  constructor
  · intro hwaited leave hleave
    obtain ⟨last, hlast, hle⟩ := h.last who leave hleave
    exact (Nat.add_le_add_right hle period).trans (hwaited last hlast)
  · intro hall last hlast
    exact hall last (h.recorded who last hlast)

/-- What is recorded stays recalled as long as nobody leaves. -/
theorem Recalled.keep {w w' : World AccountId L} {history history' : List (Movement AccountId)}
    (h : Recalled (w, history)) (hnow : w.now ≤ w'.now)
    (hleaves : w'.lastArbadLeave = w.lastArbadLeave)
    (hhistory : ∀ who leave,
      Movement.left who leave ∈ history' ↔ Movement.left who leave ∈ history) :
    Recalled (w', history') where
  past who leave hleave := (h.past who leave ((hhistory who leave).mp hleave)).trans hnow
  last who leave hleave := by
    rw [hleaves]
    exact h.last who leave ((hhistory who leave).mp hleave)
  recorded who last hlast := by
    rw [hleaves] at hlast
    exact (hhistory who last).mpr (h.recorded who last hlast)

/-- A leave is the last of who leaves, whatever he has left before. -/
theorem Recalled.leave {w w' : World AccountId L} {history : List (Movement AccountId)}
    {leaver : AccountId} (h : Recalled (w, history)) (hnow : w.now ≤ w'.now)
    (hleaves : w'.lastArbadLeave = w.lastArbadLeave.insert leaver w.now) :
    Recalled (w', .left leaver w.now :: history) where
  past who leave hleave := by
    rcases List.mem_cons.mp hleave with heq | hleave
    · cases heq
      exact hnow
    · exact (h.past who leave hleave).trans hnow
  last who leave hleave := by
    rw [hleaves, StorageMap.get_insert]
    split
    · refine ⟨w.now, rfl, ?_⟩
      rcases List.mem_cons.mp hleave with heq | hleave
      · cases heq
        exact Nat.le_refl _
      · exact h.past who leave hleave
    · next hne =>
      rcases List.mem_cons.mp hleave with heq | hleave
      · cases heq
        exact absurd rfl hne
      · exact h.last who leave hleave
  recorded who last hlast := by
    rw [hleaves] at hlast
    rcases StorageMap.get_insert_cases hlast with ⟨rfl, rfl⟩ | ⟨-, hlast⟩
    · exact List.mem_cons_self
    · exact List.mem_cons_of_mem _ (h.recorded who last hlast)

theorem recalled_genesis (ledger : L) (now : ℕ) :
    Recalled (World.genesis ledger now, ([] : List (Movement AccountId))) where
  past _ _ h := by cases h
  last _ _ h := by cases h
  recorded who last h := by
    rw [show (World.genesis ledger now).lastArbadLeave.get who = none from
      StorageMap.get_empty who] at h
    cases h

section Runs

variable [Currency AccountId L] [ReservableCurrency AccountId L] {cfg : Config AccountId L}
  {x : Input AccountId} {t t' : World AccountId L × List (Movement AccountId)}

/-- The blocks go on. -/
theorem now_le_of_step {w w' : World AccountId L} (h : step cfg x w = .ok w') :
    w.now ≤ w'.now := by
  cases x with
  | block =>
    rw [← Except.ok.inj h]
    exact Nat.le_succ _
  | call origin c =>
    simp only [step, bind_eq_ok, pure_eq_ok] at h
    obtain ⟨s, -, rfl⟩ := h
    exact Nat.le_refl _
  | doFreezeCitizen who | doUnfreezeCitizen who | doDemoteToRegular who | doExile who =>
    simp only [step, bind_eq_ok, pure_eq_ok] at h
    obtain ⟨s, -, rfl⟩ := h
    exact Nat.le_refl _

theorem recalled_step (h : Recalled t) (hs : recording recordMovement (step cfg) x t = .ok t') :
    Recalled t' := by
  obtain ⟨w, history⟩ := t
  obtain ⟨w', history'⟩ := t'
  obtain ⟨hs, rfl⟩ := recording_eq_ok.mp hs
  have heffect := step_effect hs
  have hnow := now_le_of_step hs
  by_cases hd : ∀ who arbadId, x.deed ≠ .leave who arbadId
  · exact h.keep hnow (heffect.sameLeaves hd) fun _ _ => left_mem_recordMovement hd
  · simp only [not_forall, not_not] at hd
    obtain ⟨leaver, arbadId, hd⟩ := hd
    have hhistory : recordMovement w x history = .left leaver w.now :: history := by
      unfold recordMovement
      rw [hd]
    have hleaves : w'.lastArbadLeave = w.lastArbadLeave.insert leaver w.now := by
      rw [hd] at heffect
      generalize hc' : w'.civics = c' at heffect
      have hc'leaves : c'.lastArbadLeave = w.lastArbadLeave.insert leaver w.now := by
        cases heffect
        rfl
      rw [← hc'leaves, ← hc']
      rfl
    rw [hhistory]
    exact h.leave hnow hleaves

/-- **One input keeps the cooldown just if those have waited whom nobody looks up.** -/
theorem orderly_step_iff (h : Recalled t) (ho : Orderly cfg.arbadCooldownPeriod t.2)
    (hs : recording recordMovement (step cfg) x t = .ok t') :
    Orderly cfg.arbadCooldownPeriod t'.2 ↔
      CooledDown cfg.arbadCooldownPeriod t.1.now t.1.civics x.deed := by
  obtain ⟨w, history⟩ := t
  obtain ⟨hs, hhistory⟩ := recording_eq_ok.mp hs
  have heffect := step_effect hs
  rw [hhistory]
  unfold recordMovement
  cases hd : x.deed with
  | leave => exact iff_of_true (orderly_cons_left.mpr ho) trivial
  | arbad family leader members =>
    rw [hd] at heffect
    rw [orderly_cons_formed, and_iff_left ho, ← forall_hasWaited_iff heffect]
    refine forall₂_congr fun who _ => ?_
    exact h.hasWaited_iff.symm
  | _ => exact iff_of_true ho trivial

/-- **Cooldown.** Everybody in a new Arbad has waited since each leave in exactly the runs where
who leads it has waited, and the partner of a couple. -/
theorem orderly_iff {ledger : L} {now : ℕ} {xs : List (Input AccountId)} :
    Throughout (recording recordMovement (step cfg))
        (fun t => Orderly cfg.arbadCooldownPeriod t.2) xs (World.genesis ledger now, []) ↔
      Along (step cfg) (fun w x => CooledDown cfg.arbadCooldownPeriod w.now w.civics x.deed) xs
        (World.genesis ledger now) := by
  have hexact : Throughout (recording recordMovement (step cfg))
        (fun t => Orderly cfg.arbadCooldownPeriod t.2) xs (World.genesis ledger now, []) ↔
      Along (recording recordMovement (step cfg))
        (fun t x => CooledDown cfg.arbadCooldownPeriod t.1.now t.1.civics x.deed) xs
          (World.genesis ledger now, []) :=
    throughout_iff_along (J := Recalled) (fun _ _ _ hj hs => recalled_step hj hs)
      (fun _ _ _ hj ho hs => orderly_step_iff hj ho hs) (recalled_genesis ledger now)
      List.Pairwise.nil
  rw [hexact]
  exact along_recording
    (Q := fun (w : World AccountId L) (x : Input AccountId) =>
      CooledDown cfg.arbadCooldownPeriod w.now w.civics x.deed)

end Runs

/-- A citizen is taken into an Arbad, leaves it and forms another in the same block. -/
def hastyFounder : List (Input ℕ) :=
  [decree (registration 3 (.ofByte 1)), decree (registration 4 (.ofByte 2)),
    decree (registration 5 (.ofByte 3)), decree (.bootstrapVerifyCreator 3),
    signed 3 (.formArbad [4]), signed 3 (.verifyCitizen 4), signed 4 (.leaveArbad 0),
    signed 4 (.formArbad [5])]

/-- Who forms an Arbad need not have waited. -/
theorem cooldown_skipped :
    ¬ Throughout (recording recordMovement (step citizens))
      (fun t => Orderly citizens.arbadCooldownPeriod t.2) hastyFounder (noCitizens, []) := by
  intro h
  have hunordered : ¬ Orderly citizens.arbadCooldownPeriod
      (run (recording recordMovement (step citizens)) hastyFounder (noCitizens, [])).2 := by
    decide +kernel
  exact hunordered h.last

end Identity
