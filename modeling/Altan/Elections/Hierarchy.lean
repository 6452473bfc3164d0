import Altan.Elections.Zones
import Altan.Runtime.Constants

/-!
# The hierarchy from below

Whoever leads a unit of the decimal hierarchy is to have risen tier by tier, and a Tumed leader to
stand on Myangad leaders, these on Zun leaders of different Arbads, and these on enrolled citizens.
A history of the enrolments and promotions says what a promotion stands on. Root may name any level,
so tiers are skipped and levels lowered; and a Zun has the number of the one Arbad its leaders are
of, so that nobody is promoted to Tumed on the leaders of different Arbads.

## Main definitions

* `Deed`, `record`: an enrolment or a promotion, and the history of them
* `BottomUp`: every promotion stands on what was there before
* `NextTier`: the promotion is to the recorded tier or the next one, and not to Tumed

## Main results

* `known_step`: the recorded levels are those of the history
* `bottomUp_step`: one call
* `bottomUp_iff`: the runs whose promotions all stand on what was there before
* `tumed_of_one`: a Tumed leader who is the only citizen
-/

open Bounded Dispatch TransitionSystem Runtime

namespace Elections

/-- A promotion: the level recorded of the leader before, the leader's Arbad at the time, and the
zone it is for. -/
structure Promotion (AccountId : Type) where
  leader : AccountId
  level : ElectionLevel
  recorded : Option ElectionLevel
  arbad : Option ℕ
  zone : Option ℕ
  deriving DecidableEq

/-- What changes the hierarchy. -/
inductive Deed (AccountId : Type)
  | enrolled (citizen : AccountId) (arbadId : ℕ)
  | promoted (promotion : Promotion AccountId)
  deriving DecidableEq

variable {AccountId : Type} [DecidableEq AccountId]

/-- The promotion of a call. The Zun a leader enters has the number of the leader's Arbad. -/
def promotionOf (s : State AccountId) (leader : AccountId) (newLevel : ElectionLevel)
    (zoneId : Option ℕ) : Promotion AccountId where
  leader := leader
  level := newLevel
  recorded := s.electedLeaders.get leader
  arbad := s.citizenArbad.get leader
  zone :=
    match newLevel with
    | .zun => s.citizenArbad.get leader
    | _ => zoneId

/-- The history with an accepted call, the newest first. -/
def record (s : State AccountId) (x : Extrinsic AccountId) (history : List (Deed AccountId)) :
    List (Deed AccountId) :=
  match x.2 with
  | .addCitizenToArbad citizen arbadId => .enrolled citizen arbadId :: history
  | .promoteLeader leader newLevel zoneId =>
    .promoted (promotionOf s leader newLevel zoneId) :: history
  | _ => history

variable {cfg : Config} {ctx : Context AccountId} {s s' : State AccountId}
  {x : Extrinsic AccountId} {history : List (Deed AccountId)} {p : Promotion AccountId}
  {deed : Deed AccountId} {leader : AccountId} {level newLevel : ElectionLevel} {zoneId : Option ℕ}

/-! ### What a promotion stands on -/

/-- An Arbad has enough citizens, all of them different. -/
def FullArbad (cfg : Config) (history : List (Deed AccountId)) (arbadId : ℕ) : Prop :=
  cfg.minArbadSize ≤ {citizen | .enrolled citizen arbadId ∈ history}.encard

/-- A Zun has enough leaders, all of them different and of different Arbads with enough
citizens. -/
def FullZun (cfg : Config) (history : List (Deed AccountId)) (zunId : ℕ) : Prop :=
  ∃ (leaders : Finset AccountId) (arbadOf : AccountId → ℕ),
    cfg.minZunLeaders ≤ leaders.card ∧ Set.InjOn arbadOf leaders ∧
      ∀ leader ∈ leaders, FullArbad cfg history (arbadOf leader) ∧
        ∃ p, .promoted p ∈ history ∧ p.leader = leader ∧ p.level = .zun ∧ p.zone = some zunId ∧
          p.arbad = some (arbadOf leader)

/-- A Myangad has enough leaders, all of them different and promoted for Zuns with enough
leaders. -/
def FullMyangad (cfg : Config) (history : List (Deed AccountId)) (myangadId : ℕ) : Prop :=
  ∃ leaders : Finset AccountId, cfg.minMyangadLeaders ≤ leaders.card ∧
    ∀ leader ∈ leaders, FullZun cfg history myangadId ∧
      ∃ p, .promoted p ∈ history ∧ p.leader = leader ∧ p.level = .myangad ∧
        p.zone = some myangadId

/-- The citizens below a zone: those enrolled in the Arbads of its Zun leaders. -/
def citizensBelow (history : List (Deed AccountId)) (zone : ℕ) : Set AccountId :=
  {citizen | ∃ arbadId, .enrolled citizen arbadId ∈ history ∧
    ∃ p, .promoted p ∈ history ∧ p.level = .zun ∧ p.zone = some zone ∧ p.arbad = some arbadId}

/-- The leader was recorded at a level before. -/
def RecordedAt (history : List (Deed AccountId)) (leader : AccountId) (level : ElectionLevel) :
    Prop :=
  ∃ p, .promoted p ∈ history ∧ p.leader = leader ∧ p.level = level

/-- A promotion stands on what was there before: it lowers no level and skips no tier, and for a
Tumed leader the zone has its leaders and citizens. -/
structure Stands (cfg : Config) (history : List (Deed AccountId)) (p : Promotion AccountId) :
    Prop where
  raised : ∀ level, p.recorded = some level → level ≤ p.level
  zunFirst : p.level = .myangad → RecordedAt history p.leader .zun
  myangadFirst : p.level = .tumed → RecordedAt history p.leader .myangad
  full : p.level = .tumed → ∃ myangadId, p.zone = some myangadId ∧
    FullMyangad cfg history myangadId ∧
    ((cfg.minMyangadLeaders * cfg.minZunLeaders * cfg.minArbadSize : ℕ) : ℕ∞) ≤
      (citizensBelow history myangadId).encard

/-- Every promotion of a history stands on what was there before. -/
def BottomUp (cfg : Config) : List (Deed AccountId) → Prop
  | [] => True
  | .enrolled _ _ :: history => BottomUp cfg history
  | .promoted p :: history => Stands cfg history p ∧ BottomUp cfg history

/-- The promotion of a call is to the level recorded or to the tier above it, and not to Tumed. -/
def NextTier (s : State AccountId) (x : Extrinsic AccountId) : Prop :=
  match x.2 with
  | .promoteLeader leader .arbad _ =>
    s.electedLeaders.get leader = none ∨ s.electedLeaders.get leader = some .arbad
  | .promoteLeader leader .zun _ =>
    s.electedLeaders.get leader = none ∨ s.electedLeaders.get leader = some .arbad ∨
      s.electedLeaders.get leader = some .zun
  | .promoteLeader leader .myangad _ =>
    s.electedLeaders.get leader = some .zun ∨ s.electedLeaders.get leader = some .myangad
  | .promoteLeader _ .tumed _ => False
  | _ => True

instance (s : State AccountId) : (x : Extrinsic AccountId) → Decidable (NextTier s x)
  | (_, .promoteLeader _ .arbad _) => inferInstanceAs (Decidable (_ ∨ _))
  | (_, .promoteLeader _ .zun _) => inferInstanceAs (Decidable (_ ∨ _ ∨ _))
  | (_, .promoteLeader _ .myangad _) => inferInstanceAs (Decidable (_ ∨ _))
  | (_, .promoteLeader _ .tumed _) => isFalse id
  | (_, .castVote _ _) | (_, .addCitizenToArbad _ _) | (_, .createElection _ _ _)
  | (_, .electBranchCouncil _ _) | (_, .confirmBranchCouncil _ _) | (_, .electSupremeLeader _ _)
  | (_, .confirmSupremeLeader _ _) | (_, .electKhuralChairman _) | (_, .confirmKhuralChairman _)
  | (_, .resetBallot _) => isTrue trivial

/-! ### The history -/

/-- Entering a leader in a zone records no level. -/
theorem enterZone_electedLeaders
    (h : enterZone cfg leader zoneId s newLevel = .ok s') :
    s'.electedLeaders = s.electedLeaders := by
  cases newLevel with
  | arbad => rw [enterZone_arbad_eq_ok.mp h]
  | zun =>
    obtain ⟨arbadId, -, -, -, rfl⟩ := enterZone_zun_eq_ok.mp h
    rfl
  | myangad =>
    obtain ⟨zunId, -, -, -, rfl⟩ := enterZone_myangad_eq_ok.mp h
    rfl
  | tumed =>
    obtain ⟨myangadId, -, -, rfl⟩ := enterZone_tumed_eq_ok.mp h
    rfl

/-- An accepted call is recorded as an enrolment, as a promotion, which records the level of the
leader, or not at all. -/
theorem step_deed (hs : step cfg x s = .ok s') :
    (∃ citizen arbadId, (∀ history, record s x history = .enrolled citizen arbadId :: history) ∧
      NextTier s x ∧ s'.electedLeaders = s.electedLeaders) ∨
    (∃ leader newLevel zoneId, x.2 = .promoteLeader leader newLevel zoneId ∧
      s'.electedLeaders = s.electedLeaders.insert leader newLevel) ∨
    ((∀ history, record s x history = history) ∧
      NextTier s x ∧ s'.electedLeaders = s.electedLeaders) := by
  obtain ⟨ctx, call⟩ := x
  cases call with
  | addCitizenToArbad citizen arbadId =>
    obtain ⟨-, -, rfl⟩ := addCitizenToArbad_eq_ok.mp hs
    exact Or.inl ⟨citizen, arbadId, fun _ => rfl, trivial, rfl⟩
  | promoteLeader leader newLevel zoneId =>
    obtain ⟨-, t, ht, rfl⟩ := promoteLeader_eq_ok.mp hs
    refine Or.inr (Or.inl ⟨leader, newLevel, zoneId, rfl, ?_⟩)
    rw [enterZone_electedLeaders ht]
  | _ =>
    have hsame := step_sameHierarchy hs (by simp) (by simp)
    exact Or.inr (Or.inr ⟨fun _ => rfl, trivial, hsame.electedLeaders⟩)

/-- What the history says of the recorded levels and of the zones. -/
structure Known (cfg : Config) (t : State AccountId × List (Deed AccountId)) : Prop where
  /-- The Zun a leader entered has the number of the leader's Arbad. -/
  zones : ∀ p, .promoted p ∈ t.2 → p.level = .zun → p.zone = p.arbad
  /-- A recorded level is one of the history. -/
  recorded : ∀ leader level, t.1.electedLeaders.get leader = some level →
    RecordedAt t.2 leader level
  /-- As long as no level is lowered, the recorded level is the highest of the history. -/
  highest : BottomUp cfg t.2 → ∀ leader level, RecordedAt t.2 leader level →
    ∃ top, t.1.electedLeaders.get leader = some top ∧ level ≤ top

omit [DecidableEq AccountId] in
theorem recordedAt_cons_enrolled {citizen : AccountId} {arbadId : ℕ} :
    RecordedAt (.enrolled citizen arbadId :: history) leader level ↔
      RecordedAt history leader level := by
  simp [RecordedAt]

omit [DecidableEq AccountId] in
theorem recordedAt_cons_promoted : RecordedAt (.promoted p :: history) leader level ↔
    (p.leader = leader ∧ p.level = level) ∨ RecordedAt history leader level := by
  simp [RecordedAt]

theorem known_genesis : Known cfg ((genesis : State AccountId), []) where
  zones p hp := by simp at hp
  recorded leader level hget := by cases hget
  highest _ leader level hrec := by simp [RecordedAt] at hrec

/-- The levels and zones of a promotion are known once it is recorded. -/
theorem Known.promoted {t : State AccountId × List (Deed AccountId)} (h : Known cfg t)
    (hs' : s'.electedLeaders = t.1.electedLeaders.insert leader newLevel) :
    Known cfg (s', .promoted (promotionOf t.1 leader newLevel zoneId) :: t.2) where
  zones p hp hlevel := by
    rcases List.mem_cons.mp hp with hnew | hold
    · obtain rfl := Deed.promoted.inj hnew
      obtain rfl : newLevel = .zun := hlevel
      rfl
    · exact h.zones p hold hlevel
  recorded who level hget := by
    rw [recordedAt_cons_promoted]
    rw [hs'] at hget
    rcases StorageMap.get_insert_cases hget with ⟨hwho, hlevel⟩ | ⟨-, hget⟩
    · exact Or.inl ⟨hwho.symm, hlevel⟩
    · exact Or.inr (h.recorded who level hget)
  highest hup who level hrec := by
    simp only [hs', StorageMap.get_insert]
    obtain ⟨hstands, hup⟩ := hup
    rcases recordedAt_cons_promoted.mp hrec with ⟨hwho, hlevel⟩ | hold
    · obtain rfl : leader = who := hwho
      obtain rfl : newLevel = level := hlevel
      exact ⟨newLevel, by simp, Nat.le_refl _⟩
    · obtain ⟨top, htop, hle⟩ := h.highest hup who level hold
      split
      · -- the level of this leader was raised
        next hwho =>
        subst hwho
        exact ⟨newLevel, rfl, Nat.le_trans hle (hstands.raised top htop)⟩
      · exact ⟨top, htop, hle⟩

/-- **One call.** The recorded levels stay those of the history. -/
theorem known_step {t t' : State AccountId × List (Deed AccountId)} (h : Known cfg t)
    (hs : recording record (step cfg) x t = .ok t') : Known cfg t' := by
  obtain ⟨hs, hrec⟩ := recording_eq_ok.mp hs
  obtain ⟨s', history⟩ := t'
  rcases step_deed hs with
    ⟨citizen, arbadId, hdeed, -, hlevels⟩ | ⟨leader, newLevel, zoneId, hx, hlevels⟩ |
    ⟨hdeed, -, hlevels⟩
  · rw [hdeed] at hrec
    obtain rfl : history = _ := hrec
    refine ⟨?_, ?_, ?_⟩
    · intro p hp
      rcases List.mem_cons.mp hp with hnew | hold
      · cases hnew
      · exact h.zones p hold
    · intro leader level hget
      rw [recordedAt_cons_enrolled]
      exact h.recorded leader level (hlevels ▸ hget)
    · intro hup leader level hat
      rw [recordedAt_cons_enrolled] at hat
      show ∃ top, s'.electedLeaders.get leader = some top ∧ _
      rw [hlevels]
      exact h.highest hup leader level hat
  · have hdeed : history = .promoted (promotionOf t.1 leader newLevel zoneId) :: t.2 := by
      simpa only [record, hx] using hrec
    rw [hdeed]
    exact h.promoted hlevels
  · rw [hdeed] at hrec
    obtain rfl : history = _ := hrec
    exact ⟨h.zones, hlevels ▸ h.recorded, hlevels ▸ h.highest⟩

/-! ### One call -/

/-- The leaders of a Zun are all of the one Arbad that has its number. -/
theorem not_fullZun {t : State AccountId × List (Deed AccountId)} {zunId : ℕ} (h : Known cfg t)
    (hleaders : 2 ≤ cfg.minZunLeaders) : ¬ FullZun cfg t.2 zunId := by
  rintro ⟨leaders, arbadOf, hcard, hinj, hzun⟩
  have harbad : ∀ leader ∈ leaders, arbadOf leader = zunId := by
    intro leader hleader
    obtain ⟨-, p, hp, -, hlevel, hzone, harbad⟩ := hzun leader hleader
    have hsame := h.zones p hp hlevel
    rw [hzone, harbad] at hsame
    exact (Option.some.inj hsame).symm
  obtain ⟨a, ha, b, hb, hne⟩ := Finset.one_lt_card.mp (lt_of_lt_of_le hleaders hcard)
  exact hne (hinj ha hb ((harbad a ha).trans (harbad b hb).symm))

theorem not_fullMyangad {t : State AccountId × List (Deed AccountId)} {myangadId : ℕ}
    (h : Known cfg t) (hzun : 2 ≤ cfg.minZunLeaders) (hmyangad : 0 < cfg.minMyangadLeaders) :
    ¬ FullMyangad cfg t.2 myangadId := by
  rintro ⟨leaders, hcard, hfull⟩
  obtain ⟨leader, hleader⟩ := Finset.card_pos.mp (lt_of_lt_of_le hmyangad hcard)
  exact not_fullZun h hzun (hfull leader hleader).1

omit [DecidableEq AccountId] in
/-- Who was promoted to Myangad was promoted to Zun before. -/
theorem recordedAt_zun (hup : BottomUp cfg history) (h : RecordedAt history leader .myangad) :
    RecordedAt history leader .zun := by
  induction history with
  | nil => simp [RecordedAt] at h
  | cons deed history ih =>
    cases deed with
    | enrolled citizen arbadId =>
      rw [recordedAt_cons_enrolled] at h ⊢
      exact ih hup h
    | promoted p =>
      obtain ⟨hstands, hup⟩ := hup
      rw [recordedAt_cons_promoted] at h ⊢
      rcases h with ⟨rfl, hlevel⟩ | hold
      · exact Or.inr (hstands.zunFirst hlevel)
      · exact Or.inr (ih hup hold)

omit [DecidableEq AccountId] in
/-- Below Myangad it is enough that no level is lowered. -/
theorem stands_low_iff (hmyangad : p.level ≠ .myangad) (htumed : p.level ≠ .tumed) :
    Stands cfg history p ↔ ∀ level, p.recorded = some level → level ≤ p.level :=
  ⟨Stands.raised, fun hraised => ⟨hraised, fun h => absurd h hmyangad, fun h => absurd h htumed,
    fun h => absurd h htumed⟩⟩

theorem le_arbad_iff {recorded : Option ElectionLevel} :
    (∀ level, recorded = some level → level ≤ .arbad) ↔
      recorded = none ∨ recorded = some .arbad := by
  revert recorded
  simp only [Option.forall]
  refine ⟨by simp, fun level => ?_⟩
  cases level <;> simp <;> decide

theorem le_zun_iff {recorded : Option ElectionLevel} :
    (∀ level, recorded = some level → level ≤ .zun) ↔
      recorded = none ∨ recorded = some .arbad ∨ recorded = some .zun := by
  revert recorded
  simp only [Option.forall]
  refine ⟨by simp, fun level => ?_⟩
  cases level <;> simp <;> decide

/-- A promotion stands on what was there before just when it is to the recorded tier or the next
one, and not to Tumed. -/
theorem stands_iff {t : State AccountId × List (Deed AccountId)} (h : Known cfg t)
    (hzun : 2 ≤ cfg.minZunLeaders) (hmyangad : 0 < cfg.minMyangadLeaders)
    (hup : BottomUp cfg t.2) :
    Stands cfg t.2 (promotionOf t.1 leader newLevel zoneId) ↔
      NextTier t.1 (ctx, .promoteLeader leader newLevel zoneId) := by
  cases newLevel with
  | arbad =>
    exact (stands_low_iff (by simp [promotionOf]) (by simp [promotionOf])).trans le_arbad_iff
  | zun =>
    exact (stands_low_iff (by simp [promotionOf]) (by simp [promotionOf])).trans le_zun_iff
  | myangad =>
    show _ ↔ t.1.electedLeaders.get leader = some .zun ∨
      t.1.electedLeaders.get leader = some .myangad
    constructor
    · intro hstands
      -- the leader was at the Zun before, and is not recorded below that
      obtain ⟨level, hget, hle⟩ := h.highest hup leader .zun (hstands.zunFirst rfl)
      have hraised : level ≤ .myangad := hstands.raised level hget
      rw [hget]
      cases level with
      | zun => exact Or.inl rfl
      | myangad => exact Or.inr rfl
      | arbad => exact absurd hle (by decide)
      | tumed => exact absurd hraised (by decide)
    · intro hnext
      refine ⟨?_, fun _ => ?_, by simp [promotionOf], by simp [promotionOf]⟩
      · intro level hget
        show level ≤ .myangad
        rcases hnext with hzun | hmyangad
        · rw [← Option.some.inj (hzun.symm.trans hget)]
          decide
        · rw [← Option.some.inj (hmyangad.symm.trans hget)]
          decide
      · rcases hnext with hzun | hmyangad
        · exact h.recorded leader .zun hzun
        · exact recordedAt_zun hup (h.recorded leader .myangad hmyangad)
  | tumed =>
    -- no zone has the leaders
    show _ ↔ False
    apply iff_of_false _ id
    intro hstands
    obtain ⟨myangadId, -, hfull, -⟩ := hstands.full rfl
    exact not_fullMyangad h hzun hmyangad hfull

/-- **One call.** The history goes on standing from below just when a promotion is to the recorded
tier or the next one, and not to Tumed. -/
theorem bottomUp_step {t t' : State AccountId × List (Deed AccountId)} (h : Known cfg t)
    (hzun : 2 ≤ cfg.minZunLeaders) (hmyangad : 0 < cfg.minMyangadLeaders)
    (hup : BottomUp cfg t.2) (hs : recording record (step cfg) x t = .ok t') :
    BottomUp cfg t'.2 ↔ NextTier t.1 x := by
  obtain ⟨hs, hrec⟩ := recording_eq_ok.mp hs
  rw [hrec]
  rcases step_deed hs with
    ⟨citizen, arbadId, hdeed, hnext, -⟩ | ⟨leader, newLevel, zoneId, hx, -⟩ | ⟨hdeed, hnext, -⟩
  · rw [hdeed]
    exact iff_of_true hup hnext
  · obtain ⟨ctx, call⟩ := x
    obtain rfl : call = .promoteLeader leader newLevel zoneId := hx
    rw [← stands_iff h hzun hmyangad hup]
    exact and_iff_left hup
  · rw [hdeed]
    exact iff_of_true hup hnext

/-! ### A run -/

/-- **Every run.** With at least two leaders to a Zun and one to a Myangad, throughout a run every
promotion stands on what was there before it, just when the accepted promotions of the run are to
the recorded tier or the next one, and none is to Tumed. -/
theorem bottomUp_iff (cfg : Config) (hzun : 2 ≤ cfg.minZunLeaders)
    (hmyangad : 0 < cfg.minMyangadLeaders) (xs : List (Extrinsic AccountId)) :
    Throughout (recording record (step cfg)) (fun t => BottomUp cfg t.2) xs (genesis, []) ↔
      Along (step cfg) NextTier xs genesis := by
  have hexact :
      Throughout (recording record (step cfg)) (fun t => BottomUp cfg t.2) xs (genesis, []) ↔
        Along (recording record (step cfg)) (fun t x => NextTier t.1 x) xs (genesis, []) :=
    throughout_iff_along (J := Known cfg) (fun _ _ _ h hs => known_step h hs)
      (fun _ _ _ h hup hs => bottomUp_step h hzun hmyangad hup hs) known_genesis trivial
  rw [hexact]
  exact along_recording

/-- Ten citizens of an Arbad, one of whom is promoted to Zun. -/
theorem bottomUp_firstZun :
    Throughout (recording record (step elections)) (fun t => BottomUp elections t.2)
      ((List.range 10).map (fun citizen => (electionContext .root, .addCitizenToArbad citizen 0)) ++
        [(electionContext .root, .promoteLeader 1 .zun none)]) (genesis, []) :=
  (bottomUp_iff elections (by decide) (by decide) _).mpr (by decide +kernel)

omit [DecidableEq AccountId] in
/-- A promotion of a history stands on a part of it. -/
theorem stands_of_mem (hup : BottomUp cfg history) (hp : .promoted p ∈ history) :
    ∃ earlier, earlier ⊆ history ∧ Stands cfg earlier p := by
  induction history with
  | nil => cases hp
  | cons deed history ih =>
    have hrest : BottomUp cfg history := by
      cases deed with
      | enrolled citizen arbadId => exact hup
      | promoted p => exact hup.2
    rcases List.mem_cons.mp hp with hnew | hold
    · subst hnew
      exact ⟨history, List.subset_cons_self _ _, hup.1⟩
    · obtain ⟨earlier, hsub, hstands⟩ := ih hrest hold
      exact ⟨earlier, fun deed hdeed => List.mem_cons_of_mem _ (hsub hdeed), hstands⟩

/-- The deed is of one account. -/
def Deed.IsOf (who : AccountId) : Deed AccountId → Prop
  | .enrolled citizen _ => citizen = who
  | .promoted p => p.leader = who

instance (who : AccountId) : DecidablePred (Deed.IsOf who)
  | .enrolled _ _ => inferInstanceAs (Decidable (_ = _))
  | .promoted _ => inferInstanceAs (Decidable (_ = _))

omit [DecidableEq AccountId] in
/-- A single account is no Tumed leader of a hierarchy that stands from below. -/
theorem not_bottomUp_of_one (hleaders : 2 ≤ cfg.minMyangadLeaders)
    (hof : ∀ deed ∈ history, deed.IsOf p.leader) (hp : .promoted p ∈ history)
    (hlevel : p.level = .tumed) : ¬ BottomUp cfg history := by
  intro hup
  obtain ⟨earlier, hsub, hstands⟩ := stands_of_mem hup hp
  obtain ⟨myangadId, -, ⟨leaders, hcard, hfull⟩, -⟩ := hstands.full hlevel
  -- all leaders of the Myangad are this one
  have hone : leaders ⊆ {p.leader} := by
    intro who hwho
    obtain ⟨-, q, hq, hleader, -⟩ := hfull who hwho
    rw [← hleader, Finset.mem_singleton]
    exact hof _ (hsub hq)
  have hle : leaders.card ≤ 1 := Finset.card_le_card hone
  omega

/-- One citizen, enrolled in an Arbad ten times, then promoted to Zun ten times, to Myangad ten
times, and to Tumed. -/
def soleCitizen : List (Extrinsic ℕ) :=
  List.replicate 10 (electionContext .root, .addCitizenToArbad 1 0) ++
    List.replicate 10 (electionContext .root, .promoteLeader 1 .zun none) ++
    List.replicate 10 (electionContext .root, .promoteLeader 1 .myangad (some 0)) ++
    [(electionContext .root, .promoteLeader 1 .tumed (some 0))]

/-- Not every promotion stands on what was there before: the only citizen becomes a Tumed leader. -/
theorem tumed_of_one : ¬ ∀ xs : List (Extrinsic ℕ),
    BottomUp elections (run (recording record (step elections)) xs (genesis, [])).2 := by
  apply not_forall.mpr
  refine ⟨soleCitizen, not_bottomUp_of_one (p :=
    { leader := 1, level := .tumed, recorded := some .myangad, arbad := some 0, zone := some 0 })
    (by decide) ?_ ?_ rfl⟩
  · decide +kernel
  · decide +kernel

end Elections
