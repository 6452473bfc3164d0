import Altan.Foundation.Registry
import Altan.Runtime.Constants

/-!
# Whose treasury it is

The treasuries of the organisations, and those of the petitioned guilds, are accounts without a key,
derived from identifiers of 32 bytes of which twenty are left in the account. So two organisations,
or two guilds, have one treasury exactly when their identifiers agree in the first twenty bytes, and
then a proposal of either is paid by both.

## Main definitions

* `accountGuilds`: the petitioned guilds in the runtime
* `Separated`, `Spares`: what is asked of the states, and of every payment
* `Fresh`, `FreshGuild`: what is asked of every input

## Main results

* `treasuries_separate_iff`: the runs in which treasuries are separate
* `treasury_shared`: they are not in every run
-/

open Bounded Dispatch Ledger Registry Runtime TransitionSystem

namespace Runtime

/-- The guilds in the runtime, whose treasuries are derived as those of the organisations are. -/
def accountGuilds (order : IterationOrder ℕ) : Guilds.Config AccountId32 where
  maxUnionMembers := 50
  maxUnionMembers_le := guilds.maxUnionMembers_le
  treasuryAccount := subAccountTruncating #v[105, 110, 109, 47, 103, 108, 100, 115]
  iterationOrder := order

end Runtime

namespace DecimalDao

variable {L : Type}

/-! ### What is asked of the runs -/

section Organisations

variable {AccountId : Type} {cfg : Config AccountId}

/-- The treasury of an organisation, if it is entered. -/
def treasuryOf (s : State cfg L) (orgId : Bytes32) : Option AccountId := s.orgTreasuries.get orgId

/-- The organisation that an input enters. -/
def Input.orgId : Input AccountId L → Option Bytes32
  | .call _ (.instantiateOrg orgId _) => some orgId
  | _ => none

/-- Organisations are entered with their treasuries. -/
def Entered (s : State cfg L) : Prop :=
  ∀ orgId, s.councils.get orgId = none → s.orgTreasuries.get orgId = none

variable [DecidableEq AccountId] [Currency AccountId L]

/-- If it is accepted, an input that pays a proposal out takes nothing from the treasuries of other
organisations. -/
def Spares (s : State cfg L) (x : Input AccountId L) : Prop :=
  ∀ origin propId proposal, x = .call origin (.executeProposal propId) →
    s.proposals.get propId = some proposal →
      ∀ orgId treasury, orgId ≠ proposal.orgId → treasuryOf s orgId = some treasury →
        freeBalance s.ledger treasury ≤ freeBalance (exec (step cfg) x s).ledger treasury

variable {s s' : State cfg L} {x : Input AccountId L}

theorem entered_step (h : Entered s) (hs : step cfg x s = .ok s') : Entered s' := by
  cases x with
  | elsewhere ledger =>
    obtain rfl := Except.ok.inj hs
    exact h
  | call origin c =>
    cases c with
    | instantiateOrg orgId initialCouncil =>
      obtain ⟨council, -, -, -, rfl⟩ := instantiateOrg_eq_ok.mp hs
      intro orgId' hnone
      obtain ⟨hne, hnone⟩ := StorageMap.get_insert_eq_none.mp hnone
      exact StorageMap.get_insert_eq_none.mpr ⟨hne, h orgId' hnone⟩
    | syncCouncil orgId newCouncil =>
      obtain ⟨council, -, rfl⟩ := syncCouncil_eq_ok hs
      intro orgId' hnone
      exact h orgId' (StorageMap.get_insert_eq_none.mp hnone).2
    | createProposal orgId propId proposer amount beneficiary =>
      obtain ⟨-, rfl⟩ := createProposal_eq_ok hs
      exact h
    | voteProposal propId voter support =>
      obtain ⟨p, council, -, -, -, -, -, -, rfl⟩ := voteProposal_eq_ok.mp hs
      exact h
    | executeProposal propId =>
      obtain ⟨p, treasury, ledger, -, -, -, -, rfl⟩ := executeProposal_eq_ok hs
      exact h

/-- **An input enters one organisation at most**, with the treasury that is derived for it. -/
theorem step_registers (h : Entered s) (hs : step cfg x s = .ok s') :
    Registers (treasuryAccount cfg) x.orgId (treasuryOf s) (treasuryOf s') := by
  cases x with
  | elsewhere ledger =>
    obtain rfl := Except.ok.inj hs
    exact .same
  | call origin c =>
    cases c with
    | instantiateOrg orgId initialCouncil =>
      obtain ⟨council, -, hnew, -, rfl⟩ := instantiateOrg_eq_ok.mp hs
      exact .of_new (h orgId hnew) fun _ => StorageMap.get_insert
    | syncCouncil orgId newCouncil =>
      obtain ⟨council, -, rfl⟩ := syncCouncil_eq_ok hs
      exact .same
    | createProposal orgId propId proposer amount beneficiary =>
      obtain ⟨-, rfl⟩ := createProposal_eq_ok hs
      exact .same
    | voteProposal propId voter support =>
      obtain ⟨p, council, -, -, -, -, -, -, rfl⟩ := voteProposal_eq_ok.mp hs
      exact .same
    | executeProposal propId =>
      obtain ⟨p, treasury, ledger, -, -, -, -, rfl⟩ := executeProposal_eq_ok hs
      exact .same

/-- Where treasuries are separate, nobody pays for another. -/
theorem spares_of_separate (h : Separate (treasuryOf s)) (hs : step cfg x s = .ok s') :
    Spares s x := by
  rintro origin propId proposal rfl hget orgId treasury hne htreasury
  rw [exec_ok hs]
  obtain ⟨p, treasury', ledger, hp, -, htreasury', hledger, rfl⟩ := executeProposal_eq_ok hs
  obtain rfl := Option.some.inj (hget.symm.trans hp)
  refine Currency.transfer_free_le hledger ?_
  rintro rfl
  exact hne (h orgId proposal.orgId treasury htreasury htreasury')

end Organisations

/-! ### The petitioned guilds -/

section Guilds

variable {AccountId : Type} {cfg : Guilds.Config AccountId}

/-- The treasury of a petitioned guild, if it is entered. -/
def guildTreasuryOf (s : Guilds.Federation AccountId L) (guildId : Bytes32) : Option AccountId :=
  (s.guildsByUuid.get guildId).map Guilds.GuildRecord.treasury

/-- The petitioned guild that an input enters. -/
def enteredGuild : Guilds.Input cfg L → Option Bytes32
  | .call _ (.createGuildFromRelayer guildId _ _) => some guildId
  | _ => none

variable [DecidableEq AccountId] [Currency AccountId L] [EscrowCurrency AccountId L]
  {s s' : Guilds.Federation AccountId L} {x : Guilds.Input cfg L}

/-- **An input enters one petitioned guild at most**, with the treasury that is derived for it. -/
theorem guild_step_registers (hs : Guilds.step cfg x s = .ok s') :
    Registers cfg.treasuryAccount (enteredGuild x) (guildTreasuryOf s) (guildTreasuryOf s') := by
  by_cases hx : x.aboutCouncils = false
  · have hname : enteredGuild x = none := by
      unfold enteredGuild
      split
      · cases hx
      · rfl
    rw [hname]
    refine .of_same fun guildId => ?_
    unfold guildTreasuryOf
    rw [((Guilds.step_frame hs).1 hx).guildsByUuid]
  rw [Bool.not_eq_false] at hx
  unfold Guilds.Input.aboutCouncils at hx
  split at hx
  · next origin guildId master initialMembers =>
    simp only [Guilds.step, Guilds.dispatchAll, Guilds.createGuildFromRelayer,
      ensureSigned_bind_eq_ok, ensure_bind_eq_ok, required_bind_eq_ok, pure_eq_ok] at hs
    obtain ⟨_, _, _, hnew, _, _, rfl⟩ := hs
    have hnone : guildTreasuryOf s guildId = none := by
      unfold guildTreasuryOf
      rw [StorageMap.not_containsKey.mp hnew, Option.map_none]
    refine .of_new hnone fun guildId' => ?_
    unfold guildTreasuryOf
    rw [StorageMap.get_insert]
    split <;> rfl
  · simp only [Guilds.step, Guilds.dispatchAll, Guilds.updateCouncilFromRelayer,
      ensureSigned_bind_eq_ok, required_bind_eq_ok, pure_eq_ok] at hs
    obtain ⟨_, _, record, hget, _, _, rfl⟩ := hs
    exact .of_same fun guildId' => StorageMap.map_get_insert hget rfl
  · simp only [Guilds.step, Guilds.dispatchAll, Guilds.createProposalFromRelayer,
      ensureSigned_bind_eq_ok, ensure_bind_eq_ok, required_bind_eq_ok, pure_eq_ok] at hs
    obtain ⟨_, _, _, _, _, _, rfl⟩ := hs
    exact .same
  · simp only [Guilds.step, Guilds.dispatchAll, Guilds.voteProposalFromRelayer,
      ensureSigned_bind_eq_ok, ensure_bind_eq_ok, required_bind_eq_ok, pure_eq_ok] at hs
    obtain ⟨_, _, g, _, _, r, _, _, _, rfl⟩ := hs
    exact .same
  · cases hx

end Guilds

/-! ### The runtime -/

section Runtime

variable [Currency AccountId32 L]

/-- What is asked of the organisations: no two have one treasury. -/
def Separated (s : State decimalDao L) : Prop := Separate (treasuryOf s)

/-- What is asked of the petitioned guilds: no two have one treasury. -/
def GuildsSeparated (s : Guilds.Federation AccountId32 L) : Prop := Separate (guildTreasuryOf s)

/-- An organisation is entered under an identifier that agrees with that of no other in the first
twenty bytes. -/
def Fresh (s : State decimalDao L) : Input AccountId32 L → Prop
  | .call _ (.instantiateOrg orgId _) =>
    ∀ orgId' treasury, s.orgTreasuries.get orgId' = some treasury →
      orgId'.toList.take 20 ≠ orgId.toList.take 20
  | _ => True

/-- A guild is entered under an identifier that agrees with that of no other in the first twenty
bytes. -/
def FreshGuild {order : IterationOrder ℕ} (s : Guilds.Federation AccountId32 L) :
    Guilds.Input (accountGuilds order) L → Prop
  | .call _ (.createGuildFromRelayer guildId _ _) =>
    ∀ guildId' record, s.guildsByUuid.get guildId' = some record →
      guildId'.toList.take 20 ≠ guildId.toList.take 20
  | _ => True

omit [Currency AccountId32 L] in
theorem unused_iff_fresh {s : State decimalDao L} {x : Input AccountId32 L} :
    (∀ k, x.orgId = some k → Unused (treasuryAccount decimalDao) (treasuryOf s) k) ↔
      Fresh s x := by
  have hprefix : ∀ k k', treasuryAccount decimalDao k = treasuryAccount decimalDao k' ↔
      k.toList.take 20 = k'.toList.take 20 := fun _ _ => subAccountTruncating_eq_iff
  cases x with
  | elsewhere => exact iff_of_true nofun trivial
  | call origin c =>
    cases c with
    | instantiateOrg orgId initialCouncil =>
      simp only [Input.orgId, Option.some.injEq, forall_eq', Unused, ne_eq, hprefix]
      rfl
    | _ => exact iff_of_true nofun trivial

omit [Currency AccountId32 L] in
theorem unused_iff_freshGuild {order : IterationOrder ℕ} {s : Guilds.Federation AccountId32 L}
    {x : Guilds.Input (accountGuilds order) L} :
    (∀ k, enteredGuild x = some k →
      Unused (accountGuilds order).treasuryAccount (guildTreasuryOf s) k) ↔ FreshGuild s x := by
  have hprefix : ∀ k k', (accountGuilds order).treasuryAccount k =
      (accountGuilds order).treasuryAccount k' ↔ k.toList.take 20 = k'.toList.take 20 :=
    fun _ _ => subAccountTruncating_eq_iff
  cases x with
  | call origin d =>
    cases d with
    | createGuildFromRelayer guildId master initialMembers =>
      simp only [enteredGuild, Option.some.injEq, forall_eq', Unused, ne_eq, hprefix, FreshGuild,
        guildTreasuryOf, Option.map_eq_some_iff]
      constructor
      · intro h guildId' record hget
        exact h guildId' record.treasury ⟨record, hget, rfl⟩
      · rintro h guildId' _ ⟨record, hget, -⟩
        exact h guildId' record hget
    | _ => exact iff_of_true nofun trivial
  | _ => exact iff_of_true nofun trivial

/-- **The runs in which treasuries are separate**, and no organisation pays for another, are those
in which everything is entered under an identifier that differs from the others in the first twenty
bytes. -/
theorem treasuries_separate_iff [EscrowCurrency AccountId32 L] (order : IterationOrder ℕ)
    (ledger ledger' : L) (xs : List (Input AccountId32 L))
    (ys : List (Guilds.Input (accountGuilds order) L)) :
    (Throughout (step decimalDao) Separated xs (genesis ledger) ∧
        Along (step decimalDao) Spares xs (genesis ledger)) ∧
        Throughout (Guilds.step (accountGuilds order)) GuildsSeparated ys (.genesis ledger') ↔
      Along (step decimalDao) Fresh xs (genesis ledger) ∧
        Along (Guilds.step (accountGuilds order)) FreshGuild ys (.genesis ledger') := by
  have hdao : Throughout (step decimalDao) Separated xs (genesis ledger) ↔
      Along (step decimalDao) Fresh xs (genesis ledger) := by
    refine Iff.trans (separate_throughout_iff (fun _ _ _ => entered_step)
      (fun _ _ _ => step_registers) (fun _ _ => StorageMap.get_empty _)
      (fun _ => StorageMap.get_empty _)) ?_
    simp only [unused_iff_fresh]
  have hguilds : Throughout (Guilds.step (accountGuilds order)) GuildsSeparated ys
      (.genesis ledger') ↔
        Along (Guilds.step (accountGuilds order)) FreshGuild ys (.genesis ledger') := by
    refine Iff.trans (separate_throughout_iff (J := fun _ => True) (fun _ _ _ _ _ => trivial)
      (fun _ _ _ _ => guild_step_registers) trivial
      fun _ => congrArg (Option.map _) (StorageMap.get_empty _)) ?_
    simp only [unused_iff_freshGuild]
  rw [hdao, hguilds]
  refine and_congr_left fun _ => and_iff_left_of_imp fun hfresh => ?_
  have hspares : ∀ x (s s' : State decimalDao L), Separated s → step decimalDao x s = .ok s' →
      Spares s x := fun _ _ _ hsep hs => spares_of_separate hsep hs
  exact (hdao.mpr hfresh).along hspares

end Runtime

/-! ### Two organisations with one treasury -/

/-- An identifier that agrees with another in the first 31 bytes. -/
def twinId : Bytes32 := (Bytes32.ofByte 1).set 31 2

/-- The relayer enters two organisations. -/
def twins : List (Input AccountId32 (EscrowLedger AccountId32)) :=
  [.call .root (.instantiateOrg (.ofByte 1) []), .call .root (.instantiateOrg twinId [])]

/-- The storage before any call, where nobody has anything. -/
def twinsGenesis : State decimalDao (EscrowLedger AccountId32) :=
  genesis (ProvidedBalances.ofFree [])

/-- Treasuries are not separate in every run: two organisations have one. -/
theorem treasury_shared : ¬ ∀ (xs : List (Input AccountId32 (EscrowLedger AccountId32)))
    (ys : List (Guilds.Input (accountGuilds .ascending) (EscrowLedger AccountId32))),
    (Throughout (step decimalDao) Separated xs twinsGenesis ∧
        Along (step decimalDao) Spares xs twinsGenesis) ∧
      Throughout (Guilds.step (accountGuilds .ascending)) GuildsSeparated ys
        (.genesis (ProvidedBalances.ofFree [])) := by
  intro hseparate
  have hlast := (hseparate twins []).1.1.last
  have hshared : treasuryOf (run (step decimalDao) twins twinsGenesis) twinId =
      treasuryOf (run (step decimalDao) twins twinsGenesis) (.ofByte 1) := by
    decide +kernel
  have hentered : treasuryOf (run (step decimalDao) twins twinsGenesis) (.ofByte 1) =
      some (treasuryAccount decimalDao (.ofByte 1)) := by
    decide +kernel
  have hsame : twinId = .ofByte 1 := hlast _ _ _ (hshared.trans hentered) hentered
  exact absurd hsame (by decide)

end DecimalDao
