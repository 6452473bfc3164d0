import Altan.Foundation.Accounting
import Altan.Foundation.Catalogue
import Altan.RecoveryNft.Recovery

/-!
# Whose recovery it is

A recovery shall be executed only as its target has programmed it: the target has issued the tokens
of the group, with this destination and this vault, and as many of the holders it named as it asked
for have confirmed. Every account may issue tokens that recover any other, though, also under the
identifier of a group that there is, and name one holder several times. Of the runs in which the
targets issue their tokens themselves, once for every group, recoveries are as programmed.

## Main definitions

* `Issue`, `Provenance`, `trace`: the issues of the tokens, and who has confirmed since the last
  initiation
* `Programmed`: what is asked of every state
* `Owned`: what is asked of every input

## Main results

* `foldl_mint`: the tokens of an issue
* `traced_step`: what one input keeps
* `recovery_programmed`: recoveries are as programmed where the targets issue the tokens
* `recovery_not_programmed`: they are not in every run
-/

open Bounded Catalogue Dispatch TransitionSystem

namespace RecoveryNft

variable {AccountId : Type}

/-! ### What is asked of the runs -/

/-- An issue of the tokens of a group: who makes it, and what it says. -/
structure Issue (AccountId : Type) where
  origin : Origin AccountId
  targetAccount : AccountId
  holders : List AccountId
  destinationKind : RecoveryDestination
  vaultAddress : List UInt8
  threshold : ℕ

/-- The issues of every group, and with which tokens and by whom every request was confirmed since
it was last initiated. -/
structure Provenance (AccountId : Type) where
  issues : Identifier → List (Issue AccountId)
  confirmed : Identifier → List (ℕ × Origin AccountId)

/-- Nothing has been issued. -/
def Provenance.empty : Provenance AccountId where
  issues _ := []
  confirmed _ := []

/-- An accepted input is recorded. -/
def trace (_ : World AccountId) (x : Input AccountId) (p : Provenance AccountId) :
    Provenance AccountId :=
  match x with
  | .call origin (.issueRecoveryNfts groupId targetAccount holders destinationKind vaultAddress
      threshold) =>
    { p with
      issues := fun id => if id.val = groupId then
        p.issues id ++ [⟨origin, targetAccount, holders, destinationKind, vaultAddress, threshold⟩]
        else p.issues id }
  | .call origin (.initiateRecovery tokenId requestId) =>
    { p with
      confirmed := fun id => if id.val = requestId then [(tokenId, origin)] else p.confirmed id }
  | .call origin (.confirmRecovery tokenId requestId) =>
    { p with
      confirmed := fun id =>
        if id.val = requestId then p.confirmed id ++ [(tokenId, origin)] else p.confirmed id }
  | _ => p

variable [DecidableEq AccountId]

/-- The holders named in an issue who have confirmed a request. -/
def Issue.confirmers (issue : Issue AccountId) (confirmed : List (ℕ × Origin AccountId)) :
    Finset AccountId :=
  issue.holders.toFinset.filter fun who => .signed who ∈ confirmed.map Prod.snd

/-- What is asked of every state: an executed request goes where its target has said in an issue of
its own, and as many of the holders named there have confirmed it as were asked for; and the tokens
of a group recover one account to one destination. -/
structure Programmed (w : World AccountId) (p : Provenance AccountId) : Prop where
  executed : ∀ id req, w.recoveryRequests.get id = some req → req.status = .executed →
    ∃ issue ∈ p.issues req.groupId, issue.origin = .signed req.targetAccount ∧
      issue.targetAccount = req.targetAccount ∧ issue.destinationKind = req.destinationKind ∧
      issue.vaultAddress = req.vaultAddress.val ∧
      issue.threshold ≤ (issue.confirmers (p.confirmed id)).card
  destination : ∀ tokenId tokenId' nft nft', w.recoveryNfts.get tokenId = some nft →
    w.recoveryNfts.get tokenId' = some nft' → nft'.groupId = nft.groupId →
      nft'.targetAccount = nft.targetAccount ∧ nft'.destinationKind = nft.destinationKind ∧
        nft'.vaultAddress = nft.vaultAddress

omit [DecidableEq AccountId] in
/-- The tokens stay as they were issued. -/
def TokensKept (w w' : World AccountId) : Prop :=
  ∀ tokenId nft, w.recoveryNfts.get tokenId = some nft → w'.recoveryNfts.get tokenId = some nft

/-- What is asked of every input: tokens are issued by their target, under an identifier of no group
yet, to different holders if more than one is needed, and there are numbers for them. -/
def Owned (w : World AccountId) : Input AccountId → Prop
  | .call origin (.issueRecoveryNfts groupId targetAccount holders _ _ threshold) =>
    origin = .signed targetAccount ∧
      (∀ tokenId nft, w.recoveryNfts.get tokenId = some nft → nft.groupId.val ≠ groupId) ∧
      (2 ≤ threshold → holders.Nodup) ∧ w.nextRecoveryTokenId + holders.length ≤ u64Max
  | _ => True

/-! ### The tokens of an issue -/

section Minting

variable {s s' : State AccountId} {tokens : List (Token AccountId)}

/-- The tokens are minted under the next numbers, and those that there were are kept. -/
structure Minted (tokens : List (Token AccountId)) (s s' : State AccountId) : Prop where
  dense : Dense s'.recoveryNfts s'.nextRecoveryTokenId
  kept : ∀ tokenId nft, s.recoveryNfts.get tokenId = some nft →
    s'.recoveryNfts.get tokenId = some nft
  old_or_new : ∀ tokenId nft, s'.recoveryNfts.get tokenId = some nft →
    s.recoveryNfts.get tokenId = some nft ∨ ∃ i token, tokens[i]? = some token ∧
      tokenId = s.nextRecoveryTokenId + i ∧ nft = { token with tokenId := tokenId }
  entered : ∀ token ∈ tokens, ∃ tokenId,
    s'.recoveryNfts.get tokenId = some { token with tokenId := tokenId }

/-- **The tokens of an issue**, as long as there are numbers for them. -/
theorem foldl_mint (h : Dense s.recoveryNfts s.nextRecoveryTokenId)
    (hroom : s.nextRecoveryTokenId + tokens.length ≤ u64Max) :
    Minted tokens s (tokens.foldl mint s) := by
  induction tokens generalizing s with
  | nil => exact ⟨h, fun _ _ hget => hget, fun _ _ hget => Or.inl hget, List.forall_mem_nil _⟩
  | cons token tokens ih =>
    rw [List.length_cons] at hroom
    have hnext : (mint s token).nextRecoveryTokenId = s.nextRecoveryTokenId + 1 :=
      saturatingAdd_one_of_lt (by omega)
    have hdense : Dense (mint s token).recoveryNfts (mint s token).nextRecoveryTokenId := by
      rw [hnext]
      exact h.enter _
    have hrest := ih hdense (by omega)
    refine ⟨hrest.dense, fun tokenId nft hget => ?_, fun tokenId nft hget => ?_,
      List.forall_mem_cons.mpr ⟨?_, hrest.entered⟩⟩
    · refine hrest.kept tokenId nft ((StorageMap.get_insert_of_ne ?_).trans hget)
      exact Nat.ne_of_lt (h.lt hget)
    · rcases hrest.old_or_new tokenId nft hget with hget | ⟨i, token', hi, rfl, rfl⟩
      · rcases StorageMap.get_insert_cases hget with ⟨rfl, rfl⟩ | ⟨-, hget⟩
        · exact Or.inr ⟨0, token, rfl, rfl, rfl⟩
        · exact Or.inl hget
      · refine Or.inr ⟨i + 1, token', hi, ?_, rfl⟩
        rw [hnext]
        omega
    · exact ⟨s.nextRecoveryTokenId, hrest.kept _ _ StorageMap.get_insert_self⟩

/-- The token of a holder. -/
def Issue.token (issue : Issue AccountId) (groupId : Identifier) (vaultAddress : VaultAddress)
    (now : ℕ) (entry : AccountId × ℕ) : Token AccountId where
  tokenId := 0
  groupId := groupId
  targetAccount := issue.targetAccount
  holder := entry.1
  destinationKind := issue.destinationKind
  vaultAddress := vaultAddress
  threshold := issue.threshold
  totalIssued := issue.holders.length
  groupIndex := entry.2 + 1
  issuedAt := now
  usedInRecovery := none

theorem issueRecoveryNfts_eq_ok {cfg : Config AccountId} {ctx : Context AccountId}
    {groupId vaultAddress : List UInt8} {targetAccount : AccountId} {holders : List AccountId}
    {destinationKind : RecoveryDestination} {threshold : ℕ}
    (h : issueRecoveryNfts cfg ctx groupId targetAccount holders destinationKind vaultAddress
      threshold s = .ok s') :
    ∃ id vault, id.val = groupId ∧ vault.val = vaultAddress ∧ holders ≠ [] ∧
      s' = (holders.zipIdx.map (Issue.token ⟨ctx.origin, targetAccount, holders, destinationKind,
        vaultAddress, threshold⟩ id vault ctx.now)).foldl mint s := by
  simp only [issueRecoveryNfts, ensure_bind_eq_ok] at h
  obtain ⟨-, hone, hle, -, h⟩ := h
  obtain ⟨id, hid, h⟩ := bind_eq_ok.mp h
  obtain ⟨vault, hvault, h⟩ := required_bind_eq_ok.mp h
  refine ⟨id, vault, identifier_eq_ok.mp hid, BoundedVec.tryFrom_eq_some.mp hvault, ?_,
    (pure_eq_ok.mp h).symm⟩
  rintro rfl
  exact Nat.not_succ_le_zero 0 (hone.trans hle)

end Minting

/-! ### What runs keep -/

/-- A token is as the target has issued it. -/
structure Carries (issue : Issue AccountId) (nft : Token AccountId) : Prop where
  origin : issue.origin = .signed nft.targetAccount
  target : issue.targetAccount = nft.targetAccount
  destination : issue.destinationKind = nft.destinationKind
  vault : issue.vaultAddress = nft.vaultAddress.val
  threshold : issue.threshold = nft.threshold
  holder : nft.holder ∈ issue.holders

/-- A request is as the token says that it was initiated with, and as many different tokens of the
group as it counts, and not fewer, have confirmed it, each by its holder. -/
structure RequestTraced (s : State AccountId) (confirmed : List (ℕ × Origin AccountId))
    (id : Identifier) (req : RecoveryRequest AccountId) : Prop where
  token : ∃ tokenId nft, s.recoveryNfts.get tokenId = some nft ∧ nft.groupId = req.groupId ∧
    nft.targetAccount = req.targetAccount ∧ nft.destinationKind = req.destinationKind ∧
    nft.vaultAddress = req.vaultAddress ∧ nft.threshold = req.threshold
  counted : req.confirmationCount ≤ confirmed.length
  nodup : (confirmed.map Prod.fst).Nodup
  confirmed : ∀ e ∈ confirmed, s.recoveryConfirmations.getD (id, e.1) false = true ∧
    ∃ nft, s.recoveryNfts.get e.1 = some nft ∧ nft.groupId = req.groupId ∧ e.2 = .signed nft.holder
  executed : req.status = .executed → req.threshold ≤ req.confirmationCount

/-- Every group was issued once, by the target of its tokens, to different holders if more than one
is needed; and the requests are as these tokens say. -/
structure Traced (w : World AccountId) (p : Provenance AccountId) : Prop where
  dense : Dense w.recoveryNfts w.nextRecoveryTokenId
  token : ∀ tokenId nft, w.recoveryNfts.get tokenId = some nft →
    ∃ issue, p.issues nft.groupId = [issue] ∧ Carries issue nft
  issued : ∀ groupId, p.issues groupId ≠ [] →
    ∃ tokenId nft, w.recoveryNfts.get tokenId = some nft ∧ nft.groupId = groupId
  single : ∀ tokenId tokenId' nft nft', w.recoveryNfts.get tokenId = some nft →
    w.recoveryNfts.get tokenId' = some nft' → nft'.groupId = nft.groupId →
      nft'.holder = nft.holder → 2 ≤ nft.threshold → tokenId' = tokenId
  request : ∀ id req, w.recoveryRequests.get id = some req →
    RequestTraced w.toState (p.confirmed id) id req

variable {w w' : World AccountId} {p : Provenance AccountId} {x : Input AccountId}
  {cfg : Config AccountId}

omit [DecidableEq AccountId] in
theorem traced_genesis {now : UInt32} :
    Traced (World.genesis now : World AccountId) Provenance.empty where
  dense := dense_empty
  token _ _ hget := by cases (StorageMap.get_empty _).symm.trans hget
  issued _ h := absurd rfl h
  single _ _ _ _ hget := by cases (StorageMap.get_empty _).symm.trans hget
  request _ _ hget := by cases (StorageMap.get_empty _).symm.trans hget

/-- The holders who have confirmed are as many as the accounts that have. -/
theorem card_le_confirmers {issue : Issue AccountId} {confirmed : List (ℕ × Origin AccountId)}
    (h : ∀ e ∈ confirmed, ∃ who ∈ issue.holders, e.2 = .signed who) :
    (confirmed.map Prod.snd).toFinset.card ≤ (issue.confirmers confirmed).card := by
  have hsub : (confirmed.map Prod.snd).toFinset ⊆
      (issue.confirmers confirmed).image Origin.signed := by
    intro origin horigin
    obtain ⟨e, he, rfl⟩ := List.mem_map.mp (List.mem_toFinset.mp horigin)
    obtain ⟨who, hwho, heq⟩ := h e he
    refine Finset.mem_image.mpr ⟨who, Finset.mem_filter.mpr ⟨List.mem_toFinset.mpr hwho, ?_⟩,
      heq.symm⟩
    exact heq ▸ List.mem_map_of_mem he
  exact (Finset.card_le_card hsub).trans Finset.card_image_le

omit [DecidableEq AccountId] in
/-- Where more than one holder is needed, nobody has confirmed twice. -/
theorem Traced.confirmed_inj (h : Traced w p) {id : Identifier} {req : RecoveryRequest AccountId}
    (hreq : RequestTraced w.toState (p.confirmed id) id req) (htwo : 2 ≤ req.threshold)
    {e e' : ℕ × Origin AccountId} (he : e ∈ p.confirmed id) (he' : e' ∈ p.confirmed id)
    (hsame : e.2 = e'.2) : e = e' := by
  obtain ⟨tokenId, nft, hnft, hgroup, -, -, -, hthreshold⟩ := hreq.token
  obtain ⟨issue, hissue, hcarries⟩ := h.token tokenId nft hnft
  obtain ⟨-, nft₁, hnft₁, hgroup₁, hsigned₁⟩ := hreq.confirmed e he
  obtain ⟨-, nft₂, hnft₂, hgroup₂, hsigned₂⟩ := hreq.confirmed e' he'
  obtain ⟨issue₂, hissue₂, hcarries₂⟩ := h.token e'.1 nft₂ hnft₂
  -- the tokens are of one issue, which asks for as many as the request does
  rw [hgroup₂, ← hgroup, hissue] at hissue₂
  obtain rfl := List.singleton_inj.mp hissue₂
  have htwo₂ : 2 ≤ nft₂.threshold := by
    rw [← hcarries₂.threshold, hcarries.threshold, hthreshold]
    exact htwo
  have hholder : nft₁.holder = nft₂.holder := by
    rw [hsigned₁, hsigned₂] at hsame
    exact Origin.signed.inj hsame
  have hfst := h.single e'.1 e.1 nft₂ nft₁ hnft₂ hnft₁ (hgroup₁.trans hgroup₂.symm) hholder htwo₂
  exact Prod.ext hfst hsame

/-- As many of the accounts have confirmed an executed request as were asked for. -/
theorem Traced.threshold_le (h : Traced w p) {id : Identifier} {req : RecoveryRequest AccountId}
    (hreq : RequestTraced w.toState (p.confirmed id) id req) (hstatus : req.status = .executed) :
    req.threshold ≤ ((p.confirmed id).map Prod.snd).toFinset.card := by
  have hcount := (hreq.executed hstatus).trans hreq.counted
  by_cases htwo : 2 ≤ req.threshold
  · have hnodup : ((p.confirmed id).map Prod.snd).Nodup :=
      List.Nodup.map_on (fun _ he _ he' => h.confirmed_inj hreq htwo he he') hreq.nodup.of_map
    rw [List.toFinset_card_of_nodup hnodup, List.length_map]
    exact hcount
  · cases hconfirmed : p.confirmed id with
    | nil => rwa [hconfirmed] at hcount
    | cons e es =>
      have hpos : 0 < ((e :: es).map Prod.snd).toFinset.card :=
        Finset.card_pos.mpr ⟨e.2, List.mem_toFinset.mpr List.mem_cons_self⟩
      omega

/-- An executed request is as its target has programmed it. -/
theorem Traced.programmed (h : Traced w p) : Programmed w p where
  executed id req hget hstatus := by
    have hreq := h.request id req hget
    obtain ⟨tokenId, nft, hnft, hgroup, htarget, hkind, hvault, hthreshold⟩ := hreq.token
    obtain ⟨issue, hissue, hcarries⟩ := h.token tokenId nft hnft
    have hholders : ∀ e ∈ p.confirmed id, ∃ who ∈ issue.holders, e.2 = .signed who := by
      intro e he
      obtain ⟨-, nft', hnft', hgroup', hsigned⟩ := hreq.confirmed e he
      obtain ⟨issue', hissue', hcarries'⟩ := h.token e.1 nft' hnft'
      rw [hgroup', ← hgroup, hissue] at hissue'
      obtain rfl := List.singleton_inj.mp hissue'
      exact ⟨nft'.holder, hcarries'.holder, hsigned⟩
    refine ⟨issue, ?_, ?_, ?_, ?_, ?_, ?_⟩
    · rw [← hgroup, hissue]
      exact List.mem_singleton_self issue
    · rw [hcarries.origin, htarget]
    · rw [hcarries.target, htarget]
    · rw [hcarries.destination, hkind]
    · rw [hcarries.vault, hvault]
    · rw [hcarries.threshold, hthreshold]
      exact (h.threshold_le hreq hstatus).trans (card_le_confirmers hholders)
  destination tokenId tokenId' nft nft' hnft hnft' hgroup := by
    obtain ⟨issue, hissue, hcarries⟩ := h.token tokenId nft hnft
    obtain ⟨issue', hissue', hcarries'⟩ := h.token tokenId' nft' hnft'
    rw [hgroup, hissue] at hissue'
    obtain rfl := List.singleton_inj.mp hissue'
    exact ⟨hcarries'.target.symm.trans hcarries.target,
      hcarries'.destination.symm.trans hcarries.destination,
      Subtype.ext (hcarries'.vault.symm.trans hcarries.vault)⟩

/-! ### One input -/

omit [DecidableEq AccountId] in
/-- What has confirmed a request is still there. -/
theorem RequestTraced.mono {s s' : State AccountId} {confirmed : List (ℕ × Origin AccountId)}
    {id : Identifier} {req : RecoveryRequest AccountId} (h : RequestTraced s confirmed id req)
    (htokens : ∀ tokenId nft, s.recoveryNfts.get tokenId = some nft →
      s'.recoveryNfts.get tokenId = some nft)
    (hmarks : ∀ tokenId, s.recoveryConfirmations.getD (id, tokenId) false = true →
      s'.recoveryConfirmations.getD (id, tokenId) false = true) :
    RequestTraced s' confirmed id req := by
  obtain ⟨tokenId, nft, hnft, hsays⟩ := h.token
  refine ⟨⟨tokenId, nft, htokens tokenId nft hnft, hsays⟩, h.counted, h.nodup, ?_, h.executed⟩
  intro e he
  obtain ⟨hmark, nft, hnft, hrest⟩ := h.confirmed e he
  exact ⟨hmarks e.1 hmark, nft, htokens e.1 nft hnft, hrest⟩

omit [DecidableEq AccountId] in
/-- The tokens after an issue are those before, and those of the holders. -/
theorem token_of_minted {s : State AccountId} {issue : Issue AccountId} {id : Identifier}
    {vault : VaultAddress} {now : ℕ}
    (hminted : Minted (issue.holders.zipIdx.map (issue.token id vault now)) w.toState s)
    {tokenId : ℕ} {nft : Token AccountId} (hget : s.recoveryNfts.get tokenId = some nft) :
    w.recoveryNfts.get tokenId = some nft ∨ ∃ i holder, issue.holders[i]? = some holder ∧
      tokenId = w.nextRecoveryTokenId + i ∧
        nft = { issue.token id vault now (holder, i) with tokenId := tokenId } := by
  rcases hminted.old_or_new tokenId nft hget with hget | ⟨i, token, hi, hid, hnft⟩
  · exact Or.inl hget
  · rw [List.getElem?_map, List.getElem?_zipIdx, Nat.zero_add, Option.map_map,
      Option.map_eq_some_iff] at hi
    obtain ⟨holder, hholder, rfl⟩ := hi
    exact Or.inr ⟨i, holder, hholder, hid, hnft⟩

omit [DecidableEq AccountId] in
/-- **The target issues tokens** of a new group. -/
theorem Traced.issue (h : Traced w p) {s : State AccountId} {issue : Issue AccountId}
    {id : Identifier} {vault : VaultAddress} {now : ℕ} {p' : Provenance AccountId}
    (hminted : Minted (issue.holders.zipIdx.map (issue.token id vault now)) w.toState s)
    (horigin : issue.origin = .signed issue.targetAccount) (hvault : issue.vaultAddress = vault.val)
    (hholders : issue.holders ≠ []) (hnodup : 2 ≤ issue.threshold → issue.holders.Nodup)
    (hfresh : ∀ tokenId nft, w.recoveryNfts.get tokenId = some nft → nft.groupId ≠ id)
    (hrequests : s.recoveryRequests = w.recoveryRequests)
    (hmarks : s.recoveryConfirmations = w.recoveryConfirmations)
    (hself : p'.issues id = p.issues id ++ [issue])
    (hother : ∀ id', id' ≠ id → p'.issues id' = p.issues id')
    (hconfirmed : p'.confirmed = p.confirmed) : Traced { w with toState := s } p' := by
  have hnone : p.issues id = [] := by
    by_contra hsome
    obtain ⟨tokenId, nft, hnft, hgroup⟩ := h.issued id hsome
    exact hfresh tokenId nft hnft hgroup
  rw [hnone, List.nil_append] at hself
  refine ⟨hminted.dense, ?_, ?_, ?_, ?_⟩
  · intro tokenId nft hget
    rcases token_of_minted hminted hget with hget | ⟨i, holder, hholder, -, rfl⟩
    · rw [hother nft.groupId (hfresh tokenId nft hget)]
      exact h.token tokenId nft hget
    · exact ⟨issue, hself, horigin, rfl, rfl, hvault, rfl, List.mem_of_getElem? hholder⟩
  · intro groupId hsome
    by_cases hid : groupId = id
    · obtain ⟨holder, hholder⟩ := List.exists_mem_of_ne_nil issue.holders hholders
      obtain ⟨i, hi⟩ := List.mem_iff_getElem?.mp hholder
      obtain ⟨tokenId, hget⟩ := hminted.entered (issue.token id vault now (holder, i))
        (List.mem_map_of_mem (List.mem_iff_getElem?.mpr ⟨i, by simp [hi]⟩))
      exact ⟨tokenId, _, hget, hid.symm⟩
    · rw [hother groupId hid] at hsome
      obtain ⟨tokenId, nft, hnft, hgroup⟩ := h.issued groupId hsome
      exact ⟨tokenId, nft, hminted.kept tokenId nft hnft, hgroup⟩
  · intro tokenId tokenId' nft nft' hget hget' hgroup hholder htwo
    rcases token_of_minted hminted hget with hold | ⟨i, holder, hi, rfl, rfl⟩
    · rcases token_of_minted hminted hget' with hold' | ⟨i', holder', -, -, rfl⟩
      · exact h.single tokenId tokenId' nft nft' hold hold' hgroup hholder htwo
      · exact absurd hgroup.symm (hfresh tokenId nft hold)
    · rcases token_of_minted hminted hget' with hold' | ⟨i', holder', hi', rfl, rfl⟩
      · exact absurd hgroup (hfresh tokenId' nft' hold')
      · -- two tokens of the issue that name one holder are the same
        obtain rfl : holder' = holder := hholder
        have hlt := (List.getElem?_eq_some_iff.mp hi').1
        rw [(List.getElem?_inj hlt (hnodup htwo)).mp (hi'.trans hi.symm)]
  · intro id' req hreq
    rw [hconfirmed]
    have hreq : w.recoveryRequests.get id' = some req := hrequests ▸ hreq
    refine (h.request id' req hreq).mono hminted.kept fun tokenId hmark => ?_
    rw [hmarks]
    exact hmark

omit [DecidableEq AccountId] in
/-- **One request**: what is asked of the others and of the tokens stays. -/
theorem Traced.update (h : Traced w p) {s : State AccountId} {p' : Provenance AccountId}
    {id : Identifier} {req : RecoveryRequest AccountId}
    (htokens : s.recoveryNfts = w.recoveryNfts)
    (hnext : s.nextRecoveryTokenId = w.nextRecoveryTokenId)
    (hrequests : s.recoveryRequests = w.recoveryRequests.insert id req)
    (hmarks : ∀ id' tokenId, w.recoveryConfirmations.getD (id', tokenId) false = true →
      s.recoveryConfirmations.getD (id', tokenId) false = true)
    (hissues : p'.issues = p.issues) (hother : ∀ id', id' ≠ id → p'.confirmed id' = p.confirmed id')
    (hreq : RequestTraced s (p'.confirmed id) id req) : Traced { w with toState := s } p' where
  dense := by
    rw [htokens, hnext]
    exact h.dense
  token tokenId nft hget := by
    rw [hissues]
    exact h.token tokenId nft (htokens ▸ hget)
  issued groupId hsome := by
    rw [htokens]
    exact h.issued groupId (hissues ▸ hsome)
  single := by
    rw [htokens]
    exact h.single
  request id' req' hget := by
    rw [hrequests] at hget
    rcases StorageMap.get_insert_cases hget with ⟨rfl, rfl⟩ | ⟨hne, hget⟩
    · exact hreq
    · rw [hother id' hne]
      refine (h.request id' req' hget).mono (fun tokenId nft hnft => ?_) (hmarks id')
      rwa [htokens]

omit [DecidableEq AccountId] in
/-- A holder initiates a recovery. -/
theorem Traced.initiate (h : Traced w p) {tokenId : ℕ} {nft : Token AccountId} {id : Identifier}
    (hnft : w.recoveryNfts.get tokenId = some nft) :
    Traced { w with toState := initiated cfg w.now tokenId nft id w.toState }
      (trace w (.call (.signed nft.holder) (.initiateRecovery tokenId id.val)) p) := by
  refine h.update rfl rfl rfl (fun id' tokenId' hmark => ?_) rfl (fun id' hne => ?_) ?_
  · exact StorageMap.getD_insert_true.mpr (Or.inr hmark)
  · exact if_neg fun hval => hne (Subtype.ext hval)
  · simp only [trace, if_true]
    refine ⟨⟨tokenId, nft, hnft, rfl, rfl, rfl, rfl, rfl⟩, Nat.le_refl 1, List.nodup_singleton _,
      ?_, nofun⟩
    intro e he
    obtain rfl := List.mem_singleton.mp he
    exact ⟨StorageMap.getD_insert_true.mpr (Or.inl rfl), nft, hnft, rfl, rfl⟩

omit [DecidableEq AccountId] in
/-- The holder of another token of the group confirms it. -/
theorem Traced.confirm (h : Traced w p) {tokenId : ℕ} {nft : Token AccountId} {id : Identifier}
    {req : RecoveryRequest AccountId} (hready : Ready w.toState w.now tokenId id nft req) :
    Traced { w with toState := confirmed tokenId id req w.toState }
      (trace w (.call (.signed nft.holder) (.confirmRecovery tokenId id.val)) p) := by
  have hreq := h.request id req hready.request
  have hmarks : ∀ id' tokenId', w.recoveryConfirmations.getD (id', tokenId') false = true →
      (w.recoveryConfirmations.insert (id, tokenId) true).getD (id', tokenId') false = true :=
    fun _ _ hmark => StorageMap.getD_insert_true.mpr (Or.inr hmark)
  refine h.update rfl rfl rfl hmarks rfl (fun id' hne => ?_) ?_
  · exact if_neg fun hval => hne (Subtype.ext hval)
  · simp only [trace, if_true]
    obtain ⟨status, hconfirmed, hexecuted⟩ := hready.confirmed_eq
    obtain ⟨tokenId', nft', hnft', hsays⟩ := hreq.token
    rw [hconfirmed]
    refine ⟨⟨tokenId', nft', hnft', hsays⟩, ?_, ?_, ?_, hexecuted⟩
    · rw [List.length_append, List.length_singleton]
      exact saturatingAdd_le_add.trans (Nat.add_le_add_right hreq.counted 1)
    · rw [List.map_append, List.map_singleton, ← List.concat_eq_append]
      refine List.Nodup.concat (fun hmem => ?_) hreq.nodup
      -- what has confirmed is marked, and this token is not
      obtain ⟨e, he, heq⟩ := List.mem_map.mp hmem
      have hmark := (hreq.confirmed e he).1
      dsimp only at heq
      rw [heq, hready.unconfirmed] at hmark
      cases hmark
    · intro e he
      rcases List.mem_append.mp he with he | he
      · obtain ⟨hmark, hholder⟩ := hreq.confirmed e he
        exact ⟨hmarks id e.1 hmark, hholder⟩
      · obtain rfl := List.mem_singleton.mp he
        exact ⟨StorageMap.getD_insert_true.mpr (Or.inl rfl), nft, hready.token, hready.group, rfl⟩

omit [DecidableEq AccountId] in
/-- The target vetoes it. -/
theorem Traced.veto (h : Traced w p) {id : Identifier} {req : RecoveryRequest AccountId}
    (hget : w.recoveryRequests.get id = some req) :
    Traced { w with toState := { w.toState with
      recoveryRequests := w.recoveryRequests.insert id { req with status := .ownerVetoed } } }
      p := by
  have hreq := h.request id req hget
  refine h.update rfl rfl rfl (fun _ _ hmark => hmark) rfl (fun _ _ => rfl) ?_
  exact ⟨hreq.token, hreq.counted, hreq.nodup, hreq.confirmed, nofun⟩

/-- **One input** of which as much holds as is asked for. -/
theorem traced_step (h : Traced w p) (howned : Owned w x) (hstep : step cfg x w = .ok w') :
    Traced w' (trace w x p) ∧ TokensKept w w' := by
  cases x with
  | block =>
    obtain ⟨-, rfl⟩ := step_block.mp hstep
    exact ⟨⟨h.dense, h.token, h.issued, h.single, h.request⟩, fun _ _ hget => hget⟩
  | call origin c =>
    obtain ⟨s, hs, rfl⟩ := step_call.mp hstep
    cases c with
    | issueRecoveryNfts groupId targetAccount holders destinationKind vaultAddress threshold =>
      obtain ⟨horigin, hfresh, hnodup, hroom⟩ := howned
      have hissued := issueRecoveryNfts_issued hs
      obtain ⟨id, vault, rfl, rfl, hholders, rfl⟩ := issueRecoveryNfts_eq_ok hs
      let tokens := holders.zipIdx.map (Issue.token ⟨origin, targetAccount, holders,
        destinationKind, vault.val, threshold⟩ id vault w.now)
      have hminted : Minted tokens w.toState (tokens.foldl mint w.toState) :=
        foldl_mint h.dense (by simpa [tokens] using hroom)
      refine ⟨h.issue hminted horigin rfl hholders hnodup ?_ hissued.requests hissued.confirmations
        (if_pos rfl) ?_ rfl, hminted.kept⟩
      · intro tokenId nft hget hgroup
        exact hfresh tokenId nft hget (congrArg Subtype.val hgroup)
      · intro id' hne
        exact if_neg fun hval => hne (Subtype.ext hval)
    | initiateRecovery tokenId requestId =>
      obtain ⟨nft, id, hnft, horigin, rfl, rfl⟩ := initiateRecovery_eq_ok.mp hs
      obtain rfl : origin = .signed nft.holder := horigin
      exact ⟨h.initiate hnft, fun _ _ hget => hget⟩
    | vetoRecovery requestId =>
      obtain ⟨id, req, -, hreq, -, -, rfl⟩ := vetoRecovery_eq_ok.mp hs
      exact ⟨h.veto hreq, fun _ _ hget => hget⟩
    | confirmRecovery tokenId requestId =>
      obtain ⟨nft, id, req, rfl, horigin, hready, rfl⟩ := confirmRecovery_eq_ok.mp hs
      obtain rfl : origin = .signed nft.holder := horigin
      exact ⟨h.confirm hready, fun _ _ hget => hget⟩

/-! ### Runs -/

/-- **Recoveries are as their targets have programmed them**, in the runs in which tokens are issued
by their targets, once for every group, to different holders if more than one is needed, and there
are numbers for them. -/
theorem recovery_programmed (cfg : Config AccountId) (now : UInt32) (xs : List (Input AccountId))
    (howned : Along (step cfg) Owned xs (World.genesis now)) :
    Throughout (recording trace (step cfg)) (fun t => Programmed t.1 t.2) xs
        (World.genesis now, .empty) ∧
      Ascending (step cfg) TokensKept xs (World.genesis now) := by
  have hrun : Throughout (recording trace (step cfg)) (fun t => Traced t.1 t.2) xs
      (World.genesis now, .empty) := by
    refine throughout_of_along ?_ traced_genesis (along_recording.mpr howned)
    rintro x ⟨w, p⟩ ⟨w', p'⟩ h hx hstep
    obtain ⟨hstep, rfl⟩ := recording_eq_ok.mp hstep
    exact (traced_step h hx hstep).1
  refine ⟨hrun.imp fun _ => Traced.programmed, ?_⟩
  refine ascending_of_invariant (J := fun w => ∃ p, Traced w p) (fun _ _ _ hget => hget) ?_ ?_ ?_
    ⟨_, traced_genesis⟩ howned
  · intro w w' w'' hw hw' tokenId nft hget
    exact hw' tokenId nft (hw tokenId nft hget)
  · rintro x w w' ⟨p, h⟩ hx hstep
    exact ⟨_, (traced_step h hx hstep).1⟩
  · rintro x w w' ⟨p, h⟩ hx hstep
    exact (traced_step h hx hstep).2

/-- Account nine has its account recovered by accounts one and two, and account one initiates it. -/
def programmed : List (Input ℕ) :=
  [.call (.signed 9) (.issueRecoveryNfts [] 9 [1, 2] .familyVault [7] 2),
    .call (.signed 1) (.initiateRecovery 0 [])]

theorem owned_programmed : Along (step Runtime.recoveryNft) Owned
    (programmed ++ (List.replicate 43201 .block ++ confirmedByTwo)) (World.genesis 0) := by
  refine along_append.mpr ⟨⟨fun _ _ => ?_, fun _ _ => trivial, trivial⟩,
    along_append.mpr ⟨along_replicate (fun _ => trivial) _ _, fun _ _ => trivial, trivial⟩⟩
  refine ⟨rfl, fun tokenId nft h => ?_, fun _ => by decide, by decide⟩
  cases (StorageMap.get_empty tokenId).symm.trans h

theorem recovery_programmed_family :
    (Throughout (recording trace (step Runtime.recoveryNft)) (fun t => Programmed t.1 t.2)
          (programmed ++ (List.replicate 43201 .block ++ confirmedByTwo))
          (World.genesis 0, .empty) ∧
        Ascending (step Runtime.recoveryNft) TokensKept
          (programmed ++ (List.replicate 43201 .block ++ confirmedByTwo)) (World.genesis 0)) ∧
      ((run (recording trace (step Runtime.recoveryNft))
        (programmed ++ (List.replicate 43201 .block ++ confirmedByTwo))
          (World.genesis 0, .empty)).1.recoveryRequests.get .empty).map RecoveryRequest.status =
            some .executed := by
  refine ⟨recovery_programmed Runtime.recoveryNft 0 _ owned_programmed, ?_⟩
  rw [run_append, run_append, run_passed (fun _ _ => rfl) (by decide +kernel)]
  decide +kernel

/-- Account one issues tokens for the account of account nine to itself and to account two, and
initiates the recovery. -/
def usurped : List (Input ℕ) :=
  [.call (.signed 1) (.issueRecoveryNfts [] 9 [1, 2] .personalBankVault [] 1),
    .call (.signed 1) (.initiateRecovery 0 [])]

/-- Recoveries are not as their targets have programmed them in every run: an account issues the
tokens for another itself, and the recovery is executed. -/
theorem recovery_not_programmed : ¬ ∀ xs,
    Throughout (recording trace (step Runtime.recoveryNft)) (fun t => Programmed t.1 t.2) xs
        (World.genesis 0, .empty) ∧
      Ascending (step Runtime.recoveryNft) TokensKept xs (World.genesis 0) := by
  intro hprogrammed
  have hlast := (hprogrammed (usurped ++ (List.replicate 43201 .block ++ confirmedByTwo))).1.last
  rw [run_append, run_append, run_passed (fun _ _ => rfl) (by decide +kernel)] at hlast
  set t := run (recording trace (step Runtime.recoveryNft)) confirmedByTwo
    (passed 43201 (run (recording trace (step Runtime.recoveryNft)) usurped
      (World.genesis 0, .empty))) with ht
  have hexecuted : (t.1.recoveryRequests.get .empty).map (fun req =>
      (req.status, req.targetAccount, req.groupId)) = some (.executed, 9, .empty) := by
    rw [ht]
    decide +kernel
  have hissues : (t.2.issues .empty).map Issue.origin = [.signed 1] := by
    rw [ht]
    decide +kernel
  obtain ⟨req, hreq, hsays⟩ := Option.map_eq_some_iff.mp hexecuted
  obtain ⟨hstatus, htarget, hgroup⟩ : req.status = .executed ∧ req.targetAccount = 9 ∧
      req.groupId = .empty := by simpa using hsays
  obtain ⟨issue, hmem, horigin, -⟩ := hlast.executed .empty req hreq hstatus
  -- the only issue of the group is by account one
  have honly : issue.origin ∈ (t.2.issues .empty).map Issue.origin :=
    List.mem_map_of_mem (hgroup ▸ hmem)
  rw [hissues, horigin, htarget] at honly
  simp at honly

end RecoveryNft
