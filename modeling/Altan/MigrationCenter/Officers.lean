import Altan.MigrationCenter.Anchors

/-!
# Who approves applications

An application is approved by the account that has claimed it, with a signature of the hash of this
application and of the block of the claim. The message determines both, so that a signature serves
for one application in one block. The officers are registered off the chain, and nothing asks
whether an account that claims is one of them: approvals are by registered officers other than the
applicant just where all claims are.

## Main definitions

* `Claim`, `recordClaim`: the claims that are accepted
* `Approves`: an input approves the application of an applicant
* `Accountable`: registered officers approve what they have claimed, and not for themselves
* `ClaimedByOfficer`: a claim is by a registered officer other than the applicant

## Main results

* `claimMessage_injective`: the message determines the application and the block
* `claimed_step`: what is under review has been claimed
* `Claimed.accountable_iff`, `WithOfficers.step_iff`: one state and one input
* `approvals_accountable_iff`: the runs in which approvals are accountable
* `applicant_approves`: an applicant who approves the own application
-/

open Bounded Dispatch TransitionSystem

namespace MigrationCenter

/-! ### Messages -/

section Messages

variable {h h' : Bytes32} {blockNum blockNum' : UInt64} {block block' : UInt32}

theorem wrapBytes_injective {msg msg' : List UInt8} (h : wrapBytes msg = wrapBytes msg') :
    msg = msg' :=
  List.append_cancel_left (List.append_cancel_right h)

theorem h256ToHex_injective (hhex : h256ToHex h = h256ToHex h') : h = h' :=
  Vector.toList_inj.mp (Text.hexadecimal_injective hhex)

/-- The message of a claim determines the hash and the number of the block. -/
theorem buildClaimMessage_injective
    (hmsg : buildClaimMessage (h256ToHex h) blockNum = buildClaimMessage (h256ToHex h') blockNum') :
    h = h' ∧ blockNum = blockNum' := by
  simp only [buildClaimMessage, List.append_assoc] at hmsg
  have hrest := List.append_cancel_left hmsg
  -- the hashes are of one length
  have hlength : (h256ToHex h).length = (h256ToHex h').length := by
    simp only [h256ToHex, Text.length_hexadecimal, Vector.length_toList]
  obtain ⟨hhex, hrest⟩ := List.append_inj hrest hlength
  have hdecimal := Text.decimal_injective (List.append_cancel_left hrest)
  exact ⟨h256ToHex_injective hhex, UInt64.toNat.inj hdecimal⟩

/-- **What an officer signs** determines the application and the block. -/
theorem claimMessage_injective (hmsg : claimMessage h block = claimMessage h' block') :
    h = h' ∧ block = block' := by
  obtain ⟨hhash, hblock⟩ := buildClaimMessage_injective (wrapBytes_injective hmsg)
  exact ⟨hhash, UInt32.toUInt64_inj.mp hblock⟩

end Messages

variable {AccountId : Type} [DecidableEq AccountId] {cfg : Config AccountId}
  {s : State AccountId} {w w' : World AccountId} {applicant officer : AccountId}
  {anchor : ApplicationAnchor AccountId}

/-! ### Claims -/

/-- A claim of an application. -/
structure Claim (AccountId : Type) where
  officer : AccountId
  applicant : AccountId
  applicationIdHash : Bytes32
  block : UInt32
  officerSig : OfficerSig

/-- The claims after an accepted input: one more if it is a claim. -/
def recordClaim (w : World AccountId) :
    Input AccountId → List (Claim AccountId) → List (Claim AccountId)
  | .call (.signed officer) (.claimApplication applicant officerSig), claims =>
    claims ++ (w.applicationAnchors.get applicant).toList.map fun anchor =>
      { officer := officer
        applicant := applicant
        applicationIdHash := anchor.applicationIdHash
        block := w.now
        officerSig := officerSig }
  | _, claims => claims

/-- The system with the claims that it has accepted. -/
abbrev claiming (cfg : Config AccountId) := recording recordClaim (step cfg)

/-- The claim is of the application that the anchor is of, as its officer has signed it. -/
structure Claim.Backs (cfg : Config AccountId) (claim : Claim AccountId) (applicant : AccountId)
    (anchor : ApplicationAnchor AccountId) : Prop where
  applicant : claim.applicant = applicant
  application : claim.applicationIdHash = anchor.applicationIdHash
  officer : anchor.officer = some claim.officer
  officerSig : anchor.officerClaimSig = some claim.officerSig
  block : anchor.claimedAtBlock = some claim.block
  signed : Signed cfg claim.officer anchor.applicationIdHash claim.block claim.officerSig

/-- What is under review has been claimed. -/
def Claimed (cfg : Config AccountId) (s : State AccountId) (claims : List (Claim AccountId)) :
    Prop :=
  ∀ applicant anchor, s.applicationAnchors.get applicant = some anchor →
    anchor.status = .underReview → ∃ claim ∈ claims, claim.Backs cfg applicant anchor

variable {claims claims' : List (Claim AccountId)}

theorem claimed_genesis (now : UInt32) :
    Claimed cfg (World.genesis now : World AccountId).toState [] := by
  intro applicant anchor hanchor
  cases (StorageMap.get_empty applicant).symm.trans hanchor

/-- Another anchor of one applicant, under review as claimed, leaves the others as they were. -/
theorem Claimed.insert {s' : State AccountId} (h : Claimed cfg s claims)
    (hget : s'.applicationAnchors = s.applicationAnchors.insert applicant anchor)
    (hsub : ∀ claim ∈ claims, claim ∈ claims')
    (hanchor : anchor.status = .underReview → ∃ claim ∈ claims', claim.Backs cfg applicant anchor) :
    Claimed cfg s' claims' := by
  intro a other hother hreview
  rw [hget] at hother
  rcases StorageMap.get_insert_cases hother with ⟨rfl, rfl⟩ | ⟨-, hother⟩
  · exact hanchor hreview
  · obtain ⟨claim, hmem, hbacks⟩ := h a other hother hreview
    exact ⟨claim, hsub claim hmem, hbacks⟩

/-- **An accepted input** leaves what is under review claimed. -/
theorem claimed_step {i : Input AccountId} (h : Claimed cfg w.toState claims)
    (hs : step cfg i w = .ok w') : Claimed cfg w'.toState (recordClaim w i claims) := by
  cases i with
  | block =>
    obtain ⟨-, rfl⟩ := step_block.mp hs
    exact h
  | call origin c =>
    obtain ⟨s, hd, rfl⟩ := step_call.mp hs
    cases c with
    | submitApplication applicationIdHash dataHash =>
      obtain ⟨applicant, rfl, -, -, rfl⟩ := submitApplication_eq_ok.mp hd
      exact h.insert rfl (fun _ hmem => hmem) nofun
    | claimApplication applicant officerSig =>
      obtain ⟨officer, anchor, rfl, hanchor, -, hsigned, rfl⟩ := claimApplication_eq_ok.mp hd
      -- the claim that is recorded backs the anchor that it puts under review
      refine h.insert rfl (fun _ hmem => List.mem_append_left _ hmem) fun _ => ?_
      refine ⟨⟨officer, applicant, anchor.applicationIdHash, w.now, officerSig⟩,
        List.mem_append_right _ ?_, ⟨rfl, rfl, rfl, rfl, rfl, hsigned⟩⟩
      rw [hanchor]
      exact List.mem_singleton.mpr rfl
    | finalizeApplication applicant approved outcomeHash =>
      obtain ⟨officer, anchor, rfl, -, -, -, rfl⟩ := finalizeApplication_eq_ok.mp hd
      -- what is finalized is no longer under review
      refine h.insert rfl (fun _ hmem => hmem) fun hreview => ?_
      cases approved with
      | true => cases hreview
      | false => cases hreview
    | revokeApplication applicant =>
      obtain ⟨rfl, anchor, -, -, rfl⟩ := revokeApplication_eq_ok.mp hd
      exact h.insert rfl (fun _ hmem => hmem) nofun

/-! ### Approvals -/

/-- The application of an applicant is not approved, and is after the input. -/
def Approves (cfg : Config AccountId) (w : World AccountId) (i : Input AccountId)
    (applicant : AccountId) : Prop :=
  isApplicationApproved w.toState applicant = false ∧
    isApplicationApproved (exec (step cfg) i w).toState applicant = true

/-- Another anchor approves nobody but its applicant. -/
theorem approved_insert {s' : State AccountId} {a : AccountId}
    (hget : s'.applicationAnchors = s.applicationAnchors.insert applicant anchor)
    (hbefore : isApplicationApproved s a = false) (hafter : isApplicationApproved s' a = true) :
    a = applicant ∧ anchor.status = .approved := by
  obtain ⟨other, hother, hstatus⟩ := isApplicationApproved_iff.mp hafter
  rw [hget] at hother
  rcases StorageMap.get_insert_cases hother with ⟨rfl, rfl⟩ | ⟨-, hother⟩
  · exact ⟨rfl, hstatus⟩
  · have happroved := isApplicationApproved_iff.mpr ⟨other, hother, hstatus⟩
    cases hbefore.symm.trans happroved

/-- **An application is approved** by the officer of its anchor, which is under review. -/
theorem approves_cases {i : Input AccountId} (h : Approves cfg w i applicant) :
    ∃ officer outcomeHash anchor,
      i = .call (.signed officer) (.finalizeApplication applicant true outcomeHash) ∧
      w.applicationAnchors.get applicant = some anchor ∧ anchor.status = .underReview ∧
      anchor.officer = some officer := by
  obtain ⟨hbefore, hafter⟩ := h
  rcases exec_cases (step cfg) i w with ⟨w', hs, he⟩ | ⟨_, _, he⟩
  · rw [he] at hafter
    cases i with
    | block =>
      obtain ⟨-, rfl⟩ := step_block.mp hs
      cases hbefore.symm.trans hafter
    | call origin c =>
      obtain ⟨s, hd, rfl⟩ := step_call.mp hs
      cases c with
      | submitApplication applicationIdHash dataHash =>
        obtain ⟨a, rfl, -, -, rfl⟩ := submitApplication_eq_ok.mp hd
        exact nomatch (approved_insert rfl hbefore hafter).2
      | claimApplication a officerSig =>
        obtain ⟨officer, anchor, rfl, -, -, -, rfl⟩ := claimApplication_eq_ok.mp hd
        exact nomatch (approved_insert rfl hbefore hafter).2
      | finalizeApplication a approved outcomeHash =>
        obtain ⟨officer, anchor, rfl, hanchor, hreview, hofficer, rfl⟩ :=
          finalizeApplication_eq_ok.mp hd
        obtain ⟨rfl, hstatus⟩ := approved_insert rfl hbefore hafter
        cases approved with
        | true => exact ⟨officer, outcomeHash, anchor, rfl, hanchor, hreview, hofficer⟩
        | false => cases hstatus
      | revokeApplication a =>
        obtain ⟨rfl, anchor, -, -, rfl⟩ := revokeApplication_eq_ok.mp hd
        exact nomatch (approved_insert rfl hbefore hafter).2
  · rw [he] at hafter
    cases hbefore.symm.trans hafter

omit [DecidableEq AccountId] in
/-- A signature that verifies for one message only serves for one application in one block. -/
theorem Signed.serves_once {signedMessage : Vector UInt8 64 → List UInt8}
    (hverify : ∀ sig message key, cfg.sr25519Verify sig message key = true →
      message = signedMessage sig)
    {officer officer' : AccountId} {h h' : Bytes32} {block block' : UInt32} {sig : OfficerSig}
    (hs : Signed cfg officer h block sig) (hs' : Signed cfg officer' h' block' sig) :
    h = h' ∧ block = block' := by
  obtain ⟨sigBytes, key, hbytes, -, hvalid⟩ := hs
  obtain ⟨sigBytes', key', hbytes', -, hvalid'⟩ := hs'
  obtain rfl := Vector.toList_inj.mp (hbytes.trans hbytes'.symm)
  exact claimMessage_injective
    ((hverify sigBytes _ key hvalid).trans (hverify sigBytes _ key' hvalid').symm)

/-- The claim of the account that approves the application of an applicant with an input. -/
def Claim.Underlies (cfg : Config AccountId) (claim : Claim AccountId) (w : World AccountId)
    (i : Input AccountId) (applicant : AccountId) : Prop :=
  ∃ outcomeHash anchor,
    i = .call (.signed claim.officer) (.finalizeApplication applicant true outcomeHash) ∧
    w.applicationAnchors.get applicant = some anchor ∧ claim.Backs cfg applicant anchor

/-- What is approved has been claimed by the account that approves it. -/
theorem Claimed.underlies {i : Input AccountId} (h : Claimed cfg w.toState claims)
    (happroves : Approves cfg w i applicant) :
    ∃ claim ∈ claims, claim.Underlies cfg w i applicant := by
  obtain ⟨officer, outcomeHash, anchor, rfl, hanchor, hreview, hofficer⟩ := approves_cases happroves
  obtain ⟨claim, hmem, hbacks⟩ := h applicant anchor hanchor hreview
  -- the officer of the anchor is that of the claim
  obtain rfl := Option.some.inj (hofficer.symm.trans hbacks.officer)
  exact ⟨claim, hmem, outcomeHash, anchor, rfl, hanchor, hbacks⟩

/-- The officer of an application under review approves it. -/
theorem approves_finalize (hanchor : w.applicationAnchors.get applicant = some anchor)
    (hreview : anchor.status = .underReview) (hofficer : anchor.officer = some officer)
    (outcomeHash : Bytes32) :
    Approves cfg w (.call (.signed officer) (.finalizeApplication applicant true outcomeHash))
      applicant := by
  constructor
  · simp [isApplicationApproved, hanchor, hreview]
  · have hd : dispatch cfg ⟨.signed officer, w.now⟩
        (.finalizeApplication applicant true outcomeHash) w.toState = .ok _ :=
      finalizeApplication_eq_ok.mpr ⟨officer, anchor, rfl, hanchor, hreview, hofficer, rfl⟩
    rw [exec_ok (step_call.mpr ⟨_, hd, rfl⟩)]
    exact isApplicationApproved_iff.mpr ⟨_, StorageMap.get_insert_self, rfl⟩

/-! ### Registered officers -/

section Officers

variable {registered : AccountId → Prop}

/-- Whoever approves an application next has claimed it, as a registered officer other than the
applicant. -/
def Accountable (cfg : Config AccountId) (registered : AccountId → Prop) (w : World AccountId)
    (claims : List (Claim AccountId)) : Prop :=
  ∀ i applicant, Approves cfg w i applicant →
    ∃ claim ∈ claims, claim.Underlies cfg w i applicant ∧ registered claim.officer ∧
      claim.officer ≠ applicant

/-- The input is a claim by a registered officer other than the applicant, or no claim. -/
def ClaimedByOfficer (registered : AccountId → Prop) : Input AccountId → Prop
  | .call (.signed officer) (.claimApplication applicant _) =>
    registered officer ∧ officer ≠ applicant
  | _ => True

/-- What is under review is with a registered officer other than the applicant. -/
def WithOfficers (registered : AccountId → Prop) (s : State AccountId) : Prop :=
  ∀ applicant anchor officer, s.applicationAnchors.get applicant = some anchor →
    anchor.status = .underReview → anchor.officer = some officer →
      registered officer ∧ officer ≠ applicant

theorem withOfficers_genesis (now : UInt32) :
    WithOfficers registered (World.genesis now : World AccountId).toState := by
  intro applicant anchor _ hanchor
  cases (StorageMap.get_empty applicant).symm.trans hanchor

/-- **Approvals are accountable** just where what is under review is with registered officers other
than the applicants. -/
theorem Claimed.accountable_iff (h : Claimed cfg w.toState claims) :
    Accountable cfg registered w claims ↔ WithOfficers registered w.toState := by
  constructor
  · intro haccountable applicant anchor officer hanchor hreview hofficer
    -- the officer approves the application next
    obtain ⟨claim, -, ⟨_, _, hi, -, -⟩, hclaim⟩ := haccountable _ applicant
      (approves_finalize hanchor hreview hofficer (Vector.replicate 32 0))
    injection hi with horigin
    obtain rfl := Origin.signed.inj horigin
    exact hclaim
  · intro hofficers i applicant happroves
    obtain ⟨claim, hmem, hunderlies⟩ := h.underlies happroves
    refine ⟨claim, hmem, hunderlies, ?_⟩
    obtain ⟨_, _, anchor, -, hanchor, hreview, -⟩ := approves_cases happroves
    obtain ⟨_, _, -, hanchor', hbacks⟩ := hunderlies
    obtain rfl := Option.some.inj (hanchor.symm.trans hanchor')
    exact hofficers applicant anchor claim.officer hanchor hreview hbacks.officer

/-- Another anchor of one applicant, with its officer. -/
theorem WithOfficers.insert_iff {s' : State AccountId} (h : WithOfficers registered s)
    (hget : s'.applicationAnchors = s.applicationAnchors.insert applicant anchor) :
    WithOfficers registered s' ↔ (anchor.status = .underReview →
      ∀ officer, anchor.officer = some officer → registered officer ∧ officer ≠ applicant) := by
  constructor
  · intro h' hreview officer hofficer
    refine h' applicant anchor officer ?_ hreview hofficer
    rw [hget]
    exact StorageMap.get_insert_self
  · intro hanchor a other officer hother hreview hofficer
    rw [hget] at hother
    rcases StorageMap.get_insert_cases hother with ⟨rfl, rfl⟩ | ⟨-, hother⟩
    · exact hanchor hreview officer hofficer
    · exact h a other officer hother hreview hofficer

/-- **An accepted input** leaves what is under review with registered officers just when it is not
a claim of another account. -/
theorem WithOfficers.step_iff {i : Input AccountId} (h : WithOfficers registered w.toState)
    (hs : step cfg i w = .ok w') :
    WithOfficers registered w'.toState ↔ ClaimedByOfficer registered i := by
  cases i with
  | block =>
    obtain ⟨-, rfl⟩ := step_block.mp hs
    exact iff_of_true h trivial
  | call origin c =>
    obtain ⟨s, hd, rfl⟩ := step_call.mp hs
    cases c with
    | submitApplication applicationIdHash dataHash =>
      obtain ⟨applicant, rfl, -, -, rfl⟩ := submitApplication_eq_ok.mp hd
      exact iff_of_true ((h.insert_iff rfl).mpr nofun) trivial
    | claimApplication applicant officerSig =>
      obtain ⟨officer, anchor, rfl, -, -, -, rfl⟩ := claimApplication_eq_ok.mp hd
      refine (h.insert_iff rfl).trans ⟨fun hanchor => hanchor rfl officer rfl, ?_⟩
      intro hofficer _ _ hsome
      rwa [← Option.some.inj hsome]
    | finalizeApplication applicant approved outcomeHash =>
      obtain ⟨officer, anchor, rfl, -, -, -, rfl⟩ := finalizeApplication_eq_ok.mp hd
      refine iff_of_true ((h.insert_iff rfl).mpr ?_) trivial
      -- what is finalized is no longer under review
      cases approved with
      | true => exact nofun
      | false => exact nofun
    | revokeApplication applicant =>
      obtain ⟨rfl, anchor, -, -, rfl⟩ := revokeApplication_eq_ok.mp hd
      exact iff_of_true ((h.insert_iff rfl).mpr nofun) trivial

/-- **Whose approvals are accountable.** In every run, the account that approves an application has
claimed this very application, with a valid signature of its hash and of the block of the claim. In
exactly the runs in which every accepted claim is by a registered officer other than the applicant,
all approvals are by such officers too. No signature serves for another application or block, for
the message is determined by both. -/
theorem approvals_accountable_iff (cfg : Config AccountId) (registered : AccountId → Prop)
    (signedMessage : Vector UInt8 64 → List UInt8)
    (hverify : ∀ sig message key, cfg.sr25519Verify sig message key = true →
      message = signedMessage sig)
    (now : UInt32) (is : List (Input AccountId)) :
    (∀ i applicant, Approves cfg (run (claiming cfg) is (.genesis now, [])).1 i applicant →
      ∃ claim ∈ (run (claiming cfg) is (.genesis now, [])).2,
        claim.Underlies cfg (run (claiming cfg) is (.genesis now, [])).1 i applicant) ∧
    (Throughout (claiming cfg) (fun t => Accountable cfg registered t.1 t.2) is
        (.genesis now, []) ↔
      Along (step cfg) (fun _ i => ClaimedByOfficer registered i) is (.genesis now)) ∧
    (∀ (h h' : Bytes32) (blockNum blockNum' : UInt64),
      wrapBytes (buildClaimMessage (h256ToHex h) blockNum) =
        wrapBytes (buildClaimMessage (h256ToHex h') blockNum') → h = h' ∧ blockNum = blockNum') ∧
    (∀ officer officer' h h' block block' sig, Signed cfg officer h block sig →
      Signed cfg officer' h' block' sig → h = h' ∧ block = block') := by
  have hclaimed : ∀ i (t t' : World AccountId × List (Claim AccountId)),
      Claimed cfg t.1.toState t.2 → claiming cfg i t = .ok t' → Claimed cfg t'.1.toState t'.2 := by
    intro i t t' hclaimed h
    obtain ⟨hs, hrecord⟩ := recording_eq_ok.mp h
    rw [hrecord]
    exact claimed_step hclaimed hs
  refine ⟨fun i applicant happroves => ?_, ?_, ?_, ?_⟩
  · exact (run_invariant (P := fun t : World AccountId × List (Claim AccountId) =>
      Claimed cfg t.1.toState t.2) hclaimed is (claimed_genesis now)).underlies happroves
  · have hclaims : Along (claiming cfg) (fun _ i => ClaimedByOfficer registered i) is
        (.genesis now, []) ↔
          Along (step cfg) (fun _ i => ClaimedByOfficer registered i) is (.genesis now) :=
      along_recording (Q := fun _ i => ClaimedByOfficer registered i)
    rw [← hclaims]
    refine throughout_iff_along (J := fun t : World AccountId × List (Claim AccountId) =>
      Claimed cfg t.1.toState t.2) hclaimed ?_ (claimed_genesis now)
      ((claimed_genesis now).accountable_iff.mpr (withOfficers_genesis now))
    intro i t t' hj haccountable h
    have hs := (recording_eq_ok.mp h).1
    exact (hclaimed i t t' hj h).accountable_iff.trans
      ((hj.accountable_iff.mp haccountable).step_iff hs)
  · exact fun _ _ _ _ hmsg => buildClaimMessage_injective (wrapBytes_injective hmsg)
  · exact fun _ _ _ _ _ _ _ hs hs' => hs.serves_once hverify hs'

end Officers

/-- The account `2` approves the application that it has claimed. -/
theorem approvals_accountable_first :
    Accountable exampleCfg (· = 2)
        (run (claiming exampleCfg) (firstApplication.take 2) (.genesis 1, [])).1
        (run (claiming exampleCfg) (firstApplication.take 2) (.genesis 1, [])).2 ∧
      Approves exampleCfg (run (claiming exampleCfg) (firstApplication.take 2) (.genesis 1, [])).1
        (.call (.signed 2) (.finalizeApplication 1 true (.ofByte 8))) 1 := by
  have hverify : ∀ sig message key, exampleCfg.sr25519Verify sig message key = true →
      message = claimMessage (.ofByte 1) 1 :=
    fun _ _ _ hvalid => (of_decide_eq_true hvalid).2.1
  refine ⟨?_, by decide +kernel, by decide +kernel⟩
  refine ((approvals_accountable_iff exampleCfg (· = 2) (fun _ => claimMessage (.ofByte 1) 1)
    hverify 1 (firstApplication.take 2)).2.1.mpr ?_).last
  apply along_of_mem
  simp [firstApplication, ClaimedByOfficer]

/-! ### The applicant as officer -/

/-- The signature of the account `1` is of the claim of its application in the block `1`. -/
def selfCfg : Config ℕ :=
  Runtime.migrationCenter (Runtime.acceptsOnly (Vector.replicate 64 5) 1 (.ofByte 1) 1)

/-- The account `1` applies and claims its own application. -/
def selfClaimed : List (Input ℕ) :=
  [.call (.signed 1) (.submitApplication (.ofByte 1) (.ofByte 7)),
    .call (.signed 1) (.claimApplication 1 exampleSig)]

/-- **An applicant who approves the own application.** Nothing but the signature is asked of the
account that claims it. -/
theorem applicant_approves :
    (∀ sig message key, selfCfg.sr25519Verify sig message key = true →
      message = claimMessage (.ofByte 1) 1) ∧
    Approves selfCfg (run (claiming selfCfg) selfClaimed (.genesis 1, [])).1
      (.call (.signed 1) (.finalizeApplication 1 true (.ofByte 8))) 1 ∧
    ¬ ∀ i applicant,
      Approves selfCfg (run (claiming selfCfg) selfClaimed (.genesis 1, [])).1 i applicant →
        ∃ officer outcomeHash, officer ≠ applicant ∧
          i = .call (.signed officer) (.finalizeApplication applicant true outcomeHash) := by
  have happroves : Approves selfCfg (run (claiming selfCfg) selfClaimed (.genesis 1, [])).1
      (.call (.signed 1) (.finalizeApplication 1 true (.ofByte 8))) 1 :=
    ⟨by decide +kernel, by decide +kernel⟩
  refine ⟨fun _ _ _ hvalid => (of_decide_eq_true hvalid).2.1, happroves, fun h => ?_⟩
  obtain ⟨officer, outcomeHash, hne, hi⟩ := h _ _ happroves
  injection hi with horigin
  injection horigin with hofficer
  exact hne hofficer.symm

end MigrationCenter
