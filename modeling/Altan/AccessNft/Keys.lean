import Altan.Foundation.Accounting
import Altan.Foundation.Catalogue
import Altan.Runtime.Constants

/-!
# The keys and who holds them

Access is decided by a scan of an index that both kinds of issuance keep. The index of the holders
lists the keys of each holder, and that of the entities the keys for each, so the scan overlooks
nothing. A key is revoked by its issuer only and stays revoked, so who has no access has none until
a key is issued.

## Main definitions

* `Call.issue`, `Call.Grants`: what a call issues, and whether that gives somebody access
* `Changed`: what an accepted input does
* `Catalogued`: the indices list the keys

## Main results

* `step_changed`: what an input does
* `catalogued_step`: the indices are kept
* `access_exact`: access is what the keys that are not revoked say
-/

open Bounded Catalogue Dispatch TransitionSystem

namespace AccessNft

variable {AccountId : Type} {cfg : Config AccountId}

/-- To whom, for which entity and with which portals a call issues a key. -/
def Call.issue : Call AccountId → Option (AccountId × List UInt8 × UInt8)
  | .issueAccessKey _ entityId holder _ _ portalMask
  | .issueSbtKey _ entityId _ holder _ _ portalMask _ => some (holder, entityId, portalMask)
  | .revokeAccessKey _ => none

/-- The call gives a holder access to the portals of an entity. -/
def Call.Grants (who : AccountId) (entityId : List UInt8) (mask : UInt8) (c : Call AccountId) :
    Prop :=
  ∃ portalMask, c.issue = some (who, entityId, portalMask) ∧ portalMask &&& mask = mask

variable [DecidableEq AccountId] {x : Input AccountId} {s s' : State cfg}
  {key key' : AccessKeyInfo AccountId} {id : ℕ} {who : AccountId} {entityId : List UInt8}
  {mask : UInt8}

/-! ### What an input does -/

/-- The storage with a new key. -/
def stored (key : AccessKeyInfo AccountId) (holderKeys : BoundedVec ℕ cfg.maxKeysPerHolder)
    (entityKeys : BoundedVec ℕ cfg.maxHoldersPerEntity) (s : State cfg) : State cfg where
  nextTokenId := saturatingAdd u64Max s.nextTokenId 1
  accessKeys := s.accessKeys.insert s.nextTokenId key
  holderKeys := s.holderKeys.insert key.holder holderKeys
  entityKeys := s.entityKeys.insert key.entityId entityKeys

/-- What an accepted input does: it issues a key, or revokes one that its issuer has issued. -/
inductive Changed (x : Input AccountId) (s : State cfg) : State cfg → Prop
  | issued {key : AccessKeyInfo AccountId} {holderKeys : BoundedVec ℕ cfg.maxKeysPerHolder}
    {entityKeys : BoundedVec ℕ cfg.maxHoldersPerEntity}
    (hissue : x.2.issue = some (key.holder, key.entityId.val, key.portalMask))
    (hvalid : key.revoked = false)
    (hholder : holderKeys.val = (s.keysOf key.holder).val ++ [s.nextTokenId])
    (hentity : entityKeys.val = (s.keysFor key.entityId).val ++ [s.nextTokenId]) :
    Changed x s (stored key holderKeys entityKeys s)
  | revoked {id : ℕ} {key : AccessKeyInfo AccountId} (hcall : x.2 = .revokeAccessKey id)
    (hkey : s.accessKeys.get id = some key) (hvalid : key.revoked = false)
    (hissuer : cfg.issuerOrigin x.1.origin = some key.issuedBy) :
    Changed x s { s with accessKeys := s.accessKeys.insert id { key with revoked := true } }

theorem storeKey_eq_ok (hid : key.tokenId = s.nextTokenId) (h : storeKey key s = .ok s') :
    ∃ holderKeys entityKeys, holderKeys.val = (s.keysOf key.holder).val ++ [s.nextTokenId] ∧
      entityKeys.val = (s.keysFor key.entityId).val ++ [s.nextTokenId] ∧
      s' = stored key holderKeys entityKeys s := by
  simp only [storeKey, required_bind_eq_ok, BoundedVec.tryPush_eq_some, pure_eq_ok, hid] at h
  obtain ⟨holderKeys, hholder, entityKeys, hentity, rfl⟩ := h
  exact ⟨holderKeys, entityKeys, hholder, hentity, rfl⟩

/-- **What an input does.** -/
theorem step_changed (h : step cfg x s = .ok s') : Changed x s s' := by
  obtain ⟨ctx, c⟩ := x
  cases c with
  | issueAccessKey entityKind entityId holder role accessLevel portalMask =>
    simp only [step, dispatch, issueAccessKey] at h
    obtain ⟨issuer, -, h⟩ := bind_eq_ok.mp h
    obtain ⟨-, -, h⟩ := bind_eq_ok.mp h
    obtain ⟨entityIdBounded, hentityId, h⟩ := required_bind_eq_ok.mp h
    obtain ⟨holderKeys, entityKeys, hholder, hentity, rfl⟩ := storeKey_eq_ok rfl h
    refine .issued ?_ rfl hholder hentity
    rw [BoundedVec.tryFrom_eq_some.mp hentityId]
    rfl
  | revokeAccessKey tokenId =>
    simp only [step, dispatch, revokeAccessKey] at h
    obtain ⟨revoker, hrevoker, h⟩ := bind_eq_ok.mp h
    simp only [required_bind_eq_ok, ensure_bind_eq_ok, pure_eq_ok] at h
    obtain ⟨key, hkey, hvalid, rfl, rfl⟩ := h
    exact .revoked rfl hkey hvalid (required_eq_ok.mp hrevoker)
  | issueSbtKey entityKind entityId orgRegNumber holder role accessLevel portalMask hrRole =>
    simp only [step, dispatch, issueSbtKey] at h
    obtain ⟨issuer, -, h⟩ := bind_eq_ok.mp h
    obtain ⟨-, -, h⟩ := bind_eq_ok.mp h
    obtain ⟨entityIdBounded, hentityId, h⟩ := required_bind_eq_ok.mp h
    obtain ⟨orgRegBounded, -, h⟩ := required_bind_eq_ok.mp h
    obtain ⟨-, h⟩ := ensure_bind_eq_ok.mp h
    obtain ⟨holderKeys, entityKeys, hholder, hentity, rfl⟩ := storeKey_eq_ok rfl h
    refine .issued ?_ rfl hholder hentity
    rw [BoundedVec.tryFrom_eq_some.mp hentityId]
    rfl

/-! ### The indices -/

/-- The keys are numbered as they were issued, and the indices list them. -/
structure Catalogued (s : State cfg) : Prop where
  dense : Dense s.accessKeys s.nextTokenId
  holders : Indexes AccessKeyInfo.holder (fun who => (s.keysOf who).val) s.accessKeys
    s.nextTokenId
  entities : Indexes AccessKeyInfo.entityId (fun entityId => (s.keysFor entityId).val)
    s.accessKeys s.nextTokenId

theorem catalogued_genesis : Catalogued (genesis : State cfg) where
  dense := dense_empty
  holders := indexes_empty fun _ => rfl
  entities := indexes_empty fun _ => rfl

/-- **The indices are kept**, as long as there are numbers left. -/
theorem catalogued_step (h : Catalogued s) (hroom : x.2.issue.isSome → s.nextTokenId < u64Max)
    (hs : step cfg x s = .ok s') : Catalogued s' := by
  cases step_changed hs with
  | @issued key holderKeys entityKeys hissue hvalid hholder hentity =>
    have hnext : saturatingAdd u64Max s.nextTokenId 1 = s.nextTokenId + 1 :=
      saturatingAdd_one_of_lt (hroom (Option.isSome_of_eq_some hissue))
    unfold stored
    rw [hnext]
    -- the number goes to the end of the lists of its holder and of its entity, and to no other
    refine ⟨h.dense.enter key, h.holders.enter ?_ ?_, h.entities.enter ?_ ?_⟩
    · simp only [State.keysOf, StorageMap.getD_insert_self]
      exact hholder
    · intro who hwho
      simp only [State.keysOf, StorageMap.getD_insert, if_neg hwho]
    · simp only [State.keysFor, StorageMap.getD_insert_self]
      exact hentity
    · intro entityId hentityId
      simp only [State.keysFor, StorageMap.getD_insert, if_neg hentityId]
  | revoked hcall hkey hvalid hissuer =>
    -- a key that is revoked keeps its holder and its entity
    exact ⟨h.dense.update hkey _, h.holders.update hkey rfl, h.entities.update hkey rfl⟩

/-! ### Access -/

/-- The keys of a holder are those that name the holder. -/
theorem Catalogued.mem_heldKeys (h : Catalogued s) :
    key ∈ s.heldKeys who ↔ ∃ id, s.accessKeys.get id = some key ∧ key.holder = who := by
  unfold State.heldKeys
  rw [List.mem_filterMap]
  constructor
  · rintro ⟨id, hid, hget⟩
    obtain ⟨key', hget', hholder⟩ := (h.holders.mem h.dense).mp hid
    obtain rfl := Option.some.inj (hget.symm.trans hget')
    exact ⟨id, hget, hholder⟩
  · rintro ⟨id, hget, hholder⟩
    exact ⟨id, (h.holders.mem h.dense).mpr ⟨key, hget, hholder⟩, hget⟩

omit [DecidableEq AccountId] in
theorem AccessKeyInfo.opens_iff : key.opens entityId mask = true ↔
    key.revoked = false ∧ key.entityId.val = entityId ∧ key.portalMask &&& mask = mask := by
  simp [AccessKeyInfo.opens, and_assoc]

/-- A key that is not revoked, of a holder, for an entity, with the portals of a mask. -/
def Opens (s : State cfg) (who : AccountId) (entityId : List UInt8) (mask : UInt8) (id : ℕ)
    (key : AccessKeyInfo AccountId) : Prop :=
  s.accessKeys.get id = some key ∧ key.holder = who ∧ key.revoked = false ∧
    key.entityId.val = entityId ∧ key.portalMask &&& mask = mask

theorem Catalogued.checkAccess_iff (h : Catalogued s) :
    checkAccess s who entityId mask = true ↔ ∃ id key, Opens s who entityId mask id key := by
  unfold checkAccess
  rw [List.any_eq_true]
  constructor
  · rintro ⟨key, hkey, hopens⟩
    obtain ⟨id, hget, hholder⟩ := h.mem_heldKeys.mp hkey
    exact ⟨id, key, hget, hholder, AccessKeyInfo.opens_iff.mp hopens⟩
  · rintro ⟨id, key, hget, hholder, hopens⟩
    exact ⟨key, h.mem_heldKeys.mpr ⟨id, hget, hholder⟩, AccessKeyInfo.opens_iff.mpr hopens⟩

theorem Catalogued.exists_sbt (h : Catalogued s) {orgRegNumber : List UInt8}
    (hverify : verifySbt s who entityId orgRegNumber mask = true) :
    ∃ id key, Opens s who entityId mask id key ∧ key.walletBound = true ∧
      key.orgRegNumber.val = orgRegNumber := by
  unfold verifySbt at hverify
  obtain ⟨key, hkey, hboth⟩ := List.any_eq_true.mp hverify
  obtain ⟨hbound, hopens⟩ := Bool.and_eq_true_iff.mp hboth
  obtain ⟨id, hget, hholder⟩ := h.mem_heldKeys.mp hkey
  obtain ⟨hwallet, horg⟩ := Bool.and_eq_true_iff.mp hbound
  exact ⟨id, key, ⟨hget, hholder, AccessKeyInfo.opens_iff.mp hopens⟩, hwallet,
    of_decide_eq_true horg⟩

/-- The indices list the keys, each once and in the order of issue, and who may enter is decided by
the keys that are not revoked. -/
structure Exact (s : State cfg) : Prop where
  holderKeys : ∀ who, (s.keysOf who).val.Pairwise (· < ·) ∧ ∀ id, id ∈ (s.keysOf who).val ↔
    ∃ key, s.accessKeys.get id = some key ∧ key.holder = who
  entityKeys : ∀ entityId, (s.keysFor entityId).val.Pairwise (· < ·) ∧
    ∀ id, id ∈ (s.keysFor entityId).val ↔
      ∃ key, s.accessKeys.get id = some key ∧ key.entityId = entityId
  access : ∀ who entityId mask, checkAccess s who entityId mask = true ↔
    ∃ id key, Opens s who entityId mask id key
  sbt : ∀ who entityId orgRegNumber mask, verifySbt s who entityId orgRegNumber mask = true →
    checkAccess s who entityId mask = true ∧
      ∃ id key, Opens s who entityId mask id key ∧ key.walletBound = true ∧
        key.orgRegNumber.val = orgRegNumber

theorem Catalogued.exact (h : Catalogued s) : Exact s where
  holderKeys who := by
    refine ⟨?_, fun id => h.holders.mem h.dense⟩
    have hlisted := h.holders who
    dsimp only at hlisted
    rw [hlisted]
    exact listed_sorted
  entityKeys entityId := by
    refine ⟨?_, fun id => h.entities.mem h.dense⟩
    have hlisted := h.entities entityId
    dsimp only at hlisted
    rw [hlisted]
    exact listed_sorted
  access _ _ _ := h.checkAccess_iff
  sbt who entityId orgRegNumber mask hverify := by
    obtain ⟨id, key, hopens, hbound⟩ := h.exists_sbt hverify
    exact ⟨h.checkAccess_iff.mpr ⟨id, key, hopens⟩, id, key, hopens, hbound⟩

/-- What an input may do to a key that has been issued: its issuer revokes it. -/
def Lawful (x : Input AccountId) (s s' : State cfg) : Prop :=
  ∀ id key, s.accessKeys.get id = some key → s'.accessKeys.get id = some key ∨
    s'.accessKeys.get id = some { key with revoked := true } ∧ x.2 = .revokeAccessKey id ∧
      cfg.issuerOrigin x.1.origin = some key.issuedBy

/-- No key that has been issued is written over. -/
theorem lawful_step (h : Catalogued s) (hs : step cfg x s = .ok s') : Lawful x s s' := by
  intro id key hkey
  cases step_changed hs with
  | issued =>
    -- the new key has a number of its own
    left
    refine (StorageMap.get_insert_of_ne ?_).trans hkey
    exact Nat.ne_of_lt (h.dense.lt hkey)
  | @revoked id' key' hcall hkey' hvalid hissuer =>
    dsimp only
    by_cases hid : id = id'
    · subst hid
      obtain rfl := Option.some.inj (hkey.symm.trans hkey')
      exact Or.inr ⟨StorageMap.get_insert_self, hcall, hissuer⟩
    · exact Or.inl ((StorageMap.get_insert_of_ne hid).trans hkey)

/-- Who gets access gets it by a new key. -/
theorem denied_step (h : Catalogued s) (h' : Catalogued s')
    (hdenied : checkAccess s who entityId mask = false) (hgrants : ¬ x.2.Grants who entityId mask)
    (hs : step cfg x s = .ok s') : checkAccess s' who entityId mask = false := by
  rw [Bool.eq_false_iff] at hdenied ⊢
  intro haccess
  apply hdenied
  -- the key that opens now was there before, unless it is the new one
  obtain ⟨id, key, hget, hholder, hvalid, hentityId, hmask⟩ := h'.checkAccess_iff.mp haccess
  refine h.checkAccess_iff.mpr ⟨id, key, ?_, hholder, hvalid, hentityId, hmask⟩
  cases step_changed hs with
  | issued hissue =>
    rcases StorageMap.get_insert_cases hget with ⟨-, rfl⟩ | ⟨-, hget⟩
    · rw [hholder, hentityId] at hissue
      exact absurd ⟨_, hissue, hmask⟩ hgrants
    · exact hget
  | revoked hcall hkey hnew hissuer =>
    rcases StorageMap.get_insert_cases hget with ⟨-, rfl⟩ | ⟨-, hget⟩
    · cases hvalid
    · exact hget

/-! ### Full indices -/

/-- The call issues a key to a holder or for an entity whose index is full. -/
def Call.Full (s : State cfg) (c : Call AccountId) : Prop :=
  ∃ holder entityId portalMask, c.issue = some (holder, entityId, portalMask) ∧
    ((s.keysOf holder).val.length = cfg.maxKeysPerHolder ∨
      ∃ bounded : EntityId, bounded.val = entityId ∧
        (s.keysFor bounded).val.length = cfg.maxHoldersPerEntity)

/-- A list with room for one more entry is not full. -/
theorem length_ne_of_push {n a : ℕ} {v v' : BoundedVec ℕ n} (h : v'.val = v.val ++ [a]) :
    v.val.length ≠ n := by
  have hlength := v'.property
  rw [h, List.length_append, List.length_singleton] at hlength
  omega

/-- **A call that finds an index full fails, and leaves the storage as it was.** -/
theorem exec_full (h : x.2.Full s) :
    (∃ e, step cfg x s = .error e) ∧ exec (step cfg) x s = s := by
  rcases exec_cases (step cfg) x s with ⟨s', hs, -⟩ | ⟨e, hs, he⟩
  · exfalso
    obtain ⟨holder, entityId, portalMask, hcall, hfull⟩ := h
    -- the lists of an accepted call have had room for the number
    cases step_changed hs with
    | issued hissue hvalid hholder hentity =>
      obtain ⟨rfl, rfl, rfl⟩ : _ = holder ∧ _ = entityId ∧ _ = portalMask := by
        simpa using hissue.symm.trans hcall
      rcases hfull with hfull | ⟨bounded, hbounded, hfull⟩
      · exact length_ne_of_push hholder hfull
      · rw [Subtype.ext hbounded] at hfull
        exact length_ne_of_push hentity hfull
    | revoked hrevoke =>
      rw [hrevoke] at hcall
      cases hcall
  · exact ⟨⟨e, hs⟩, he⟩

/-! ### Runs -/

/-- The call issues a key. -/
def Input.Issues (x : Input AccountId) : Prop := x.2.issue.isSome

instance : DecidablePred (@Input.Issues AccountId) := fun x =>
  inferInstanceAs (Decidable (x.2.issue.isSome = true))

/-- A new key takes one number. -/
theorem nextTokenId_step (hs : step cfg x s = .ok s') :
    s'.nextTokenId ≤ s.nextTokenId + if x.Issues then 1 else 0 := by
  cases step_changed hs with
  | issued hissue =>
    rw [if_pos (show x.Issues from Option.isSome_of_eq_some hissue)]
    exact saturatingAdd_le_add
  | revoked => exact Nat.le_add_right _ _

/-- The storage after a list of inputs. -/
def reached (cfg : Config AccountId) (xs : List (Input AccountId)) : State cfg :=
  run (step cfg) xs genesis

/-- How many keys a run issues. -/
def issuedIn (cfg : Config AccountId) (xs : List (Input AccountId)) : ℕ :=
  accepted (step cfg) Input.Issues xs genesis

/-- A run that issues few enough keys has a number for each. -/
theorem room_along {xs : List (Input AccountId)} (h : issuedIn cfg xs < u64Max) :
    Along (step cfg) (fun s x => x.Issues → s.nextTokenId < u64Max) xs genesis :=
  along_of_accepted_le (c := State.nextTokenId) (fun _ _ _ => nextTokenId_step)
    ((Nat.zero_add _).trans_le h.le)

theorem catalogued_reached {xs : List (Input AccountId)} (h : issuedIn cfg xs < u64Max) :
    Catalogued (reached cfg xs) :=
  run_of_along (fun _ _ _ => catalogued_step) catalogued_genesis (room_along h)

/-- Who has no access has none until a key gives it. -/
theorem denied_throughout {ys : List (Input AccountId)} (h : Catalogued s)
    (hroom : Along (step cfg) (fun s x => x.Issues → s.nextTokenId < u64Max) ys s)
    (hdenied : checkAccess s who entityId mask = false)
    (hgrants : ∀ y ∈ ys, ¬ y.2.Grants who entityId mask) :
    Throughout (step cfg) (fun t => checkAccess t who entityId mask = false) ys s := by
  have hboth : Throughout (step cfg)
      (fun t => Catalogued t ∧ checkAccess t who entityId mask = false) ys s := by
    refine throughout_of_along ?_ ⟨h, hdenied⟩ (hroom.and (along_of_mem hgrants))
    rintro x t t' ⟨hc, hd⟩ ⟨hx, hg⟩ ht
    have hc' := catalogued_step hc hx ht
    exact ⟨hc', denied_step hc hc' hd hg ht⟩
  exact hboth.imp fun _ => And.right

/-- **Access is what the keys say.** As long as there are numbers for the keys, the indices list
them and access is decided by those that are not revoked; a key is revoked by its issuer only and
for good, and an issuance that finds an index full leaves everything as it was. Who has no access
has none until a key is issued that gives it. -/
theorem access_exact (cfg : Config AccountId) (xs : List (Input AccountId))
    (h : issuedIn cfg xs < u64Max) :
    Exact (reached cfg xs) ∧
      (∀ x s', step cfg x (reached cfg xs) = .ok s' → Lawful x (reached cfg xs) s') ∧
      (∀ x, x.2.Full (reached cfg xs) → (∃ e, step cfg x (reached cfg xs) = .error e) ∧
        exec (step cfg) x (reached cfg xs) = reached cfg xs) ∧
      ∀ ys who entityId mask, issuedIn cfg (xs ++ ys) < u64Max →
        checkAccess (reached cfg xs) who entityId mask = false →
        (∀ y ∈ ys, ¬ y.2.Grants who entityId mask) →
          Throughout (step cfg) (fun t => checkAccess t who entityId mask = false) ys
            (reached cfg xs) := by
  have hcatalogued := catalogued_reached h
  refine ⟨hcatalogued.exact, fun x s' => lawful_step hcatalogued, fun x => exec_full, ?_⟩
  intro ys who entityId mask hmore hdenied hgrants
  exact denied_throughout hcatalogued (along_append.mp (room_along hmore)).2 hdenied hgrants

/-- Two keys for one entity, of which the first is revoked by its issuer. -/
def granted : List (Input ℕ) :=
  [(⟨.signed 7, 0⟩, .issueAccessKey .bank [1] 5 4 3 6),
    (⟨.signed 7, 0⟩, .issueSbtKey .bank [1] [9] 5 9 3 3 0), (⟨.signed 7, 1⟩, .revokeAccessKey 0)]

theorem access_exact_granted :
    Exact (reached Runtime.accessNft granted) ∧
      verifySbt (reached Runtime.accessNft granted) 5 [1] [9] 2 = true ∧
      checkAccess (reached Runtime.accessNft granted) 5 [1] 4 = false :=
  ⟨(access_exact Runtime.accessNft granted (by decide +kernel)).1, by decide +kernel,
    by decide +kernel⟩

end AccessNft
