import Altan.Foundation.Accounting
import Altan.Foundation.Balances
import Altan.Foundation.BoundedVec
import Altan.Foundation.Scale

/-!
# The chronicles

Authors publish documents under the hash of their content. A hash is taken once: the record of a
document is never written again, and beside the documents an index lists those of every author.
Whoever wants to donates to the author of a document, from an account that stays alive.

## Main definitions

* `Config`, `Context`, `State`: the constants, what a call is dispatched with, and the storage
* `Call`, `dispatch`: the dispatchables
* `Input.document`, `chronicle`: the document an input publishes, and the history of them
* `donated`, `received`: what an input donates, from and to an account

## Main results

* `chronicle_faithful`: the storage is the history of what was published, which only grows
* `donations_balance`: all that is donated reaches the authors, and nobody else pays
-/

open Dispatch Ledger TransitionSystem

namespace Chronicles

/-- The errors of the module. -/
inductive Error
  | documentAlreadyExists
  | documentNotFound
  | cidTooLong
  deriving DecidableEq, Repr

/-- The outcome of a function of the module. -/
abbrev Result (α : Type) := Except (DispatchError Error) α

/-- The categories of documents. -/
inductive DocumentCategory
  | science
  | media
  | history
  | law
  deriving DecidableEq, Repr

/-- The constants of the module. -/
structure Config where
  maxCidLength : ℕ

/-- What is recorded of a document. -/
structure DocumentRecord (cfg : Config) (AccountId : Type) where
  owner : AccountId
  contentHash : Bytes32
  ipfsCid : BoundedVec UInt8 cfg.maxCidLength
  category : DocumentCategory
  blockNumber : ℕ
  deriving DecidableEq

/-- What a call is dispatched with. -/
structure Context (AccountId : Type) where
  origin : Origin AccountId
  blockNumber : ℕ

/-- The storage of the module, and the ledger it shares. -/
structure State (cfg : Config) (AccountId L : Type) where
  documents : StorageMap Bytes32 (DocumentRecord cfg AccountId)
  authorDocuments : StorageMap (AccountId × Bytes32) Unit
  ledger : L

variable {cfg : Config} {AccountId L : Type}

/-- The storage before any call. -/
def genesis (ledger : L) : State cfg AccountId L where
  documents := ∅
  authorDocuments := ∅
  ledger := ledger

variable [DecidableEq AccountId]

/-- Publish a document under the hash of its content. -/
def publishDocument (ctx : Context AccountId) (contentHash : Bytes32) (ipfsCid : List UInt8)
    (category : DocumentCategory) (s : State cfg AccountId L) :
    Result (State cfg AccountId L) := do
  let owner ← ensureSigned ctx.origin
  ensure (s.documents.containsKey contentHash = false) (.module .documentAlreadyExists)
  let boundedCid ← required (BoundedVec.tryFrom cfg.maxCidLength ipfsCid) (.module .cidTooLong)
  return { s with
    documents := s.documents.insert contentHash
      { owner := owner
        contentHash := contentHash
        ipfsCid := boundedCid
        category := category
        blockNumber := ctx.blockNumber }
    authorDocuments := s.authorDocuments.insert (owner, contentHash) () }

/-- Donate to the author of a document. -/
def donateToAuthor [Currency AccountId L] (ctx : Context AccountId) (documentHash : Bytes32)
    (amount : ℕ) (s : State cfg AccountId L) : Result (State cfg AccountId L) := do
  let donor ← ensureSigned ctx.origin
  let record ← required (s.documents.get documentHash) (.module .documentNotFound)
  let ledger ← liftCurrency (Currency.transfer s.ledger donor record.owner amount .keepAlive)
  return { s with ledger := ledger }

/-- The dispatchables with their arguments. -/
inductive Call
  | publishDocument (contentHash : Bytes32) (ipfsCid : List UInt8) (category : DocumentCategory)
  | donateToAuthor (documentHash : Bytes32) (amount : ℕ)
  deriving DecidableEq

/-- Dispatch a call. -/
def dispatch [Currency AccountId L] (ctx : Context AccountId) :
    Call → State cfg AccountId L → Result (State cfg AccountId L)
  | .publishDocument contentHash ipfsCid category =>
    publishDocument ctx contentHash ipfsCid category
  | .donateToAuthor documentHash amount => donateToAuthor ctx documentHash amount

/-- A call with what it is dispatched with. -/
abbrev Input (AccountId : Type) : Type := Context AccountId × Call

/-- The state after one input. -/
def step [Currency AccountId L] (x : Input AccountId) (s : State cfg AccountId L) :
    Result (State cfg AccountId L) :=
  dispatch x.1 x.2 s

/-! ### What is published -/

/-- The document an input publishes, if it is accepted. -/
def Input.document (cfg : Config) (x : Input AccountId) : Option (DocumentRecord cfg AccountId) :=
  match x.1.origin, x.2 with
  | .signed owner, .publishDocument contentHash ipfsCid category =>
    (BoundedVec.tryFrom cfg.maxCidLength ipfsCid).map fun boundedCid =>
      { owner := owner
        contentHash := contentHash
        ipfsCid := boundedCid
        category := category
        blockNumber := x.1.blockNumber }
  | _, _ => none

omit [DecidableEq AccountId] in
/-- A donation publishes nothing. -/
theorem document_of_donation {x : Input AccountId} {documentHash : Bytes32} {amount : ℕ}
    (h : x.2 = .donateToAuthor documentHash amount) : x.document cfg = none := by
  unfold Input.document
  rw [h]
  split
  · cases ‹_›
  · rfl

/-- The history of the published documents, the latest last. -/
def chronicle (_ : State cfg AccountId L) (x : Input AccountId)
    (history : List (DocumentRecord cfg AccountId)) : List (DocumentRecord cfg AccountId) :=
  history ++ (x.document cfg).toList

section Published

variable [Currency AccountId L] {s s' : State cfg AccountId L} {x : Input AccountId}

/-- A publication takes a hash that is free, and records the document in both indices. -/
structure Published (s s' : State cfg AccountId L) (r : DocumentRecord cfg AccountId) : Prop where
  free : s.documents.get r.contentHash = none
  documents : s'.documents = s.documents.insert r.contentHash r
  authorDocuments : s'.authorDocuments = s.authorDocuments.insert (r.owner, r.contentHash) ()
  ledger : s'.ledger = s.ledger

/-- A donation is paid by its signer to the author of the document. -/
def Donated (s s' : State cfg AccountId L) (donor : AccountId) (documentHash : Bytes32)
    (amount : ℕ) : Prop :=
  ∃ record, s.documents.get documentHash = some record ∧
    Currency.transfer s.ledger donor record.owner amount .keepAlive = .ok s'.ledger ∧
      s'.documents = s.documents ∧ s'.authorDocuments = s.authorDocuments

/-- **What an accepted input does**: it publishes its document, or donates. -/
theorem step_cases (h : step x s = .ok s') :
    (∃ r, x.document cfg = some r ∧ Published s s' r) ∨
      ∃ donor documentHash amount, x.1.origin = .signed donor ∧
        x.2 = .donateToAuthor documentHash amount ∧ Donated s s' donor documentHash amount := by
  obtain ⟨ctx, call⟩ := x
  cases call with
  | publishDocument contentHash ipfsCid category =>
    simp only [step, dispatch, publishDocument, ensureSigned_bind_eq_ok, ensure_bind_eq_ok,
      required_bind_eq_ok, pure_eq_ok] at h
    obtain ⟨owner, horigin, hfree, boundedCid, hcid, rfl⟩ := h
    refine Or.inl ⟨⟨owner, contentHash, boundedCid, category, ctx.blockNumber⟩, ?_,
      StorageMap.not_containsKey.mp hfree, rfl, rfl, rfl⟩
    unfold Input.document
    dsimp only
    rw [horigin]
    dsimp only
    rw [hcid, Option.map_some]
  | donateToAuthor documentHash amount =>
    simp only [step, dispatch, donateToAuthor, ensureSigned_bind_eq_ok, required_bind_eq_ok,
      liftCurrency_bind_eq_ok, pure_eq_ok] at h
    obtain ⟨donor, horigin, record, hrecord, ledger, hledger, rfl⟩ := h
    exact Or.inr ⟨donor, documentHash, amount, horigin, rfl, record, hrecord, hledger, rfl, rfl⟩

end Published

/-- The two indices are the history: no hash is published twice. -/
structure Faithful (s : State cfg AccountId L) (history : List (DocumentRecord cfg AccountId)) :
    Prop where
  documents : ∀ h r, s.documents.get h = some r ↔ r ∈ history ∧ r.contentHash = h
  nodup : (history.map DocumentRecord.contentHash).Nodup
  authorDocuments : ∀ a h, s.authorDocuments.get (a, h) = some () ↔
    ∃ r ∈ history, r.owner = a ∧ r.contentHash = h

section Faithful

variable {s s' : State cfg AccountId L} {history : List (DocumentRecord cfg AccountId)}
  {r : DocumentRecord cfg AccountId}

theorem faithful_genesis (ledger : L) :
    Faithful (genesis ledger : State cfg AccountId L) [] where
  documents h r := by
    show StorageMap.get ∅ h = _ ↔ _
    simp
  nodup := List.nodup_nil
  authorDocuments a h := by
    show StorageMap.get ∅ (a, h) = _ ↔ _
    simp

/-- No document of the history has a hash that is free. -/
theorem Faithful.ne_of_free (h : Faithful s history) {hash : Bytes32}
    (hfree : s.documents.get hash = none) : ∀ r ∈ history, r.contentHash ≠ hash := by
  rintro r hr rfl
  rw [(h.documents r.contentHash r).mpr ⟨hr, rfl⟩] at hfree
  cases hfree

/-- A publication adds its document to the history. -/
theorem Faithful.publish (h : Faithful s history) (hp : Published s s' r) :
    Faithful s' (history ++ [r]) := by
  have hne := h.ne_of_free hp.free
  refine ⟨fun hash r' => ?_, ?_, fun a hash => ?_⟩
  · rw [hp.documents, StorageMap.get_insert]
    split
    · next hhash =>
      -- the document of the new hash is the new one
      rw [Option.some.injEq]
      constructor
      · rintro rfl
        exact ⟨List.mem_append_right _ (List.mem_singleton_self _), hhash.symm⟩
      · rintro ⟨hr', he⟩
        rcases List.mem_append.mp hr' with hr' | hr'
        · exact absurd (he.trans hhash) (hne r' hr')
        · exact (List.mem_singleton.mp hr').symm
    · next hhash =>
      rw [h.documents, List.mem_append, List.mem_singleton]
      constructor
      · rintro ⟨hr', he⟩
        exact ⟨Or.inl hr', he⟩
      · rintro ⟨hr' | rfl, he⟩
        · exact ⟨hr', he⟩
        · exact absurd he.symm hhash
  · rw [List.map_append, List.map_singleton]
    apply List.nodup_append.mpr ⟨h.nodup, List.nodup_singleton _, ?_⟩
    rintro _ hold _ hnew rfl
    obtain ⟨r', hr', he⟩ := List.mem_map.mp hold
    exact hne r' hr' (he.trans (List.mem_singleton.mp hnew))
  · rw [hp.authorDocuments, StorageMap.get_insert]
    split
    · next he =>
      obtain ⟨rfl, rfl⟩ := Prod.mk.inj he
      exact iff_of_true rfl
        ⟨r, List.mem_append_right _ (List.mem_singleton_self r), rfl, rfl⟩
    · next he =>
      rw [h.authorDocuments]
      constructor
      · rintro ⟨r', hr', howner⟩
        exact ⟨r', List.mem_append_left _ hr', howner⟩
      · rintro ⟨r', hr', howner, hhash⟩
        rcases List.mem_append.mp hr' with hr' | hr'
        · exact ⟨r', hr', howner, hhash⟩
        · rw [List.mem_singleton.mp hr'] at howner hhash
          exact absurd (by rw [howner, hhash]) he

end Faithful

section Runs

variable [Currency AccountId L]

/-- An accepted input keeps the storage faithful to the history, which may grow. -/
theorem recording_faithful {x : Input AccountId}
    {t t' : State cfg AccountId L × List (DocumentRecord cfg AccountId)}
    (ht : Faithful t.1 t.2) (h : recording chronicle step x t = .ok t') :
    Faithful t'.1 t'.2 ∧ t.2 <+: t'.2 := by
  obtain ⟨s, history⟩ := t
  obtain ⟨s', history'⟩ := t'
  obtain ⟨hs, rfl⟩ := recording_eq_ok.mp h
  refine ⟨?_, List.prefix_append _ _⟩
  unfold chronicle
  rcases step_cases hs with ⟨r, hr, hpublished⟩ |
    ⟨donor, hash, amount, -, hcall, record, -, -, hdocuments, hauthors⟩
  · rw [hr]
    exact ht.publish hpublished
  · rw [document_of_donation hcall, Option.toList_none, List.append_nil]
    exact ⟨hdocuments ▸ ht.documents, ht.nodup, hauthors ▸ ht.authorDocuments⟩

/-- **The chronicle.** After every run a document is recorded under a hash just if it was published
with it; no hash was published twice; the index of authors lists just what each of them has
published; and whatever happens after, the history only grows, so nothing that is recorded ever
changes. -/
theorem chronicle_faithful (ledger : L) (xs ys : List (Input AccountId)) :
    let s := run step xs (genesis ledger : State cfg AccountId L)
    let history := (run (recording chronicle step) xs
      ((genesis ledger : State cfg AccountId L), [])).2
    (∀ h r, s.documents.get h = some r ↔ r ∈ history ∧ r.contentHash = h) ∧
      (history.map DocumentRecord.contentHash).Nodup ∧
        (∀ a h, s.authorDocuments.get (a, h) = some () ↔
          ∃ r ∈ history, r.owner = a ∧ r.contentHash = h) ∧
          history <+: (run (recording chronicle step) (xs ++ ys)
            ((genesis ledger : State cfg AccountId L), [])).2 := by
  intro s history
  have hstep : ∀ x (t t' : State cfg AccountId L × List (DocumentRecord cfg AccountId)),
      Faithful t.1 t.2 → recording chronicle step x t = .ok t' → Faithful t'.1 t'.2 :=
    fun _ _ _ ht h => (recording_faithful ht h).1
  have hfaithful : Faithful (run (recording chronicle step) xs
      ((genesis ledger : State cfg AccountId L), [])).1 history :=
    run_invariant hstep xs (faithful_genesis ledger)
  have hgrows : ∀ x (t t' : State cfg AccountId L × List (DocumentRecord cfg AccountId)),
      (Faithful t.1 t.2 ∧ history <+: t.2) → recording chronicle step x t = .ok t' →
        Faithful t'.1 t'.2 ∧ history <+: t'.2 := by
    intro x t t' ht h
    obtain ⟨hnext, hprefix⟩ := recording_faithful ht.1 h
    exact ⟨hnext, ht.2.trans hprefix⟩
  have hlater := run_invariant hgrows ys ⟨hfaithful, List.prefix_rfl⟩
  rw [← run_append] at hlater
  rw [run_recording] at hfaithful
  exact ⟨hfaithful.documents, hfaithful.nodup, hfaithful.authorDocuments, hlater.2⟩

end Runs

/-! ### What is donated -/

/-- What an input donates from an account. -/
def donated (a : AccountId) (_ : State cfg AccountId L) (x : Input AccountId) : ℕ :=
  match x.1.origin, x.2 with
  | .signed donor, .donateToAuthor _ amount => if a = donor then amount else 0
  | _, _ => 0

/-- What an input donates to an account, as the author of the document. -/
def received (a : AccountId) (s : State cfg AccountId L) (x : Input AccountId) : ℕ :=
  match x.2 with
  | .donateToAuthor documentHash amount =>
    match s.documents.get documentHash with
    | some record => if a = record.owner then amount else 0
    | none => 0
  | _ => 0

section Donations

variable [Currency AccountId L] {s s' : State cfg AccountId L} {x : Input AccountId}

/-- **What an accepted input does to the balances.** -/
theorem step_balance (h : step x s = .ok s') (a : AccountId) :
    freeBalance s'.ledger a + donated a s x = freeBalance s.ledger a + received a s x := by
  rcases step_cases h with ⟨r, hr, hpublished⟩ |
    ⟨donor, hash, amount, horigin, hcall, record, hrecord, hpaid, -, -⟩
  · -- a publication donates nothing
    obtain ⟨ctx, call⟩ := x
    rw [hpublished.ledger]
    cases call with
    | publishDocument contentHash ipfsCid category =>
      have hnothing : donated a s (ctx, .publishDocument contentHash ipfsCid category) = 0 := by
        unfold donated
        split
        · cases ‹_›
        · rfl
      rw [hnothing]
      rfl
    | donateToAuthor documentHash amount =>
      rw [document_of_donation rfl] at hr
      cases hr
  · have hfree := Currency.transfer_keepAlive_free hpaid a
    have hfrom : donated a s x = if a = donor then amount else 0 := by
      unfold donated
      rw [horigin, hcall]
    have hto : received a s x = if a = record.owner then amount else 0 := by
      unfold received
      rw [hcall]
      dsimp only
      rw [hrecord]
    rw [hfrom, hto]
    exact hfree

/-- What an accepted input leaves of the ledger. -/
theorem step_conserved (h : step x s = .ok s') :
    totalIssuance s'.ledger = totalIssuance s.ledger ∧
      ∀ a, reservedBalance s'.ledger a = reservedBalance s.ledger a := by
  rcases step_cases h with ⟨r, -, hpublished⟩ | ⟨donor, hash, amount, -, -, record, -, hpaid, -, -⟩
  · rw [hpublished.ledger]
    exact ⟨rfl, fun _ => rfl⟩
  · exact ⟨Currency.transfer_keepAlive_issuance hpaid, Currency.transfer_reserved hpaid⟩

/-- **Donations.** After every run an account has what it had, less what it has donated, and with
what was donated to documents of which it is the author; nothing is lost on the way, and nothing
that is reserved is touched. -/
theorem donations_balance (ledger : L) (xs : List (Input AccountId)) :
    let s : State cfg AccountId L := genesis ledger
    (∀ a, freeBalance (run step xs s).ledger a + tally step (donated a) xs s =
        freeBalance ledger a + tally step (received a) xs s) ∧
      totalIssuance (run step xs s).ledger = totalIssuance ledger ∧
        ∀ a, reservedBalance (run step xs s).ledger a = reservedBalance ledger a := by
  intro s
  refine ⟨fun a => ?_, ?_⟩
  · exact tally_balance (P := fun _ => True) (fun s : State cfg AccountId L =>
      freeBalance s.ledger a) (received a) (donated a) (fun _ _ _ _ _ _ => trivial)
      (fun _ _ _ _ _ h => step_balance h a) trivial (along_true xs s)
  · have hconserved : ∀ x (t t' : State cfg AccountId L),
        (totalIssuance t.ledger = totalIssuance ledger ∧
          ∀ a, reservedBalance t.ledger a = reservedBalance ledger a) → step x t = .ok t' →
            totalIssuance t'.ledger = totalIssuance ledger ∧
              ∀ a, reservedBalance t'.ledger a = reservedBalance ledger a := by
      intro x t t' ht h
      obtain ⟨hissuance, hreserved⟩ := step_conserved h
      exact ⟨hissuance.trans ht.1, fun a => (hreserved a).trans (ht.2 a)⟩
    exact run_invariant hconserved xs ⟨rfl, fun _ => rfl⟩

end Donations

end Chronicles
