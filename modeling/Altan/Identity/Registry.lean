import Altan.Foundation.Accounting
import Altan.Foundation.Links
import Altan.Identity.Spec

/-!
# The register of citizens

Root registers citizens, and a birth registers a minor. Both number who is registered from one
counter, a registration with the number after the counter, a birth with the counter itself; both
record a document, and look it up among the documents that were used, each in a set of its own. A
citizen keeps the number, the document and the address for good. Nicknames are taken and given up by
the citizens themselves, and are recorded both ways.

## Main definitions

* `Deed.registers`, `Deed.isBirth`: the deeds that register somebody
* `SameRegistry`: what every other deed keeps
* `Booked`: the used documents and addresses are those that are recorded
* `OneEach`: no document is recorded twice
* `NameEffect`, `Named`: what an input does to the nicknames, and what holds of them

## Main results

* `citizenIds_distinct_iff`: the citizens have different numbers in the runs without a birth
* `oneEach_iff`: their documents differ in the runs where neither set would have let a document
  through that is in the other
* `nicknames`: the two records of the nicknames agree, and a nickname is its bearer's to give up
-/

open Bounded Dispatch Ledger TransitionSystem Runtime

namespace Identity

variable {AccountId L : Type}

/-- The deed of registering somebody. -/
def Deed.registers : Deed AccountId → Bool
  | .registration .. => true
  | .birth .. => true
  | _ => false

/-- The deed of registering a birth. -/
def Deed.isBirth : Deed AccountId → Bool
  | .birth .. => true
  | _ => false

/-- What a citizen is told by: the number, the document and the address. -/
def CitizenRecord.papers (r : CitizenRecord) : ℕ × Bytes32 × Bytes32 :=
  (r.citizenId, r.documentHash, r.emailHash)

variable [DecidableEq AccountId]

/-- The register is kept: the counter, the sets and what each citizen is told by. -/
structure SameRegistry (c c' : Civics AccountId) : Prop where
  nextCitizenId : c'.nextCitizenId = c.nextCitizenId
  usedDocumentHashes : c'.usedDocumentHashes = c.usedDocumentHashes
  usedEmailHashes : c'.usedEmailHashes = c.usedEmailHashes
  usedBirthHashes : c'.usedBirthHashes = c.usedBirthHashes
  parentalLinks : c'.parentalLinks = c.parentalLinks
  papers : ∀ a, (c'.citizens.get a).map CitizenRecord.papers =
    (c.citizens.get a).map CitizenRecord.papers

section Kept

variable {c c' : Civics AccountId} (h : SameRegistry c c')

include h

/-- Whatever is read off the papers is kept. -/
theorem SameRegistry.map {O : Type} (read : ℕ × Bytes32 × Bytes32 → O) (a : AccountId) :
    (c'.citizens.get a).map (fun r => read r.papers) =
      (c.citizens.get a).map fun r => read r.papers := by
  have hread := congrArg (Option.map read) (h.papers a)
  rwa [Option.map_map, Option.map_map] at hread

theorem SameRegistry.citizenId (a : AccountId) :
    (c'.citizens.get a).map CitizenRecord.citizenId =
      (c.citizens.get a).map CitizenRecord.citizenId :=
  h.map (fun p => p.1) a

theorem SameRegistry.documentHash (a : AccountId) :
    (c'.citizens.get a).map CitizenRecord.documentHash =
      (c.citizens.get a).map CitizenRecord.documentHash :=
  h.map (fun p => p.2.1) a

theorem SameRegistry.emailHash (a : AccountId) :
    (c'.citizens.get a).map CitizenRecord.emailHash =
      (c.citizens.get a).map CitizenRecord.emailHash :=
  h.map (fun p => p.2.2) a

theorem SameRegistry.isSome (a : AccountId) :
    (c'.citizens.get a).isSome = (c.citizens.get a).isSome := by
  have hsome := congrArg Option.isSome (h.papers a)
  rwa [Option.isSome_map, Option.isSome_map] at hsome

end Kept

@[simp] theorem advanceVesting_papers (level : VestingLevel) (r : CitizenRecord) :
    (r.advanceVesting level).papers = r.papers := by
  unfold CitizenRecord.advanceVesting
  exact (apply_ite CitizenRecord.papers _ _ _).trans (ite_self _)

@[simp] theorem inOffice_papers (role : CitizenRole) (now term : ℕ) (r : CitizenRecord) :
    (r.inOffice role now term).papers = r.papers := rfl

variable {period now : ℕ} {d : Deed AccountId} {c c' : Civics AccountId}

/-- **The deeds that register nobody keep the register.** -/
theorem Effect.sameRegistry (h : Effect period now d c c') (hd : d.registers = false) :
    SameRegistry c c' := by
  -- one citizen is written anew with the papers of before
  have hwrite : ∀ {who : AccountId} {r r' : CitizenRecord}, c.citizens.get who = some r →
      r'.papers = r.papers → ∀ a, ((c.citizens.insert who r').get a).map CitizenRecord.papers =
        (c.citizens.get a).map CitizenRecord.papers :=
    fun hget hpapers _ => StorageMap.map_get_insert hget hpapers
  cases h with
  | registration => cases hd
  | birth => cases hd
  | verification hget => exact ⟨rfl, rfl, rfl, rfl, rfl, hwrite hget rfl⟩
  | appointment hget => exact ⟨rfl, rfl, rfl, rfl, rfl, hwrite hget rfl⟩
  | arbad =>
    exact ⟨rfl, rfl, rfl, rfl, rfl, fun _ =>
      map_get_enrol (inOffice_papers _ _ _) (advanceVesting_papers _)⟩
  | zun =>
    exact ⟨rfl, rfl, rfl, rfl, rfl, fun _ =>
      StorageMap.map_get_modify fun _ => advanceVesting_papers _ _⟩
  | myangad => exact ⟨rfl, rfl, rfl, rfl, rfl, fun _ => StorageMap.map_get_modify fun _ => rfl⟩
  | tumed => exact ⟨rfl, rfl, rfl, rfl, rfl, fun _ => StorageMap.map_get_modify fun _ => rfl⟩
  | khural hget => exact ⟨rfl, rfl, rfl, rfl, rfl, hwrite hget rfl⟩
  | confederation hget => exact ⟨rfl, rfl, rfl, rfl, rfl, hwrite hget rfl⟩
  | leave => exact ⟨rfl, rfl, rfl, rfl, rfl, fun _ => rfl⟩
  | amended hget hsame =>
    refine ⟨rfl, rfl, rfl, rfl, rfl, hwrite hget ?_⟩
    unfold CitizenRecord.papers
    rw [hsame.citizenId, hsame.documentHash, hsame.emailHash]
  | kept => exact ⟨rfl, rfl, rfl, rfl, rfl, fun _ => rfl⟩

/-! ### Numbers -/

/-- No two citizens have the same number. -/
def CitizenIdsDistinct (c : Civics AccountId) : Prop :=
  c.citizens.Distinguishes CitizenRecord.citizenId

/-- The numbers go up to the counter, and as long as they differ the counter is one of them, once
there is a citizen. -/
structure Numbered (c : Civics AccountId) : Prop where
  within : c.nextCitizenId ≤ u64Max
  below : ∀ a n, (c.citizens.get a).map CitizenRecord.citizenId = some n → n ≤ c.nextCitizenId
  last : CitizenIdsDistinct c → ∀ b r, c.citizens.get b = some r →
    ∃ a, (c.citizens.get a).map CitizenRecord.citizenId = some c.nextCitizenId

theorem numbered_genesis : Numbered (Civics.genesis : Civics AccountId) where
  within := Nat.zero_le _
  below a n h := by simp [Civics.genesis] at h
  last _ b r h := by simp [Civics.genesis] at h

theorem SameRegistry.numbered (h : SameRegistry c c') (hc : Numbered c) : Numbered c' := by
  refine ⟨h.nextCitizenId.trans_le hc.within, fun a n hn => ?_, fun hd b r hb => ?_⟩
  · rw [h.nextCitizenId]
    exact hc.below a n (h.citizenId a ▸ hn)
  · have hsome := h.isSome b
    rw [hb] at hsome
    obtain ⟨r', hr'⟩ := Option.isSome_iff_exists.mp hsome.symm
    have hdistinct := (StorageMap.distinguishes_congr h.citizenId).mp hd
    obtain ⟨a, ha⟩ := hc.last hdistinct b r' hr'
    exact ⟨a, by rw [h.citizenId, h.nextCitizenId, ha]⟩

/-- A newborn has the number of another citizen. -/
theorem Effect.birth_not_distinct {child : AccountId} {document : Bytes32}
    (h : Effect period now (.birth child document) c c') (hc : Numbered c) :
    ¬ CitizenIdsDistinct c' := by
  intro hd
  cases h with
  | birth hnew _ hparent hr =>
    -- the counter is the number of somebody, the parent or another
    obtain ⟨a, ha⟩ := hc.last (hd.of_insert_new hnew) _ _ hparent
    have hsame : a = child := hd a child _ (StorageMap.map_get_insert_new hnew ha) (by
      rw [StorageMap.get_insert_self, Option.map_some, hr.citizenId])
    rw [hsame, hnew] at ha
    cases ha

theorem Effect.numbered (h : Effect period now d c c') (hc : Numbered c) : Numbered c' := by
  by_cases hd : d.registers = false
  · exact (h.sameRegistry hd).numbered hc
  have hwithin := hc.within
  have hnext : c.nextCitizenId ≤ saturatingAdd u64Max c.nextCitizenId 1 := by
    unfold saturatingAdd
    omega
  -- the newcomer has a number up to the counter, and the others have had theirs
  have hbelow : ∀ {who : AccountId} {r : CitizenRecord},
      r.citizenId ≤ saturatingAdd u64Max c.nextCitizenId 1 → ∀ a n,
        ((c.citizens.insert who r).get a).map CitizenRecord.citizenId = some n →
          n ≤ saturatingAdd u64Max c.nextCitizenId 1 := by
    intro who r hr a n hn
    rw [StorageMap.get_insert] at hn
    split at hn
    · exact Option.some.inj hn ▸ hr
    · exact (hc.below a n hn).trans hnext
  cases d with
  | registration who =>
    cases h with
    | registration hnew _ _ hr _ =>
      refine ⟨Nat.min_le_right _ _, hbelow hr.citizenId.le, fun _ _ _ _ => ⟨who, ?_⟩⟩
      rw [StorageMap.get_insert_self, Option.map_some, hr.citizenId]
  | birth =>
    have hclash := h.birth_not_distinct hc
    cases h with
    | birth hnew _ _ hr =>
      exact ⟨Nat.min_le_right _ _, hbelow (hr.citizenId.trans_le hnext),
        fun hdistinct => absurd hdistinct hclash⟩
  | _ => exact absurd rfl hd

/-- **A deed keeps the numbers apart, while the counter has room, just if it is no birth.** -/
theorem citizenIdsDistinct_effect_iff (hc : Numbered c) (hdistinct : CitizenIdsDistinct c)
    (hroom : d.registers = true → c.nextCitizenId < u64Max) (h : Effect period now d c c') :
    CitizenIdsDistinct c' ↔ d.isBirth = false := by
  cases hd : d.registers with
  | false =>
    refine iff_of_true ?_ (by cases d <;> first | rfl | cases hd)
    exact (StorageMap.distinguishes_congr (h.sameRegistry hd).citizenId).mpr hdistinct
  | true =>
    cases d with
    | registration =>
      cases h with
      | registration hnew _ _ hr _ =>
        refine iff_of_true ((StorageMap.distinguishes_insert_iff hnew hdistinct).mpr ?_) rfl
        -- the number is past all that were given
        intro a ha
        have hle := hc.below a _ ha
        rw [hr.citizenId, saturatingAdd_one_of_lt (hroom hd)] at hle
        exact Nat.not_succ_le_self _ hle
    | birth => exact iff_of_false (h.birth_not_distinct hc) Bool.noConfusion
    | _ => cases hd

section Runs

variable {L : Type} [Currency AccountId L] [ReservableCurrency AccountId L]
  {cfg : Config AccountId L} {w w' : World AccountId L} {x : Input AccountId} {ledger : L}

/-- The counter goes up by at most one with each registration. -/
theorem nextCitizenId_step (h : step cfg x w = .ok w') :
    w'.nextCitizenId ≤ w.nextCitizenId + if x.deed.registers = true then 1 else 0 := by
  have heffect := step_effect h
  cases hd : x.deed.registers with
  | false => exact ((heffect.sameRegistry hd).nextCitizenId).le
  | true =>
    rw [if_pos rfl]
    generalize x.deed = d at heffect hd
    generalize hc : w.civics = c at heffect
    generalize hc' : w'.civics = c' at heffect
    have hgoal : c'.nextCitizenId ≤ c.nextCitizenId + 1 := by
      cases heffect <;> first | exact saturatingAdd_le_add | cases hd
    rw [← hc, ← hc'] at hgoal
    exact hgoal

/-- **Numbers.** Of the runs that register no more citizens than there are numbers, exactly those
without a birth keep the numbers of all citizens different. -/
theorem citizenIds_distinct_iff {xs : List (Input AccountId)}
    (hroom : accepted (step cfg) (fun x => x.deed.registers = true) xs
      (World.genesis ledger now) ≤ u64Max) :
    Throughout (step cfg) (fun w => w.citizens.Distinguishes CitizenRecord.citizenId) xs
        (World.genesis ledger now) ↔
      Along (step cfg) (fun _ x => x.deed.isBirth = false) xs (World.genesis ledger now) := by
  apply throughout_iff_along_within (J := fun w => Numbered w.civics)
  · intro x w w' hj _ h
    exact (step_effect h).numbered hj
  · intro x w w' hj hp hroom h
    exact citizenIdsDistinct_effect_iff hj hp hroom (step_effect h)
  · exact numbered_genesis
  · exact StorageMap.distinguishes_empty _
  · apply along_of_accepted_le (c := fun w : World AccountId L => w.nextCitizenId)
    · exact fun _ _ _ h => nextCitizenId_step h
    · exact (Nat.zero_add _).trans_le hroom

/-- Two citizens are registered, and nobody is born. -/
theorem citizenIds_distinct_registered :
    Throughout (step citizens) (fun w => w.citizens.Distinguishes CitizenRecord.citizenId)
      [decree (registration 3 (.ofByte 1)), decree (registration 4 (.ofByte 2))] noCitizens :=
  (citizenIds_distinct_iff (by decide +kernel)).mpr (by decide +kernel)

/-- A child born to the first citizen is given the number of the citizen. -/
theorem citizenId_repeated :
    accepted (step citizens) (fun x => x.deed.registers = true)
        [decree (registration 3 (.ofByte 1)), decree (.registerBirth 4 3 none (.ofByte 2) 1)]
        noCitizens ≤ u64Max ∧
      ¬ Throughout (step citizens) (fun w => w.citizens.Distinguishes CitizenRecord.citizenId)
        [decree (registration 3 (.ofByte 1)), decree (.registerBirth 4 3 none (.ofByte 2) 1)]
        noCitizens := by
  refine ⟨by decide +kernel, fun h => ?_⟩
  have hsame : (3 : ℕ) = 4 := h.last 3 4 1 (by decide +kernel) (by decide +kernel)
  cases hsame

end Runs

/-! ### Documents -/

/-- The sets of used documents and addresses hold what is recorded of the citizens: of those with
a parental link the one set, of the others the other. -/
structure Booked (c : Civics AccountId) : Prop where
  linked : ∀ a, c.citizens.get a = none → c.parentalLinks.get a = none
  documents : ∀ document, c.usedDocumentHashes.getD document false = true ↔
    ∃ a, (c.citizens.get a).map CitizenRecord.documentHash = some document ∧
      c.parentalLinks.get a = none
  births : ∀ document, c.usedBirthHashes.getD document false = true ↔
    ∃ a, (c.citizens.get a).map CitizenRecord.documentHash = some document ∧
      c.parentalLinks.get a ≠ none
  emails : ∀ a email, (c.citizens.get a).map CitizenRecord.emailHash = some email →
    c.parentalLinks.get a = none → c.usedEmailHashes.getD email false = true

/-- No document is recorded of two citizens, and no address of two who were registered without
parents. -/
structure OneEach (c : Civics AccountId) : Prop where
  documents : c.citizens.Distinguishes CitizenRecord.documentHash
  emails : ∀ a b email, (c.citizens.get a).map CitizenRecord.emailHash = some email →
    (c.citizens.get b).map CitizenRecord.emailHash = some email →
    c.parentalLinks.get a = none → c.parentalLinks.get b = none → a = b

/-- What is registered was used in neither of the two ways: the document of a citizen at no birth,
that of a newborn by no citizen. -/
def UnusedElsewhere (c : Civics AccountId) : Deed AccountId → Prop
  | .registration _ _ document _ => c.usedBirthHashes.getD document false = false
  | .birth _ document => c.usedDocumentHashes.getD document false = false
  | _ => True

instance (c : Civics AccountId) : (d : Deed AccountId) → Decidable (UnusedElsewhere c d)
  | .registration _ _ document _ =>
    inferInstanceAs (Decidable (c.usedBirthHashes.getD document false = false))
  | .birth _ document =>
    inferInstanceAs (Decidable (c.usedDocumentHashes.getD document false = false))
  | .verification .. | .appointment .. | .arbad .. | .zun .. | .myangad .. | .tumed ..
  | .khural .. | .confederation .. | .leave .. | .other => isTrue trivial

theorem booked_genesis : Booked (Civics.genesis : Civics AccountId) := by
  constructor <;> simp [Civics.genesis]

theorem oneEach_genesis : OneEach (Civics.genesis : Civics AccountId) := by
  refine ⟨StorageMap.distinguishes_empty _, ?_⟩
  simp [Civics.genesis]

theorem SameRegistry.booked (h : SameRegistry c c') (hc : Booked c) : Booked c' := by
  constructor
  · intro a ha
    have hsome := h.isSome a
    rw [ha, Option.isSome_none, eq_comm, Option.isSome_eq_false_iff, Option.isNone_iff_eq_none]
      at hsome
    rw [h.parentalLinks]
    exact hc.linked a hsome
  · simp only [h.usedDocumentHashes, h.documentHash, h.parentalLinks]
    exact hc.documents
  · simp only [h.usedBirthHashes, h.documentHash, h.parentalLinks]
    exact hc.births
  · simp only [h.usedEmailHashes, h.emailHash, h.parentalLinks]
    exact hc.emails

theorem SameRegistry.oneEach (h : SameRegistry c c') (hc : OneEach c) : OneEach c' := by
  constructor
  · exact (StorageMap.distinguishes_congr h.documentHash).mpr hc.documents
  · simp only [h.emailHash, h.parentalLinks]
    exact hc.emails

/-- Nobody is recorded with a document that is in neither set. -/
theorem Booked.nobody_iff (hc : Booked c) (document : Bytes32) :
    (∀ a, (c.citizens.get a).map CitizenRecord.documentHash ≠ some document) ↔
      c.usedDocumentHashes.getD document false = false ∧
        c.usedBirthHashes.getD document false = false := by
  rw [← Bool.not_eq_true, ← Bool.not_eq_true, hc.documents, hc.births]
  constructor
  · intro h
    exact ⟨fun ⟨a, ha, _⟩ => h a ha, fun ⟨a, ha, _⟩ => h a ha⟩
  · rintro ⟨hdocuments, hbirths⟩ a ha
    by_cases hlink : c.parentalLinks.get a = none
    · exact hdocuments ⟨a, ha, hlink⟩
    · exact hbirths ⟨a, ha, hlink⟩

theorem Effect.booked_registration {who : AccountId} {role : CitizenRole}
    {document email : Bytes32}
    (h : Effect period now (.registration who role document email) c c') (hc : Booked c) :
    Booked c' := by
  cases h with
  | @registration _ _ _ _ _ r hnew hdocument hemail hr hremail =>
    have hunlinked := hc.linked who hnew
    constructor
    · intro a ha
      exact hc.linked a (StorageMap.get_insert_eq_none.mp ha).2
    · intro document'
      rw [StorageMap.getD_insert_true, StorageMap.exists_map_insert_new hnew fun _ _ => Iff.rfl,
        hc.documents, hr.documentHash, and_iff_left hunlinked]
    · intro document'
      rw [StorageMap.exists_map_insert_new hnew fun _ _ => Iff.rfl, hc.births,
        or_iff_right fun hl => hl.2 hunlinked]
    · intro a email' ha hlink
      rw [StorageMap.getD_insert_true]
      rw [StorageMap.get_insert] at ha
      split at ha
      · exact Or.inl (hremail.symm.trans (Option.some.inj ha))
      · exact Or.inr (hc.emails a email' ha hlink)

theorem Effect.booked_birth {child : AccountId} {document : Bytes32}
    (h : Effect period now (.birth child document) c c') (hc : Booked c) : Booked c' := by
  cases h with
  | @birth _ _ parent1 parent2 _ r _ hnew hdocument _ hr =>
    -- the child is the one who comes to be linked
    have hlinks : ∀ a, a ≠ child → (c.parentalLinks.insert child (parent1, parent2)).get a =
        c.parentalLinks.get a := fun a ha => StorageMap.get_insert_of_ne ha
    constructor
    · intro a ha
      rw [StorageMap.get_insert_eq_none] at ha ⊢
      exact ⟨ha.1, hc.linked a ha.2⟩
    · intro document'
      rw [StorageMap.exists_map_insert_new hnew fun a ha => by rw [hlinks a ha], hc.documents,
        or_iff_right]
      rintro ⟨-, hnone⟩
      exact (StorageMap.get_insert_eq_none.mp hnone).1 rfl
    · intro document'
      rw [StorageMap.getD_insert_true,
        StorageMap.exists_map_insert_new hnew fun a ha => by rw [hlinks a ha], hc.births,
        hr.documentHash, and_iff_left]
      rw [StorageMap.get_insert_self]
      exact Option.some_ne_none _
    · intro a email' ha hlink
      obtain ⟨hne, hlink⟩ := StorageMap.get_insert_eq_none.mp hlink
      rw [StorageMap.get_insert_of_ne hne] at ha
      exact hc.emails a email' ha hlink

theorem Effect.booked (h : Effect period now d c c') (hc : Booked c) : Booked c' := by
  by_cases hd : d.registers = false
  · exact (h.sameRegistry hd).booked hc
  cases d with
  | registration => exact h.booked_registration hc
  | birth => exact h.booked_birth hc
  | _ => exact absurd rfl hd

theorem oneEach_registration_iff {who : AccountId} {role : CitizenRole}
    {document email : Bytes32} (hb : Booked c) (hc : OneEach c)
    (h : Effect period now (.registration who role document email) c c') :
    OneEach c' ↔ c.usedBirthHashes.getD document false = false := by
  cases h with
  | @registration _ _ _ _ _ r hnew hdocument hemail hr hremail =>
    have hdocuments : (c.citizens.insert who r).Distinguishes CitizenRecord.documentHash ↔
        c.usedBirthHashes.getD document false = false := by
      rw [StorageMap.distinguishes_insert_iff hnew hc.documents, hr.documentHash, hb.nobody_iff,
        and_iff_right hdocument]
    refine ⟨fun h' => hdocuments.mp h'.documents, fun hq => ⟨hdocuments.mpr hq, ?_⟩⟩
    -- the address is of nobody who was registered so
    have hnobody : ∀ a, (c.citizens.get a).map CitizenRecord.emailHash = some email →
        c.parentalLinks.get a = none → False := by
      intro a ha hlink
      have hused := hb.emails a email ha hlink
      rw [hemail] at hused
      cases hused
    intro a b email' ha hb' hla hlb
    rw [StorageMap.get_insert] at ha hb'
    split at ha <;> split at hb'
    · next ea eb => rw [ea, eb]
    · have he : email = email' := hremail.symm.trans (Option.some.inj ha)
      exact absurd hlb fun hlb => hnobody b (he ▸ hb') hlb
    · have he : email = email' := hremail.symm.trans (Option.some.inj hb')
      exact absurd hla fun hla => hnobody a (he ▸ ha) hla
    · exact hc.emails a b email' ha hb' hla hlb

theorem oneEach_birth_iff {child : AccountId} {document : Bytes32} (hb : Booked c)
    (hc : OneEach c) (h : Effect period now (.birth child document) c c') :
    OneEach c' ↔ c.usedDocumentHashes.getD document false = false := by
  cases h with
  | @birth _ _ parent1 parent2 _ r _ hnew hdocument _ hr =>
    have hdocuments : (c.citizens.insert child r).Distinguishes CitizenRecord.documentHash ↔
        c.usedDocumentHashes.getD document false = false := by
      rw [StorageMap.distinguishes_insert_iff hnew hc.documents, hr.documentHash, hb.nobody_iff,
        and_iff_left hdocument]
    refine ⟨fun h' => hdocuments.mp h'.documents, fun hq => ⟨hdocuments.mpr hq, ?_⟩⟩
    -- only the child comes to be linked, and nobody new is without link
    intro a b email ha hb' hla hlb
    obtain ⟨hnea, hla⟩ := StorageMap.get_insert_eq_none.mp hla
    obtain ⟨hneb, hlb⟩ := StorageMap.get_insert_eq_none.mp hlb
    rw [StorageMap.get_insert_of_ne hnea] at ha
    rw [StorageMap.get_insert_of_ne hneb] at hb'
    exact hc.emails a b email ha hb' hla hlb

/-- **A deed keeps the documents apart just if what it registers was not used in the other way.** -/
theorem oneEach_effect_iff (hb : Booked c) (hc : OneEach c) (h : Effect period now d c c') :
    OneEach c' ↔ UnusedElsewhere c d := by
  cases d with
  | registration => exact oneEach_registration_iff hb hc h
  | birth => exact oneEach_birth_iff hb hc h
  | _ => exact iff_of_true ((h.sameRegistry rfl).oneEach hc) trivial

/-- **Documents.** No document is recorded of two citizens in exactly the runs where every document
that is registered was not used in the other of the two ways. -/
theorem oneEach_iff [Currency AccountId L] [ReservableCurrency AccountId L]
    {cfg : Config AccountId L} {ledger : L} {xs : List (Input AccountId)} :
    Throughout (step cfg) (fun w => OneEach w.civics) xs (World.genesis ledger now) ↔
      Along (step cfg) (fun w x => UnusedElsewhere w.civics x.deed) xs
        (World.genesis ledger now) :=
  throughout_iff_of_effect (fun _ _ _ _ hj h => h.booked hj)
    (fun _ _ _ _ hj hp h => oneEach_effect_iff hj hp h) booked_genesis oneEach_genesis

/-- A child is born with the document of the parent. -/
theorem document_repeated :
    ¬ Throughout (step citizens) (fun w => OneEach w.civics)
      [decree (registration 3 (.ofByte 1)), decree (.registerBirth 4 3 none (.ofByte 1) 1)]
      noCitizens := by
  intro h
  have hsame : (3 : ℕ) = 4 :=
    h.last.documents 3 4 (.ofByte 1) (by decide +kernel) (by decide +kernel)
  cases hsame

/-! ### Nicknames -/

section Nicknames

variable {s s' : State AccountId L}

/-- A name that may be taken: three to twenty-four letters, digits, dashes and underscores. -/
def IsNickname (name : BoundedVec UInt8 24) : Prop :=
  3 ≤ name.val.length ∧ ∀ byte ∈ name.val, IsNicknameByte byte

/-- A citizen takes a nickname. -/
structure NameTaken (s s' : State AccountId L) (a : AccountId) (name : BoundedVec UInt8 24) :
    Prop where
  registered : s.citizens.containsKey a = true
  unnamed : s.nicknameOf.get a = none
  free : s.accountByNickname.get name = none
  proper : IsNickname name
  nicknameOf : s'.nicknameOf = s.nicknameOf.insert a name
  accountByNickname : s'.accountByNickname = s.accountByNickname.insert name a

/-- A citizen gives a nickname up. -/
def NameCleared (s s' : State AccountId L) (a : AccountId) : Prop :=
  ∃ name, s.nicknameOf.get a = some name ∧ s'.nicknameOf = s.nicknameOf.remove a ∧
    s'.accountByNickname = s.accountByNickname.remove name

/-- The nicknames are kept. -/
def NamesKept (s s' : State AccountId L) : Prop :=
  s'.nicknameOf = s.nicknameOf ∧ s'.accountByNickname = s.accountByNickname

/-- What an input does to the nicknames. -/
def NameEffect (s s' : State AccountId L) : Input AccountId → Prop
  | .call (.signed a) (.registerNickname name) => NameTaken s s' a name
  | .call (.signed a) .clearNickname => NameCleared s s' a
  | _ => NamesKept s s'

/-- The two records of the nicknames agree; every nickname may be taken, and its bearer is
registered. -/
structure Named (s : State AccountId L) : Prop where
  inverse : Inverse s.nicknameOf s.accountByNickname
  proper : ∀ a name, s.nicknameOf.get a = some name →
    IsNickname name ∧ s.citizens.containsKey a = true

variable {cfg : Config AccountId L} {ctx : Context AccountId}

theorem registerNickname_taken {name : BoundedVec UInt8 24}
    (h : registerNickname ctx name s = .ok s') :
    ∃ a, ctx.origin = .signed a ∧ NameTaken s s' a name := by
  simp only [registerNickname, ensureSigned_bind_eq_ok, citizen_bind_eq_ok, ensure_bind_eq_ok,
    pure_eq_ok] at h
  obtain ⟨caller, horigin, r, hget, -, hunnamed, hlength, hbytes, hfree, rfl⟩ := h
  refine ⟨caller, horigin, StorageMap.containsKey_iff.mpr ⟨r, hget⟩,
    StorageMap.not_containsKey.mp hunnamed, StorageMap.not_containsKey.mp hfree, ⟨hlength, ?_⟩,
    rfl, rfl⟩
  intro byte hbyte
  exact of_decide_eq_true (List.all_eq_true.mp hbytes byte hbyte)

theorem clearNickname_cleared (h : clearNickname ctx s = .ok s') :
    ∃ a, ctx.origin = .signed a ∧ NameCleared s s' a := by
  simp only [clearNickname, ensureSigned_bind_eq_ok, required_bind_eq_ok, pure_eq_ok] at h
  obtain ⟨caller, horigin, name, hname, rfl⟩ := h
  exact ⟨caller, horigin, name, hname, rfl, rfl⟩

theorem ensureBirthOrigin_names :
    Yields (fun t => NamesKept s t) (ensureBirthOrigin cfg ctx s) := by
  unfold ensureBirthOrigin checkAndIncrementOracleRate
  split
  · exact .pure ⟨rfl, rfl⟩
  · refine .bind fun _ _ => .bind fun _ _ => ?_
    dsimp only
    split
    · exact .bind fun _ _ => .pure ⟨rfl, rfl⟩
    · exact .pure ⟨rfl, rfl⟩

variable [Currency AccountId L] [ReservableCurrency AccountId L]

/-- No other call writes the nicknames. -/
theorem dispatch_names {c : Call AccountId} (hregister : ∀ name, c ≠ .registerNickname name)
    (hclear : c ≠ .clearNickname) : Yields (fun t => NamesKept s t) (dispatch cfg ctx c s) := by
  cases c with
  | registerNickname name => exact absurd rfl (hregister name)
  | clearNickname => exact absurd rfl hclear
  | registerBirth child parent1 parent2 childHash birthRegionId =>
    refine Yields.bind fun t ht => ?_
    have hbirth := ensureBirthOrigin_names t ht
    refine .bind fun _ _ => .bind fun _ _ => .bind fun _ _ => .bind fun _ _ => .bind fun _ _ => ?_
    exact .pure hbirth
  | _ =>
    -- checks, and then other records are written
    repeat refine Yields.bind fun _ _ => ?_
    exact .pure ⟨rfl, rfl⟩

/-- Every accepted input has its effect on the nicknames. -/
theorem step_names {w w' : World AccountId L} {x : Input AccountId} (h : step cfg x w = .ok w') :
    NameEffect w.toState w'.toState x := by
  cases x with
  | block =>
    rw [← Except.ok.inj h]
    exact ⟨rfl, rfl⟩
  | call origin c =>
    simp only [step, bind_eq_ok, pure_eq_ok] at h
    obtain ⟨t, ht, rfl⟩ := h
    by_cases hregister : ∃ name, c = .registerNickname name
    · obtain ⟨name, rfl⟩ := hregister
      obtain ⟨a, horigin, htaken⟩ := registerNickname_taken ht
      cases horigin
      exact htaken
    by_cases hclear : c = .clearNickname
    · subst hclear
      obtain ⟨a, horigin, hcleared⟩ := clearNickname_cleared ht
      cases horigin
      exact hcleared
    have hkept := dispatch_names (not_exists.mp hregister) hclear t ht
    unfold NameEffect
    split
    · next heq => exact absurd ⟨_, (Input.call.inj heq).2⟩ hregister
    · next heq => exact absurd (Input.call.inj heq).2 hclear
    · exact hkept
  | doFreezeCitizen who =>
    simp only [step, doFreezeCitizen, bind_eq_ok, pure_eq_ok] at h
    obtain ⟨t, ⟨r, -, rfl⟩, rfl⟩ := h
    exact ⟨rfl, rfl⟩
  | doUnfreezeCitizen who =>
    simp only [step, doUnfreezeCitizen, bind_eq_ok, pure_eq_ok] at h
    obtain ⟨t, ⟨r, -, -, -, rfl⟩, rfl⟩ := h
    exact ⟨rfl, rfl⟩
  | doDemoteToRegular who =>
    simp only [step, doDemoteToRegular, bind_eq_ok, pure_eq_ok] at h
    obtain ⟨t, ⟨r, -, rfl⟩, rfl⟩ := h
    exact ⟨rfl, rfl⟩
  | doExile who =>
    simp only [step, doExile, bind_eq_ok, pure_eq_ok] at h
    obtain ⟨t, ⟨r, -, -, -, rfl⟩, rfl⟩ := h
    exact ⟨rfl, rfl⟩

/-- **An accepted input keeps the nicknames in order**, and those of all but the signers who give
theirs up. -/
theorem Named.step {w w' : World AccountId L} {x : Input AccountId} (hw : Named w.toState)
    (h : step cfg x w = .ok w') :
    Named w'.toState ∧ ∀ a name, x ≠ .call (.signed a) .clearNickname →
      w.nicknameOf.get a = some name → w'.nicknameOf.get a = some name := by
  have hregistered : ∀ a, w.citizens.containsKey a = true → w'.citizens.containsKey a = true :=
    fun _ => (step_effect h).containsKey
  have hnames := step_names h
  unfold NameEffect at hnames
  split at hnames
  · next a name =>
    refine ⟨⟨?_, ?_⟩, ?_⟩
    · rw [hnames.nicknameOf, hnames.accountByNickname]
      exact hw.inverse.insert hnames.unnamed hnames.free
    · intro b name' hb
      rw [hnames.nicknameOf] at hb
      rcases StorageMap.get_insert_cases hb with ⟨rfl, rfl⟩ | ⟨-, hb⟩
      · exact ⟨hnames.proper, hregistered _ hnames.registered⟩
      · exact ⟨(hw.proper b name' hb).1, hregistered b (hw.proper b name' hb).2⟩
    · intro b name' _ hb
      rw [hnames.nicknameOf, StorageMap.get_insert_of_ne]
      · exact hb
      · rintro rfl
        rw [hnames.unnamed] at hb
        cases hb
  · next a =>
    obtain ⟨name, hname, hof, hby⟩ := hnames
    refine ⟨⟨?_, ?_⟩, ?_⟩
    · rw [hof, hby]
      exact hw.inverse.remove hname
    · intro b name' hb
      rw [hof, StorageMap.get_remove] at hb
      split at hb
      · cases hb
      · exact ⟨(hw.proper b name' hb).1, hregistered b (hw.proper b name' hb).2⟩
    · intro b name' hb hget
      rw [hof, StorageMap.get_remove_of_ne fun he => hb (by rw [he])]
      exact hget
  · obtain ⟨hof, hby⟩ := hnames
    refine ⟨⟨?_, ?_⟩, ?_⟩
    · rw [hof, hby]
      exact hw.inverse
    · intro b name hb
      rw [hof] at hb
      exact ⟨(hw.proper b name hb).1, hregistered b (hw.proper b name hb).2⟩
    · intro b name _ hb
      rw [hof]
      exact hb

/-- **Nicknames.** After every run the account of a nickname and the nickname of an account are each
other's inverse, every nickname may be taken and belongs to a registered citizen; and whatever
happens after, a citizen keeps a nickname until it gives it up itself. -/
theorem nicknames (cfg : Config AccountId L) (ledger : L) (now : ℕ)
    (xs ys : List (Input AccountId)) :
    let w := run (step cfg) xs (.genesis ledger now)
    let later := run (step cfg) (xs ++ ys) (.genesis ledger now)
    Inverse w.nicknameOf w.accountByNickname ∧
      (∀ a name, w.nicknameOf.get a = some name →
        IsNickname name ∧ w.citizens.containsKey a = true) ∧
        ∀ a name, .call (.signed a) .clearNickname ∉ ys → w.nicknameOf.get a = some name →
          later.nicknameOf.get a = some name := by
  intro w later
  have hgenesis : Named (World.genesis ledger now : World AccountId L).toState :=
    ⟨Inverse.empty, fun a name ha => nomatch ha⟩
  have hstep : ∀ x (u u' : World AccountId L), Named u.toState → step cfg x u = .ok u' →
      Named u'.toState := fun _ _ _ hu h => (hu.step h).1
  have hnamed : Named w.toState := run_invariant hstep xs hgenesis
  refine ⟨hnamed.inverse, hnamed.proper, ?_⟩
  intro a name hys ha
  have hkept : ∀ x (u u' : World AccountId L), Named u.toState ∧ u.nicknameOf.get a = some name →
      x ≠ .call (.signed a) .clearNickname → step cfg x u = .ok u' →
        Named u'.toState ∧ u'.nicknameOf.get a = some name :=
    fun x u u' hu hx h => ⟨(hu.1.step h).1, (hu.1.step h).2 a name hx hu.2⟩
  have halong : Along (step cfg) (fun _ x => x ≠ .call (.signed a) .clearNickname) ys w :=
    along_of_mem fun x hx he => hys (he ▸ hx)
  have hthroughout := throughout_of_along hkept ⟨hnamed, ha⟩ halong
  show (run (step cfg) (xs ++ ys) _).nicknameOf.get a = some name
  rw [run_append]
  exact hthroughout.last.2

end Nicknames

end Identity
