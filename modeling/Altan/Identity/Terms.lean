import Altan.Foundation.Accounting
import Altan.Identity.Spec

/-!
# The terms of the delegates

Who forms a Khural or a confederation serves a term, and nobody serves more than two. The count of
the terms stays with a citizen through demotions and new promotions, and is how many Khurals and
confederations he leads, as long as none of them is written over. They are numbered by counters
that stop at the end of their range.

## Main definitions

* `TermsCounted`: every citizen has served a term for each of his Khurals and confederations, and
  at most two
* `FreeSeat`: a new Khural or confederation takes a free number

## Main results

* `termsCounted_iff`: the runs in which the terms are counted
* `termsCounted_of_accepted`: as many Khurals and confederations as there are numbers
* `khural_overwritten`: one Khural more
-/

open Bounded Dispatch Ledger TransitionSystem Runtime

namespace Identity

section Effects

variable {AccountId : Type} [DecidableEq AccountId]

/-- How many Khurals and confederations an account leads. -/
def Civics.unitsLed (c : Civics AccountId) (a : AccountId) : ℕ :=
  c.khurals.led KhuralRecord.leader a + c.confederations.led ConfederationRecord.leader a

/-- Citizens have served as many terms as a count says, and at most two. -/
def Served (citizens : StorageMap AccountId CitizenRecord) (count : AccountId → ℕ) : Prop :=
  ∀ a terms, (citizens.get a).map CitizenRecord.khuralTermsServed = some terms →
    terms = count a ∧ terms ≤ 2

/-- Every citizen has served a term for each Khural and each confederation he leads, and at most
two. -/
def TermsCounted (c : Civics AccountId) : Prop := Served c.citizens c.unitsLed

/-- The leaders of the Khurals and of the confederations are registered. -/
structure LedByCitizens (c : Civics AccountId) : Prop where
  khurals : ∀ i k, c.khurals.units.get i = some k → c.citizens.containsKey k.leader = true
  confederations : ∀ i f, c.confederations.units.get i = some f →
    c.citizens.containsKey f.leader = true

/-- A new Khural or confederation takes a number that is free. -/
def FreeSeat (c : Civics AccountId) : Deed AccountId → Prop
  | .khural .. => c.khurals.units.get c.khurals.nextId = none
  | .confederation .. => c.confederations.units.get c.confederations.nextId = none
  | _ => True

section Promotion

variable {citizens : StorageMap AccountId CitizenRecord} {count count' : AccountId → ℕ}
  {leader : AccountId} {r r' : CitizenRecord}

/-- A term that is counted for its leader. -/
theorem Served.promote (h : Served citizens count) (hget : citizens.get leader = some r)
    (hterms : r.khuralTermsServed < 2) (hr' : r'.khuralTermsServed = r.khuralTermsServed + 1)
    (hcount : ∀ a, count' a = count a + if leader = a then 1 else 0) :
    Served (citizens.insert leader r') count' := by
  intro a terms ha
  rw [hcount a]
  rw [StorageMap.get_insert] at ha
  split at ha
  · next hleader =>
    subst hleader
    obtain ⟨hserved, -⟩ := h a r.khuralTermsServed (by rw [hget]; rfl)
    rw [Option.map_some, hr'] at ha
    rw [if_pos rfl, ← hserved, ← Option.some.inj ha]
    exact ⟨rfl, hterms⟩
  · next hne =>
    rw [if_neg (Ne.symm hne), Nat.add_zero]
    exact h a terms ha

/-- A term that is counted for its leader, in the place of one of another citizen, or his own. -/
theorem Served.not_promote {v : AccountId} (h : Served citizens count)
    (hget : citizens.get leader = some r) (hv : citizens.containsKey v = true)
    (hr' : r'.khuralTermsServed = r.khuralTermsServed + 1)
    (hcount : ∀ a, count' a + (if v = a then 1 else 0) =
      count a + if leader = a then 1 else 0) :
    ¬ Served (citizens.insert leader r') count' := by
  intro h'
  have hcountv := hcount v
  rw [if_pos rfl] at hcountv
  by_cases hleader : leader = v
  · subst hleader
    obtain ⟨hserved, -⟩ := h leader r.khuralTermsServed (by rw [hget]; rfl)
    obtain ⟨hserved', -⟩ := h' leader r'.khuralTermsServed (by rw [StorageMap.get_insert_self]; rfl)
    rw [if_pos rfl] at hcountv
    omega
  · obtain ⟨rv, hrv⟩ := StorageMap.containsKey_iff.mp hv
    obtain ⟨hserved, -⟩ := h v rv.khuralTermsServed (by rw [hrv]; rfl)
    obtain ⟨hserved', -⟩ := h' v rv.khuralTermsServed (by
      rw [StorageMap.get_insert_of_ne (Ne.symm hleader), hrv]
      rfl)
    rw [if_neg hleader] at hcountv
    omega

end Promotion

variable {period now : ℕ} {d : Deed AccountId} {c c' : Civics AccountId}

theorem ledByCitizens_genesis : LedByCitizens (Civics.genesis : Civics AccountId) := by
  constructor <;> simp [Civics.genesis]

theorem termsCounted_genesis : TermsCounted (Civics.genesis : Civics AccountId) := by
  intro a terms ha
  simp [Civics.genesis] at ha

/-- Who is not registered leads nothing. -/
theorem LedByCitizens.unitsLed_eq_zero (hc : LedByCitizens c) {who : AccountId}
    (hnew : c.citizens.get who = none) : c.unitsLed who = 0 := by
  have hnot : ∀ {leader : AccountId}, c.citizens.containsKey leader = true → leader ≠ who := by
    rintro leader hleader rfl
    rw [StorageMap.not_containsKey.mpr hnew] at hleader
    cases hleader
  unfold Civics.unitsLed
  rw [Roster.led_eq_zero fun i k hk => hnot (hc.khurals i k hk),
    Roster.led_eq_zero fun i f hf => hnot (hc.confederations i f hf)]

theorem Effect.ledByCitizens (h : Effect period now d c c') (hc : LedByCitizens c) :
    LedByCitizens c' := by
  have hstays : ∀ {a : AccountId}, c.citizens.containsKey a = true →
      c'.citizens.containsKey a = true := h.containsKey
  have hnew : ∀ {U : Type} {leaderOf : U → AccountId} {r : Roster AccountId U} {u : U},
      (∀ i u, r.units.get i = some u → c.citizens.containsKey (leaderOf u) = true) →
        c.citizens.containsKey (leaderOf u) = true →
          ∀ i v, (r.units.insert r.nextId u).get i = some v →
            c'.citizens.containsKey (leaderOf v) = true := by
    intro U leaderOf r u hold hu i v hv
    rcases StorageMap.get_insert_cases hv with ⟨-, rfl⟩ | ⟨-, hv⟩
    · exact hstays hu
    · exact hstays (hold i v hv)
  have hkhurals : ∀ i k, c.khurals.units.get i = some k →
      c'.citizens.containsKey k.leader = true := fun i k hk => hstays (hc.khurals i k hk)
  have hconfederations : ∀ i f, c.confederations.units.get i = some f →
      c'.citizens.containsKey f.leader = true := fun i f hf => hstays (hc.confederations i f hf)
  cases h with
  | khural hget _ hleader =>
    subst hleader
    exact ⟨hnew hc.khurals (StorageMap.containsKey_iff.mpr ⟨_, hget⟩), hconfederations⟩
  | confederation hget _ _ hleader =>
    subst hleader
    exact ⟨hkhurals, hnew hc.confederations (StorageMap.containsKey_iff.mpr ⟨_, hget⟩)⟩
  | _ => exact ⟨hkhurals, hconfederations⟩

/-- What keeps the terms and the units keeps the count. -/
theorem TermsCounted.congr (hc : TermsCounted c)
    (hterms : ∀ a, (c'.citizens.get a).map CitizenRecord.khuralTermsServed =
      (c.citizens.get a).map CitizenRecord.khuralTermsServed)
    (hkhurals : c'.khurals = c.khurals) (hconfederations : c'.confederations = c.confederations) :
    TermsCounted c' := by
  intro a terms ha
  unfold Civics.unitsLed
  rw [hkhurals, hconfederations]
  rw [hterms] at ha
  exact hc a terms ha

/-- A newcomer has served no term, and leads nothing. -/
theorem TermsCounted.register (hled : LedByCitizens c) (hc : TermsCounted c) {who : AccountId}
    {r : CitizenRecord} (hnew : c.citizens.get who = none) (hr : r.khuralTermsServed = 0) :
    Served (c.citizens.insert who r) c.unitsLed := by
  intro a terms ha
  rw [StorageMap.get_insert] at ha
  split at ha
  · next hwho =>
    subst hwho
    rw [Option.map_some, hr] at ha
    rw [← Option.some.inj ha, hled.unitsLed_eq_zero hnew]
    exact ⟨rfl, Nat.zero_le 2⟩
  · exact hc a terms ha

@[simp] theorem advanceVesting_khuralTermsServed (level : VestingLevel) (r : CitizenRecord) :
    (r.advanceVesting level).khuralTermsServed = r.khuralTermsServed := by
  unfold CitizenRecord.advanceVesting
  exact (apply_ite CitizenRecord.khuralTermsServed _ _ _).trans (ite_self _)

/-- **A deed keeps the terms counted just if a new Khural or confederation takes a free number.** -/
theorem termsCounted_effect_iff (hled : LedByCitizens c) (hc : TermsCounted c)
    (h : Effect period now d c c') : TermsCounted c' ↔ FreeSeat c d := by
  have hone : ∀ {r : CitizenRecord}, r.khuralTermsServed < 2 →
      saturatingAdd 255 r.khuralTermsServed 1 = r.khuralTermsServed + 1 :=
    fun hlt => saturatingAdd_of_le (by omega)
  cases h with
  | registration hnew _ _ hr =>
    exact iff_of_true (hc.register hled hnew hr.khuralTermsServed) trivial
  | birth hnew _ _ hr => exact iff_of_true (hc.register hled hnew hr.khuralTermsServed) trivial
  | @khural _ _ _ k _ hget hterms hleader =>
    subst hleader
    unfold FreeSeat
    cases hslot : c.khurals.units.get c.khurals.nextId with
    | none =>
      -- one more term, and one more Khural that is led
      refine iff_of_true (hc.promote hget hterms (hone hterms) fun a => ?_) rfl
      show (c.khurals.form k.leader k).led KhuralRecord.leader a + _ = _ + _ + _
      rw [Roster.led_form hslot, Nat.add_right_comm]
    | some old =>
      -- the Khural that had the number is led no more, and its leader keeps the term
      refine iff_of_false ?_ (Option.some_ne_none old)
      apply hc.not_promote hget (hled.khurals _ _ hslot) (hone hterms)
      intro a
      show (c.khurals.form k.leader k).led KhuralRecord.leader a + _ + _ = _ + _ + _
      rw [Nat.add_right_comm, Roster.led_form_of_get hslot, Nat.add_right_comm]
  | @confederation _ _ _ f _ hget _ hterms hleader =>
    subst hleader
    unfold FreeSeat
    cases hslot : c.confederations.units.get c.confederations.nextId with
    | none =>
      refine iff_of_true (hc.promote hget hterms (hone hterms) fun a => ?_) rfl
      show _ + (c.confederations.form f.leader f).led ConfederationRecord.leader a = _ + _ + _
      rw [Roster.led_form hslot, Nat.add_assoc]
    | some old =>
      refine iff_of_false ?_ (Option.some_ne_none old)
      apply hc.not_promote hget (hled.confederations _ _ hslot) (hone hterms)
      intro a
      show _ + (c.confederations.form f.leader f).led ConfederationRecord.leader a + _ = _ + _ + _
      rw [Nat.add_assoc, Roster.led_form_of_get hslot, Nat.add_assoc]
  | verification hget =>
    exact iff_of_true (hc.congr (fun _ => StorageMap.map_get_insert hget rfl) rfl rfl) trivial
  | appointment hget =>
    exact iff_of_true (hc.congr (fun _ => StorageMap.map_get_insert hget rfl) rfl rfl) trivial
  | amended hget hsame =>
    exact iff_of_true
      (hc.congr (fun _ => StorageMap.map_get_insert hget hsame.khuralTermsServed) rfl rfl) trivial
  | arbad =>
    refine iff_of_true (hc.congr (fun _ => map_get_enrol (fun _ => rfl) ?_) rfl rfl) trivial
    exact advanceVesting_khuralTermsServed _
  | zun =>
    refine iff_of_true (hc.congr (fun _ => StorageMap.map_get_modify ?_) rfl rfl) trivial
    exact fun _ => advanceVesting_khuralTermsServed _ _
  | myangad | tumed =>
    refine iff_of_true (hc.congr (fun _ => StorageMap.map_get_modify ?_) rfl rfl) trivial
    exact fun _ => rfl
  | leave | kept => exact iff_of_true (hc.congr (fun _ => rfl) rfl rfl) trivial

/-- The deed of forming a Khural or a confederation. -/
def Deed.seats : Deed AccountId → Bool
  | .khural .. => true
  | .confederation .. => true
  | _ => false

/-- After so many Khurals and confederations together. -/
def SeatsNumbered (n : ℕ) (c : Civics AccountId) : Prop :=
  ∃ k f, k + f = n ∧ c.khurals.Numbered k ∧ c.confederations.Numbered f

theorem Effect.seatsNumbered {n : ℕ} (h : Effect period now d c c') (hc : SeatsNumbered n c) :
    SeatsNumbered (n + if d.seats = true then 1 else 0) c' := by
  obtain ⟨k, f, rfl, hkhurals, hconfederations⟩ := hc
  cases h with
  | khural => exact ⟨k + 1, f, Nat.add_right_comm k 1 f, hkhurals.form, hconfederations⟩
  | confederation => exact ⟨k, f + 1, rfl, hkhurals, hconfederations.form⟩
  | _ => exact ⟨k, f, rfl, hkhurals, hconfederations⟩

omit [DecidableEq AccountId] in
theorem SeatsNumbered.freeSeat {n : ℕ} (hc : SeatsNumbered n c) (hn : d.seats = true → n < 2 ^ 32) :
    FreeSeat c d := by
  obtain ⟨k, f, rfl, hkhurals, hconfederations⟩ := hc
  cases d with
  | khural => exact hkhurals.free ((Nat.le_add_right k f).trans_lt (hn rfl))
  | confederation => exact hconfederations.free ((Nat.le_add_left f k).trans_lt (hn rfl))
  | _ => trivial

end Effects

section Runs

variable {AccountId L : Type} [DecidableEq AccountId] [Currency AccountId L]
  [ReservableCurrency AccountId L] {cfg : Config AccountId L} {ledger : L} {now : ℕ}
  {w : World AccountId L} {xs : List (Input AccountId)}

theorem throughout_termsCounted_iff (hled : LedByCitizens w.civics) (hc : TermsCounted w.civics) :
    Throughout (step cfg) (fun w => TermsCounted w.civics) xs w ↔
      Along (step cfg) (fun w x => FreeSeat w.civics x.deed) xs w :=
  throughout_iff_of_effect (fun _ _ _ _ hj h => h.ledByCitizens hj)
    (fun _ _ _ _ hj hc h => termsCounted_effect_iff hj hc h) hled hc

/-- **Terms.** Every citizen has served a term for each Khural and confederation he leads, and at
most two, in exactly the runs where every new Khural and confederation takes a free number. -/
theorem termsCounted_iff :
    Throughout (step cfg) (fun w => TermsCounted w.civics) xs (World.genesis ledger now) ↔
      Along (step cfg) (fun w x => FreeSeat w.civics x.deed) xs (World.genesis ledger now) :=
  throughout_termsCounted_iff ledByCitizens_genesis termsCounted_genesis

/-- **Enough numbers.** The terms are counted throughout every run of at most `2 ^ 32` Khurals and
confederations. -/
theorem termsCounted_of_accepted
    (h : accepted (step cfg) (fun x => x.deed.seats = true) xs (World.genesis ledger now) ≤
      2 ^ 32) :
    Throughout (step cfg) (fun w => TermsCounted w.civics) xs (World.genesis ledger now) := by
  refine (throughout_termsCounted_iff ?_ ?_).mpr ?_
  · exact ledByCitizens_genesis
  · exact termsCounted_genesis
  have hstart : SeatsNumbered 0 (World.genesis ledger now : World AccountId L).civics :=
    ⟨0, 0, rfl, Roster.numbered_empty, Roster.numbered_empty⟩
  refine along_of_counted (C := fun n w => SeatsNumbered n w.civics) ?_ ?_ hstart
    ((Nat.zero_add _).trans_le h)
  · exact fun n x w w' hn hs => (step_effect hs).seatsNumbered hn
  · exact fun n x w hn hlt => hn.freeSeat hlt

end Runs

/-! ### One Khural too many -/

section Overwritten

/-- The citizen `10 + n` is registered as the leader of a Tumed, and forms a Khural of the Tumed
zero. -/
def newKhural (n : ℕ) : List (Input ℕ) :=
  [decree (.registerCitizen (10 + n) 1 .tumedLeader true none none .internal (.ofNat (n + 2))
      (.ofNat (n + 2)) (.ofNat (n + 2))),
    signed (10 + n) (.formKhural [0])]

/-- A legislative Tumed comes about, and `n` Khurals of it. -/
def manyKhurals (n : ℕ) : List (Input ℕ) :=
  legislature ++ (List.range n).flatMap newKhural

theorem manyKhurals_succ (n : ℕ) : manyKhurals (n + 1) = manyKhurals n ++ newKhural n := by
  simp [manyKhurals, List.range_succ]

/-- The state after some Khurals: the counter is there or at the end of its range, the last Khural
has taken its number, and the next citizens have neither been registered nor used their
documents. -/
structure Seated (n : ℕ) (w : World ℕ (NativeLedger ℕ)) : Prop where
  tumed : ∃ t, w.tumeds.get 0 = some t ∧ t.branch = .legislative
  nextKhural : w.nextKhuralId = min n u32Max
  last : ∀ m, n = m + 1 → ∃ k, w.khurals.get (min m u32Max) = some k
  unregistered : ∀ m, n ≤ m → w.citizens.get (10 + m) = none
  documents : ∀ m, n + 2 ≤ m → m < 256 ^ 32 → w.usedDocumentHashes.getD (.ofNat m) false = false
  emails : ∀ m, n + 2 ≤ m → m < 256 ^ 32 → w.usedEmailHashes.getD (.ofNat m) false = false

/-- Two marks are on the documents of the first two citizens only. -/
theorem getD_twoDocuments {m : ℕ} (hm : 2 ≤ m) (hlt : m < 256 ^ 32) :
    (((∅ : StorageMap Bytes32 Bool).insert (.ofNat 0) true).insert (.ofNat 1) true).getD (.ofNat m)
      false = false := by
  have hne : ∀ {k : ℕ}, k < 2 → Bytes32.ofNat m ≠ Bytes32.ofNat k := by
    intro k hk he
    have hmk := Bytes32.ofNat_injective hlt (by omega) he
    omega
  rw [StorageMap.getD_insert, if_neg (hne (by decide)), StorageMap.getD_insert,
    if_neg (hne (by decide)), StorageMap.getD_empty]

theorem seated_zero : Seated 0 (run (step citizens) (manyKhurals 0) noCitizens) where
  tumed := by
    have hbranch : ((run (step citizens) (manyKhurals 0) noCitizens).tumeds.get 0).map
        TumedRecord.branch = some .legislative := by decide +kernel
    exact Option.map_eq_some_iff.mp hbranch
  nextKhural := by decide +kernel
  last m hm := by cases hm
  unregistered m _ := by
    rw [← StorageMap.notMem_keys]
    have hkeys : (run (step citizens) (manyKhurals 0) noCitizens).citizens.keys = {3, 4} := by
      decide +kernel
    rw [hkeys, Finset.mem_insert, Finset.mem_singleton]
    omega
  documents m hm hlt := by
    have hused : (run (step citizens) (manyKhurals 0) noCitizens).usedDocumentHashes =
        ((∅ : StorageMap Bytes32 Bool).insert (.ofNat 0) true).insert (.ofNat 1) true := by
      decide +kernel
    rw [hused]
    exact getD_twoDocuments hm hlt
  emails m hm hlt := by
    have hused : (run (step citizens) (manyKhurals 0) noCitizens).usedEmailHashes =
        ((∅ : StorageMap Bytes32 Bool).insert (.ofNat 0) true).insert (.ofNat 1) true := by
      decide +kernel
    rw [hused]
    exact getD_twoDocuments hm hlt

/-- The citizen who is registered for the next Khural. -/
def nextDelegate (n : ℕ) (w : World ℕ (NativeLedger ℕ)) : CitizenRecord where
  citizenId := saturatingAdd u64Max w.nextCitizenId 1
  nationId := 1
  naturalizedPeopleId := none
  role := .tumedLeader
  status := .active
  verification := .unverified
  vestingLevel := none
  branch := none
  termEnd := none
  khuralTermsServed := 0
  isIndigenous := true
  citizenshipStatus := .indigenous
  regionId := none
  birthRegionId := none
  passportType := .internal
  documentHash := .ofNat (n + 2)
  birthPageHash := .ofNat (n + 2)
  emailHash := .ofNat (n + 2)

/-- The state once that citizen is registered. -/
def withNextDelegate (n : ℕ) (w : World ℕ (NativeLedger ℕ)) : World ℕ (NativeLedger ℕ) :=
  { w with
    nextCitizenId := saturatingAdd u64Max w.nextCitizenId 1
    usedDocumentHashes := w.usedDocumentHashes.insert (.ofNat (n + 2)) true
    usedEmailHashes := w.usedEmailHashes.insert (.ofNat (n + 2)) true
    citizens := w.citizens.insert (10 + n) (nextDelegate n w) }

variable {n : ℕ} {w : World ℕ (NativeLedger ℕ)}

theorem step_nextDelegate (h : Seated n w) (hn : n + 2 < 256 ^ 32) :
    step citizens (decree (.registerCitizen (10 + n) 1 .tumedLeader true none none .internal
      (.ofNat (n + 2)) (.ofNat (n + 2)) (.ofNat (n + 2)))) w = .ok (withNextDelegate n w) := by
  have hnew := StorageMap.not_containsKey.mpr (h.unregistered n (Nat.le_refl n))
  have hdocument := h.documents (n + 2) (Nat.le_refl _) hn
  have hemail := h.emails (n + 2) (Nat.le_refl _) hn
  refine step_call (s := (withNextDelegate n w).toState) ?_
  simp only [dispatch, registerCitizen, ensureRoot_bind_eq_ok, ensure_bind_eq_ok, pure_eq_ok]
  exact ⟨trivial, hnew, by decide, by simp, by simp, hdocument, hemail, rfl⟩

/-- A Khural of one legislative Tumed is formed by the leader of any. -/
theorem formKhural_of_legislative (now : ℕ) {s : State ℕ (NativeLedger ℕ)} {leader : ℕ}
    {r : CitizenRecord} {t : TumedRecord ℕ} (hget : s.citizens.get leader = some r)
    (hactive : r.status = .active) (hrole : r.role = .tumedLeader)
    (hterms : r.khuralTermsServed < 2) (htumed : s.tumeds.get 0 = some t)
    (hbranch : t.branch = .legislative) :
    formKhural ⟨.signed leader, now⟩ [0] s = .ok
      { s with
        citizens := s.citizens.insert leader
          { r.inOffice .khuralDelegate now fourYearTerm with
            khuralTermsServed := saturatingAdd 255 r.khuralTermsServed 1 }
        khurals := s.khurals.insert s.nextKhuralId ⟨leader, ⟨[0], by decide⟩, t.nationId⟩
        khuralByLeader := s.khuralByLeader.insert leader s.nextKhuralId
        nextKhuralId := saturatingAdd u32Max s.nextKhuralId 1 } := by
  simp only [formKhural, ensureSigned_bind_eq_ok, citizen_bind_eq_ok, ensure_bind_eq_ok,
    required_bind_eq_ok]
  refine ⟨leader, rfl, r, hget, hactive, hrole, List.cons_ne_nil 0 [], t, htumed, ?_⟩
  refine bind_eq_ok.mpr ⟨[0], ?_, ?_⟩
  · simp [gather, required, htumed, ensure, hbranch, bind, Except.bind]
  · simp only [ensure_bind_eq_ok, required_bind_eq_ok, pure_eq_ok]
    exact ⟨hterms, ⟨[0], by decide⟩, BoundedVec.tryFrom_eq_some.mpr rfl, rfl⟩

/-- The Khural is formed, and as many citizens and documents are left. -/
theorem step_newKhural (h : Seated n w) (hn : n + 2 < 256 ^ 32) :
    ∃ w', step citizens (signed (10 + n) (.formKhural [0])) (withNextDelegate n w) = .ok w' ∧
      Seated (n + 1) w' := by
  obtain ⟨t, htumed, hbranch⟩ := h.tumed
  have hform := formKhural_of_legislative w.now (s := (withNextDelegate n w).toState)
    (r := nextDelegate n w) StorageMap.get_insert_self rfl rfl Nat.two_pos htumed hbranch
  have hunused : ∀ {used : StorageMap Bytes32 Bool},
      (∀ m, n + 2 ≤ m → m < 256 ^ 32 → used.getD (.ofNat m) false = false) →
        ∀ m, n + 1 + 2 ≤ m → m < 256 ^ 32 →
          (used.insert (.ofNat (n + 2)) true).getD (.ofNat m) false = false := by
    intro used hused m hm hlt
    rw [StorageMap.getD_insert, if_neg]
    · exact hused m (by omega) hlt
    · intro he
      have hmn := Bytes32.ofNat_injective hlt hn he
      omega
  refine ⟨_, step_call (c := .formKhural [0]) hform, ⟨t, htumed, hbranch⟩, ?_, ?_, ?_,
    hunused h.documents, hunused h.emails⟩
  · show saturatingAdd u32Max w.nextKhuralId 1 = min (n + 1) u32Max
    rw [h.nextKhural, saturatingAdd_min]
  · intro m hm
    obtain rfl : n = m := Nat.succ.inj hm
    refine ⟨⟨10 + n, ⟨[0], by decide⟩, t.nationId⟩, ?_⟩
    rw [← h.nextKhural]
    exact StorageMap.get_insert_self
  · intro m hm
    have hne : 10 + m ≠ 10 + n := by omega
    exact ((StorageMap.get_insert_of_ne hne).trans (StorageMap.get_insert_of_ne hne)).trans
      (h.unregistered m (by omega))

/-- Many Khurals are formed. -/
theorem manyKhurals_seated (n : ℕ) (hn : n + 1 < 256 ^ 32) :
    Seated n (run (step citizens) (manyKhurals n) noCitizens) := by
  induction n with
  | zero => exact seated_zero
  | succ n ih =>
    have hseated := ih (by omega)
    obtain ⟨w', hform, hseated'⟩ := step_newKhural hseated hn
    rw [manyKhurals_succ, run_append, newKhural, run_cons, exec_ok (step_nextDelegate hseated hn),
      run_cons, exec_ok hform, run_nil]
    exact hseated'

/-- With all numbers taken, the next Khural takes that of the last. -/
theorem manyKhurals_overwritten (hn : u32Max < n) (hroom : n + 2 < 256 ^ 32) :
    ¬ Along (step citizens) (fun w x => FreeSeat w.civics x.deed) (manyKhurals (n + 1))
      noCitizens := by
  intro hfree
  have hseated := manyKhurals_seated n (by omega)
  obtain ⟨w', hform, -⟩ := step_newKhural hseated hroom
  rw [manyKhurals_succ, along_append, newKhural] at hfree
  obtain ⟨-, -, hslot, -⟩ := hfree
  rw [exec_ok (step_nextDelegate hseated hroom)] at hslot
  have hnone := hslot w' hform
  obtain ⟨m, rfl⟩ : ∃ m, n = m + 1 := Nat.exists_eq_succ_of_ne_zero (by omega)
  obtain ⟨k, hk⟩ := hseated.last m rfl
  have hnext := hseated.nextKhural
  rw [Nat.min_eq_right (by omega)] at hk hnext
  rw [← hnext] at hk
  exact Option.some_ne_none k (hk.symm.trans hnone)

/-- `2 ^ 32 + 1` Khurals are formed, each by another citizen: the last one takes the place of the
one before, whose leader has served a term and leads none. -/
theorem khural_overwritten :
    ¬ Throughout (step citizens) (fun w => TermsCounted w.civics) (manyKhurals (2 ^ 32 + 1))
      noCitizens := by
  intro h
  apply manyKhurals_overwritten (n := 2 ^ 32) (by decide) (by decide)
  refine (throughout_termsCounted_iff ?_ ?_).mp h
  · exact ledByCitizens_genesis
  · exact termsCounted_genesis

end Overwritten

end Identity
