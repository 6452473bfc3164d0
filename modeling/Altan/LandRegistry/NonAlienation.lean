import Altan.Foundation.Accounting
import Altan.Identity.Citizenship
import Altan.LandRegistry.Model

/-!
# Land is not alienated

The two ways to look a parcel up agree, whatever happens to the registry and to the citizens: a
parcel is found under one owner, who is recorded and not a foreigner. At the acquisition the module
checks it; afterwards it stays so, because no input strikes a citizen off or makes one a foreigner.
A number that has been given to a piece of land is never given to another.

## Main definitions

* `Inalienable`: the indices agree, and every owner is a citizen
* `SameLand`: what no call changes of a parcel
* `NonAlienation`: the law, over a run

## Main results

* `step_kept`: every input keeps the registry inalienable
* `non_alienation`: the law holds in every run
-/

open Bounded Dispatch TransitionSystem

namespace LandRegistry

variable {AccountId L : Type} [DecidableEq AccountId] {origin : Origin AccountId} {now id : ℕ}
  {citizens citizens' : Citizens AccountId} {s s' : State AccountId} {a owner buyer : AccountId}

/-! ### What the calls do -/

/-- The account is recorded and not a foreigner. -/
def Landworthy (citizens : Citizens AccountId) (a : AccountId) : Prop :=
  ∃ r, citizens.get a = some r ∧ r.IsCitizen

/-- A parcel is registered under the next number. -/
structure Registered (citizens : Citizens AccountId) (parcel : LandParcel AccountId)
    (s s' : State AccountId) : Prop where
  owner : Landworthy citizens parcel.owner
  parcels : s'.landParcels = s.landParcels.insert s.nextParcelId parcel
  byOwner : s'.parcelsByOwner = s.parcelsByOwner.insert (parcel.owner, s.nextParcelId) ()
  next : s'.nextParcelId = s.nextParcelId + 1

theorem registerParcel_registered {region areaSqm : ℕ} {coordinateHash : Bytes32}
    {resourceRights : ResourceRights} {description : BoundedVec UInt8 maxParcelDescriptionLen}
    (h : registerParcel origin now citizens owner region coordinateHash areaSqm resourceRights
      description s = .ok s') : ∃ parcel, Registered citizens parcel s s' := by
  simp only [registerParcel, ensureRoot_bind_eq_ok, required_bind_eq_ok, ensure_bind_eq_ok,
    checkedAdd_eq_some, pure_eq_ok] at h
  obtain ⟨-, citizen, hget, hcitizen, _, ⟨-, rfl⟩, rfl⟩ := h
  exact ⟨_, ⟨citizen, hget, hcitizen⟩, rfl, rfl, rfl⟩

theorem transferLand_eq_ok : transferLand origin citizens id buyer s = .ok s' ↔
    ∃ seller, origin = .signed seller ∧ seller ≠ buyer ∧ ∃ parcel,
      s.landParcels.get id = some parcel ∧ parcel.owner = seller ∧ ∃ r,
        citizens.get buyer = some r ∧ r.citizenshipStatus ≠ .foreigner ∧ r.status = .active ∧
          s' = { s with
            parcelsByOwner := (s.parcelsByOwner.remove (seller, id)).insert (buyer, id) ()
            landParcels := s.landParcels.insert id { parcel with owner := buyer } } := by
  simp only [transferLand, ensureSigned_bind_eq_ok, ensure_bind_eq_ok, required_bind_eq_ok,
    pure_eq_ok, eq_comm (a := s')]

omit [DecidableEq AccountId] in
theorem updateResourceRights_eq_ok {newRights : ResourceRights} :
    updateResourceRights origin id newRights s = .ok s' ↔ origin = .root ∧ ∃ parcel,
      s.landParcels.get id = some parcel ∧ s' = { s with
        landParcels := s.landParcels.insert id { parcel with resourceRights := newRights } } := by
  simp only [updateResourceRights, ensureRoot_bind_eq_ok, required_bind_eq_ok, pure_eq_ok,
    eq_comm (a := s')]

/-! ### The registry -/

/-- A parcel is found under its owner and under nobody else, its owner is a citizen, and the numbers
given so far are those of the parcels. -/
structure Inalienable (citizens : Citizens AccountId) (s : State AccountId) : Prop where
  indexed : ∀ a id, s.parcelsByOwner.containsKey (a, id) = true ↔
    ∃ parcel, s.landParcels.get id = some parcel ∧ parcel.owner = a
  owners : ∀ id parcel, s.landParcels.get id = some parcel → Landworthy citizens parcel.owner
  numbered : s.landParcels.keys = Finset.range s.nextParcelId

/-- Every parcel has one owner. -/
theorem Inalienable.exists_unique (h : Inalienable citizens s) {parcel : LandParcel AccountId}
    (hget : s.landParcels.get id = some parcel) :
    ∃! a, s.parcelsByOwner.containsKey (a, id) = true := by
  refine ⟨parcel.owner, (h.indexed _ _).mpr ⟨parcel, hget, rfl⟩, fun a ha => ?_⟩
  obtain ⟨parcel', hget', rfl⟩ := (h.indexed a id).mp ha
  rw [Option.some.inj (hget.symm.trans hget')]

/-- The next number is free. -/
theorem Inalienable.next_free (h : Inalienable citizens s) :
    s.landParcels.get s.nextParcelId = none := by
  rw [← StorageMap.notMem_keys, h.numbered]
  exact Finset.notMem_range_self

/-- The registry stays inalienable as long as its owners stay citizens. -/
theorem Inalienable.retained (h : Inalienable citizens s)
    (hretained : ∀ a, Landworthy citizens a → Landworthy citizens' a) :
    Inalienable citizens' s :=
  ⟨h.indexed, fun id parcel hget => hretained _ (h.owners id parcel hget), h.numbered⟩

theorem containsKey_insert {m : StorageMap (AccountId × ℕ) Unit} {k k' : AccountId × ℕ} :
    (m.insert k ()).containsKey k' = true ↔ k' = k ∨ m.containsKey k' = true := by
  unfold StorageMap.containsKey
  rw [StorageMap.get_insert]
  split
  · next h => simp [h]
  · next h => simp [h]

/-- A new parcel is found under its owner. -/
theorem Inalienable.register (h : Inalienable citizens s) {parcel : LandParcel AccountId}
    (hs : Registered citizens parcel s s') : Inalienable citizens s' := by
  have hfree := h.next_free
  refine ⟨fun a id => ?_, fun id p hp => ?_, ?_⟩
  · rw [hs.byOwner, containsKey_insert, h.indexed, hs.parcels]
    constructor
    · rintro (hk | ⟨p, hp, rfl⟩)
      · obtain ⟨rfl, rfl⟩ := Prod.mk.inj hk
        exact ⟨parcel, StorageMap.get_insert_self, rfl⟩
      · refine ⟨p, ?_, rfl⟩
        rw [StorageMap.get_insert_of_ne, hp]
        rintro rfl
        rw [hfree] at hp
        cases hp
    · rintro ⟨p, hp, rfl⟩
      rcases StorageMap.get_insert_cases hp with ⟨rfl, rfl⟩ | ⟨-, hold⟩
      · exact Or.inl rfl
      · exact Or.inr ⟨p, hold, rfl⟩
  · rw [hs.parcels] at hp
    rcases StorageMap.get_insert_cases hp with ⟨-, rfl⟩ | ⟨-, hold⟩
    · exact hs.owner
    · exact h.owners id p hold
  · rw [hs.parcels, hs.next, StorageMap.keys_insert, h.numbered, Finset.range_add_one]

/-- A parcel that changes hands is found under the buyer, and under the seller no more. -/
theorem Inalienable.transfer (h : Inalienable citizens s) {parcel : LandParcel AccountId}
    (hget : s.landParcels.get id = some parcel) (hne : parcel.owner ≠ buyer)
    (hbuyer : Landworthy citizens buyer) :
    Inalienable citizens { s with
      parcelsByOwner := (s.parcelsByOwner.remove (parcel.owner, id)).insert (buyer, id) ()
      landParcels := s.landParcels.insert id { parcel with owner := buyer } } := by
  have hremove : ∀ k : AccountId × ℕ,
      (s.parcelsByOwner.remove (parcel.owner, id)).containsKey k = true ↔
        k ≠ (parcel.owner, id) ∧ s.parcelsByOwner.containsKey k = true := by
    intro k
    unfold StorageMap.containsKey
    rw [StorageMap.get_remove]
    split
    · next hk => simp [hk]
    · next hk => simp [hk]
  refine ⟨fun a j => ?_, fun j p hp => ?_, ?_⟩
  · rw [containsKey_insert, hremove, h.indexed]
    constructor
    · rintro (hk | ⟨hk, p, hp, rfl⟩)
      · obtain ⟨rfl, rfl⟩ := Prod.mk.inj hk
        exact ⟨_, StorageMap.get_insert_self, rfl⟩
      · refine ⟨p, ?_, rfl⟩
        rw [StorageMap.get_insert_of_ne, hp]
        -- the parcel itself was found under the seller only
        rintro rfl
        exact hk (by rw [Option.some.inj (hp.symm.trans hget)])
    · rintro ⟨p, hp, rfl⟩
      rcases StorageMap.get_insert_cases hp with ⟨rfl, rfl⟩ | ⟨hj, hold⟩
      · exact Or.inl rfl
      · exact Or.inr ⟨fun hk => hj (Prod.mk.inj hk).2, p, hold, rfl⟩
  · rcases StorageMap.get_insert_cases hp with ⟨-, rfl⟩ | ⟨-, hold⟩
    · exact hbuyer
    · exact h.owners j p hold
  · rw [StorageMap.keys_insert_of_get hget]
    exact h.numbered

/-- What an owner may do with a parcel does not matter to its place in the registry. -/
theorem Inalienable.update (h : Inalienable citizens s) {parcel parcel' : LandParcel AccountId}
    (hget : s.landParcels.get id = some parcel) (howner : parcel'.owner = parcel.owner) :
    Inalienable citizens { s with landParcels := s.landParcels.insert id parcel' } := by
  have hparcels : ∀ j, ((s.landParcels.insert id parcel').get j).map LandParcel.owner =
      (s.landParcels.get j).map LandParcel.owner := fun j =>
    StorageMap.map_get_insert hget howner
  refine ⟨fun a j => ?_, fun j p hp => ?_, ?_⟩
  · have hj := hparcels j
    rw [h.indexed]
    simp only [← Option.map_eq_some_iff]
    rw [hj]
  · rcases StorageMap.get_insert_cases hp with ⟨-, rfl⟩ | ⟨-, hold⟩
    · rw [howner]
      exact h.owners id parcel hget
    · exact h.owners j p hold
  · rw [StorageMap.keys_insert_of_get hget]
    exact h.numbered

/-! ### The land -/

/-- What no call changes of a parcel: all but who owns it and what the owner may do. -/
structure SameLand (p p' : LandParcel AccountId) : Prop where
  region : p'.region = p.region
  coordinateHash : p'.coordinateHash = p.coordinateHash
  areaSqm : p'.areaSqm = p.areaSqm
  registeredAt : p'.registeredAt = p.registeredAt
  description : p'.description = p.description

omit [DecidableEq AccountId] in
theorem SameLand.refl (p : LandParcel AccountId) : SameLand p p := ⟨rfl, rfl, rfl, rfl, rfl⟩

omit [DecidableEq AccountId] in
theorem SameLand.trans {p p' p'' : LandParcel AccountId} (h : SameLand p p')
    (h' : SameLand p' p'') : SameLand p p'' :=
  ⟨h'.region.trans h.region, h'.coordinateHash.trans h.coordinateHash, h'.areaSqm.trans h.areaSqm,
    h'.registeredAt.trans h.registeredAt, h'.description.trans h.description⟩

/-- A number that stands for a piece of land goes on standing for it. -/
def Kept (s s' : State AccountId) : Prop :=
  ∀ id p, s.landParcels.get id = some p → ∃ p', s'.landParcels.get id = some p' ∧ SameLand p p'

omit [DecidableEq AccountId] in
theorem Kept.refl (s : State AccountId) : Kept s s := fun _ p hp => ⟨p, hp, SameLand.refl p⟩

omit [DecidableEq AccountId] in
theorem Kept.trans {s₁ s₂ s₃ : State AccountId} (h : Kept s₁ s₂) (h' : Kept s₂ s₃) :
    Kept s₁ s₃ := by
  intro id p hp
  obtain ⟨p₂, hp₂, hfirst⟩ := h id p hp
  obtain ⟨p₃, hp₃, hsecond⟩ := h' id p₂ hp₂
  exact ⟨p₃, hp₃, hfirst.trans hsecond⟩

omit [DecidableEq AccountId] in
theorem Kept.insert {parcel parcel' : LandParcel AccountId}
    (hget : s.landParcels.get id = some parcel)
    (hs : s'.landParcels = s.landParcels.insert id parcel') (hsame : SameLand parcel parcel') :
    Kept s s' := by
  intro j p hp
  rw [hs, StorageMap.get_insert]
  split
  · next hj =>
    rw [hj, hget] at hp
    exact ⟨parcel', rfl, Option.some.inj hp ▸ hsame⟩
  · exact ⟨p, hp, SameLand.refl p⟩

theorem Registered.kept {parcel : LandParcel AccountId} (hs : Registered citizens parcel s s')
    (hfree : s.landParcels.get s.nextParcelId = none) : Kept s s' := by
  intro j p hp
  have hne : j ≠ s.nextParcelId := by
    rintro rfl
    rw [hfree] at hp
    cases hp
  rw [hs.parcels, StorageMap.get_insert_of_ne hne]
  exact ⟨p, hp, SameLand.refl p⟩

/-- A call that registers a parcel. -/
def Call.Registers : Call AccountId → Prop
  | .registerParcel .. => True
  | .transferLand .. | .updateResourceRights .. => False

instance : DecidablePred (Call.Registers : Call AccountId → Prop)
  | .registerParcel .. => isTrue trivial
  | .transferLand .. | .updateResourceRights .. => isFalse not_false

/-- **What a call does to the registry**: it stays inalienable, every number stands for the same
land, and one number more is given when a parcel is registered. -/
theorem dispatch_kept {call : Call AccountId} (h : Inalienable citizens s)
    (hs : dispatch origin now citizens call s = .ok s') :
    Inalienable citizens s' ∧ Kept s s' ∧
      s'.nextParcelId = s.nextParcelId + if call.Registers then 1 else 0 := by
  cases call with
  | registerParcel owner region coordinateHash areaSqm resourceRights description =>
    obtain ⟨parcel, hregistered⟩ := registerParcel_registered hs
    exact ⟨h.register hregistered, hregistered.kept h.next_free, hregistered.next⟩
  | transferLand id buyer =>
    obtain ⟨_, -, hne, parcel, hget, rfl, r, hr, hcitizen, -, rfl⟩ := transferLand_eq_ok.mp hs
    exact ⟨h.transfer hget hne ⟨r, hr, hcitizen⟩,
      Kept.insert hget rfl ⟨rfl, rfl, rfl, rfl, rfl⟩, rfl⟩
  | updateResourceRights id newRights =>
    obtain ⟨-, parcel, hget, rfl⟩ := updateResourceRights_eq_ok.mp hs
    exact ⟨h.update hget rfl, Kept.insert hget rfl ⟨rfl, rfl, rfl, rfl, rfl⟩, rfl⟩

/-! ### Runs -/

/-- The registry with the citizens of the world is inalienable. -/
def World.Inalienable (w : World AccountId L) : Prop :=
  LandRegistry.Inalienable w.identity.citizens w.land

/-- The input registers a parcel. -/
def Registers : Input AccountId → Prop
  | .identity _ => False
  | .land _ call => call.Registers

instance : DecidablePred (Registers : Input AccountId → Prop)
  | .identity _ => isFalse not_false
  | .land _ call => inferInstanceAs (Decidable call.Registers)

/-- The registry of a chain that has no parcels yet. -/
def World.unsettled (identity : Identity.World AccountId L) : World AccountId L :=
  ⟨identity, genesis⟩

variable [Currency AccountId L] [ReservableCurrency AccountId L] {cfg : Identity.Config AccountId L}

/-- **What an input does to the registry.** -/
theorem step_kept {x : Input AccountId} {w w' : World AccountId L} (h : w.Inalienable)
    (hw : step cfg x w = .ok w') : w'.Inalienable ∧ Kept w.land w'.land ∧
      w'.land.nextParcelId = w.land.nextParcelId + if Registers x then 1 else 0 := by
  cases x with
  | identity x =>
    obtain ⟨i, hi, hw⟩ := mapError_bind_eq_ok.mp hw
    rw [← pure_eq_ok.mp hw]
    refine ⟨h.retained fun a ha => ?_, Kept.refl _, rfl⟩
    -- the citizens are retained, and so are the owners among them
    obtain ⟨r, hr, hcitizen⟩ := ha
    obtain ⟨r', hr', hretained⟩ := Identity.step_retained hi a r hr
    exact ⟨r', hr', hretained hcitizen⟩
  | land origin call =>
    obtain ⟨l, hl, hw⟩ := bind_eq_ok.mp hw
    rw [← pure_eq_ok.mp hw]
    exact dispatch_kept h hl

/-- The law over a run: in every state the indices agree and every owner is a citizen, and every
parcel has one owner; a number that stands for a piece of land goes on standing for it; and as many
numbers have been given as parcels registered. -/
structure NonAlienation (cfg : Identity.Config AccountId L) (xs : List (Input AccountId))
    (w : World AccountId L) : Prop where
  inalienable : Throughout (step cfg) World.Inalienable xs w
  oneOwner : Throughout (step cfg) (fun w => ∀ id, w.land.landParcels.containsKey id = true →
    ∃! a, w.land.parcelsByOwner.containsKey (a, id) = true) xs w
  kept : Ascending (step cfg) (fun w w' => Kept w.land w'.land) xs w
  numbers : (run (step cfg) xs w).land.nextParcelId = accepted (step cfg) Registers xs w

/-- **The law of non-alienation** holds in every run, from any citizens. -/
theorem non_alienation (cfg : Identity.Config AccountId L) (xs : List (Input AccountId))
    (identity : Identity.World AccountId L) : NonAlienation cfg xs (World.unsettled identity) := by
  have hstart : (World.unsettled identity).Inalienable := by
    refine ⟨fun a id => ?_, fun id parcel hget => ?_, rfl⟩
    · refine iff_of_false ?_ ?_
      · exact (Bool.not_eq_true _).mpr (StorageMap.not_containsKey.mpr (StorageMap.get_empty _))
      · rintro ⟨parcel, hget, -⟩
        rw [show (World.unsettled identity).land.landParcels.get id = none from
          StorageMap.get_empty id] at hget
        cases hget
    · rw [show (World.unsettled identity).land.landParcels.get id = none from
        StorageMap.get_empty id] at hget
      cases hget
  have hkept : Throughout (step cfg) World.Inalienable xs (World.unsettled identity) :=
    throughout_of_along (Q := fun _ _ => True) (fun _ _ _ h _ hw => (step_kept h hw).1) hstart
      (along_true xs _)
  refine ⟨hkept, hkept.imp fun w h id hid => ?_, ?_, ?_⟩
  · obtain ⟨parcel, hget⟩ := StorageMap.containsKey_iff.mp hid
    exact h.exists_unique hget
  · exact ascending_of_invariant (J := World.Inalienable) (Q := fun _ _ => True)
      (R := fun w w' : World AccountId L => Kept w.land w'.land) (fun w => Kept.refl w.land)
      (fun _ _ _ => Kept.trans)
      (fun _ _ _ h _ hw => (step_kept h hw).1) (fun _ _ _ h _ hw => (step_kept h hw).2.1) hstart
      (along_true xs _)
  · rw [accepted_eq_tally]
    refine (tally_credit (P := World.Inalienable) (Q := fun _ _ => True)
      (fun w : World AccountId L => w.land.nextParcelId) _
      (fun _ _ _ h _ hw => (step_kept h hw).1) (fun _ _ _ h _ hw => (step_kept h hw).2.2) hstart
      (along_true xs _)).trans ?_
    exact Nat.zero_add _

end LandRegistry
