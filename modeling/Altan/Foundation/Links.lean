import Altan.Foundation.StorageMap

/-!
# Records that refer to records

The records of one map refer to records of another, each to one that no other record refers to. A
record that is referred to agrees with the record that refers to it; one that is not is idle. The
operations on the two maps that keep this are those that open an idle record, that refer to an idle
record from a new one, and that change two records together.

Two maps that are each other's inverse refer to nothing but each other's keys.

## Main definitions

* `Linked ref agree idle as bs`: the records of `bs` refer to those of `as`
* `Inverse m m'`: the two maps are each other's inverse

## Main results

* `Linked.insert_idle`, `Linked.update`, `Linked.link`, `Linked.update_pair`, `Linked.update_ref`:
  the operations
* `Linked.idle_iff`, `Linked.status_iff`: what a record says about the one that refers to it
* `Inverse.insert`, `Inverse.remove`: a new pair, and a pair removed
-/

variable {κ ι A B : Type} [DecidableEq κ] [DecidableEq ι]

/-- The records of `bs` refer to records of `as`, each to another one, with which it agrees; a
record that none refers to is idle. -/
structure Linked (ref : B → κ) (agree : A → B → Prop) (idle : A → Prop) (as : StorageMap κ A)
    (bs : StorageMap ι B) : Prop where
  unique : ∀ i j b b', bs.get i = some b → bs.get j = some b' → ref b = ref b' → i = j
  agrees : ∀ i b, bs.get i = some b → ∃ a, as.get (ref b) = some a ∧ agree a b
  idle : ∀ k a, as.get k = some a → (∀ i b, bs.get i = some b → ref b ≠ k) → idle a

namespace Linked

variable {ref : B → κ} {agree : A → B → Prop} {idle : A → Prop} {as : StorageMap κ A}
  {bs : StorageMap ι B} {a a' : A} {b b' : B} {k : κ} {i : ι}

theorem empty : Linked ref agree idle (∅ : StorageMap κ A) (∅ : StorageMap ι B) where
  unique i j b b' hi := by simp at hi
  agrees i b hi := by simp at hi
  idle k a hk := by simp at hk

/-- The record a record refers to, which agrees with it. -/
theorem agrees_of_get (h : Linked ref agree idle as bs) (hi : bs.get i = some b)
    (ha : as.get (ref b) = some a) : agree a b := by
  obtain ⟨a', ha', hagree⟩ := h.agrees i b hi
  rwa [Option.some.inj (ha.symm.trans ha')]

/-- A new record is idle. -/
theorem insert_idle (h : Linked ref agree idle as bs) (hk : as.get k = none) (ha : idle a) :
    Linked ref agree idle (as.insert k a) bs where
  unique := h.unique
  agrees i b hi := by
    -- the record it refers to was there before
    obtain ⟨a', ha', hagree⟩ := h.agrees i b hi
    refine ⟨a', ?_, hagree⟩
    rwa [StorageMap.get_insert_of_ne]
    rintro he
    rw [he, hk] at ha'
    cases ha'
  idle k' a' hk' hno := by
    rcases StorageMap.get_insert_cases hk' with ⟨-, rfl⟩ | ⟨-, hk'⟩
    · assumption
    · exact h.idle k' a' hk' hno

/-- A record changes to one that agrees with the same records. -/
theorem update (h : Linked ref agree idle as bs) (hk : as.get k = some a)
    (hagree : ∀ b, agree a b → agree a' b) (hidle : idle a → idle a') :
    Linked ref agree idle (as.insert k a') bs where
  unique := h.unique
  agrees i b hi := by
    obtain ⟨a₁, ha₁, h₁⟩ := h.agrees i b hi
    by_cases he : ref b = k
    · rw [he, StorageMap.get_insert_self]
      rw [he, hk] at ha₁
      cases ha₁
      exact ⟨a', rfl, hagree b h₁⟩
    · rw [StorageMap.get_insert_of_ne he]
      exact ⟨a₁, ha₁, h₁⟩
  idle k' a₁ hk' hno := by
    rcases StorageMap.get_insert_cases hk' with ⟨rfl, rfl⟩ | ⟨-, hk'⟩
    · exact hidle (h.idle k' a hk hno)
    · exact h.idle k' a₁ hk' hno

/-- A new record refers to an idle one. -/
theorem link (h : Linked ref agree idle as bs) (hne : ∀ a b, agree a b → ¬ idle a)
    (hk : as.get (ref b) = some a) (ha : idle a) (hi : bs.get i = none) (hagree : agree a' b) :
    Linked ref agree idle (as.insert (ref b) a') (bs.insert i b) := by
  -- no record refers to the idle one
  have hfree : ∀ j b', bs.get j = some b' → ref b' ≠ ref b := by
    intro j b' hj he
    exact hne a b' (h.agrees_of_get hj (he ▸ hk)) ha
  refine ⟨?_, ?_, ?_⟩
  · intro j j' b₁ b₂ hj hj' he
    rcases StorageMap.get_insert_cases hj with ⟨rfl, rfl⟩ | ⟨-, hj⟩
    · rcases StorageMap.get_insert_cases hj' with ⟨rfl, -⟩ | ⟨-, hj'⟩
      · rfl
      · exact absurd he.symm (hfree j' b₂ hj')
    · rcases StorageMap.get_insert_cases hj' with ⟨-, rfl⟩ | ⟨-, hj'⟩
      · exact absurd he (hfree j b₁ hj)
      · exact h.unique j j' b₁ b₂ hj hj' he
  · intro j b₁ hj
    rcases StorageMap.get_insert_cases hj with ⟨-, rfl⟩ | ⟨-, hj⟩
    · exact ⟨a', StorageMap.get_insert_self, hagree⟩
    · rw [StorageMap.get_insert_of_ne (hfree j b₁ hj)]
      exact h.agrees j b₁ hj
  · intro k' a₁ hk' hno
    have hk'' : k' ≠ ref b := fun he => hno i b StorageMap.get_insert_self he.symm
    rw [StorageMap.get_insert_of_ne hk''] at hk'
    refine h.idle k' a₁ hk' fun j b₁ hj => hno j b₁ ?_
    rw [StorageMap.get_insert_of_ne]
    · exact hj
    · rintro rfl
      rw [hi] at hj
      cases hj

/-- A record and the one it refers to change together. -/
theorem update_pair (h : Linked ref agree idle as bs) (hi : bs.get i = some b)
    (href : ref b' = ref b) (hagree : agree a' b') :
    Linked ref agree idle (as.insert (ref b) a') (bs.insert i b') where
  unique j j' b₁ b₂ hj hj' he := by
    rcases StorageMap.get_insert_cases hj with ⟨rfl, rfl⟩ | ⟨-, hold⟩
    · rcases StorageMap.get_insert_cases hj' with ⟨rfl, -⟩ | ⟨-, hj'⟩
      · rfl
      · exact h.unique j j' b b₂ hi hj' (href.symm.trans he)
    · rcases StorageMap.get_insert_cases hj' with ⟨rfl, rfl⟩ | ⟨-, hj'⟩
      · exact h.unique j j' b₁ b hold hi (he.trans href)
      · exact h.unique j j' b₁ b₂ hold hj' he
  agrees j b₁ hj := by
    rcases StorageMap.get_insert_cases hj with ⟨-, rfl⟩ | ⟨hji, hj⟩
    · rw [href]
      exact ⟨a', StorageMap.get_insert_self, hagree⟩
    · rw [StorageMap.get_insert_of_ne fun he => hji (h.unique j i b₁ b hj hi he)]
      exact h.agrees j b₁ hj
  idle k' a₁ hk' hno := by
    have hk'' : k' ≠ ref b := fun he =>
      hno i b' StorageMap.get_insert_self (href.trans he.symm)
    rw [StorageMap.get_insert_of_ne hk''] at hk'
    refine h.idle k' a₁ hk' fun j b₁ hj => ?_
    by_cases he : j = i
    · intro hr
      rw [he, hi] at hj
      cases hj
      exact hk'' hr.symm
    · exact hno j b₁ ((StorageMap.get_insert_of_ne he).trans hj)

/-- A record changes to one that agrees with the record it refers to. -/
theorem update_ref (h : Linked ref agree idle as bs) (hi : bs.get i = some b)
    (href : ref b' = ref b) (hagree : ∀ a, agree a b → agree a b') :
    Linked ref agree idle as (bs.insert i b') := by
  obtain ⟨a, ha, hab⟩ := h.agrees i b hi
  have hpair := h.update_pair hi href (hagree a hab)
  rwa [StorageMap.insert_of_get ha] at hpair

section Reading

variable (h : Linked ref agree idle as bs) (hk : as.get k = some a)

include h hk

/-- A record is idle just when none refers to it. -/
theorem idle_iff (hne : ∀ a b, agree a b → ¬ idle a) :
    idle a ↔ ∀ i b, bs.get i = some b → ref b ≠ k := by
  constructor
  · rintro ha i b hi rfl
    exact hne a b (h.agrees_of_get hi hk) ha
  · exact h.idle k a hk

/-- What a record says of the one that refers to it. -/
theorem status_iff {p : A → Prop} {q : B → Prop} (hidle : ∀ a, idle a → ¬ p a)
    (hagree : ∀ a b, agree a b → (p a ↔ q b)) :
    p a ↔ ∃ i b, bs.get i = some b ∧ ref b = k ∧ q b := by
  constructor
  · intro hp
    by_contra hno
    refine hidle a (h.idle k a hk fun i b hi he => ?_) hp
    subst he
    exact hno ⟨i, b, hi, rfl, (hagree a b (h.agrees_of_get hi hk)).mp hp⟩
  · rintro ⟨i, b, hi, rfl, hq⟩
    exact (hagree a b (h.agrees_of_get hi hk)).mpr hq

end Reading

end Linked

/-! ### Maps that are each other's inverse -/

/-- Either map has an entry just where the other has the converse one. -/
def Inverse (m : StorageMap κ ι) (m' : StorageMap ι κ) : Prop :=
  ∀ k i, m.get k = some i ↔ m'.get i = some k

namespace Inverse

variable {m : StorageMap κ ι} {m' : StorageMap ι κ} {k : κ} {i : ι}

protected theorem empty : Inverse (∅ : StorageMap κ ι) ∅ := fun k i => by simp

/-- A key and a value without entries come to have each other. -/
theorem insert (h : Inverse m m') (hk : m.get k = none) (hi : m'.get i = none) :
    Inverse (m.insert k i) (m'.insert i k) := by
  intro j l
  rw [StorageMap.get_insert, StorageMap.get_insert]
  by_cases hj : j = k <;> by_cases hl : l = i
  · simp [hj, hl]
  · -- the new key has no other value, and no other value has it
    rw [if_pos hj, if_neg hl, Option.some.injEq, ← h, hj, hk]
    exact iff_of_false (fun he => hl he.symm) nofun
  · rw [if_neg hj, if_pos hl, Option.some.injEq, h, hl, hi]
    exact iff_of_false nofun fun he => hj he.symm
  · rw [if_neg hj, if_neg hl]
    exact h j l

/-- A key and its value lose their entries. -/
theorem remove (h : Inverse m m') (hk : m.get k = some i) :
    Inverse (m.remove k) (m'.remove i) := by
  intro j l
  rw [StorageMap.get_remove, StorageMap.get_remove]
  by_cases hj : j = k <;> by_cases hl : l = i
  · simp [hj, hl]
  · rw [if_pos hj, if_neg hl, ← h, hj, hk, Option.some.injEq]
    exact iff_of_false nofun fun he => hl he.symm
  · rw [if_neg hj, if_pos hl, h, hl, (h k i).mp hk, Option.some.injEq]
    exact iff_of_false (fun he => hj he.symm) nofun
  · rw [if_neg hj, if_neg hl]
    exact h j l

end Inverse
