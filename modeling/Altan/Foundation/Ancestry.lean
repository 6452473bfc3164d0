import Mathlib.Logic.Function.Basic
import Mathlib.Logic.Relation
import Mathlib.Order.WellFounded

/-!
# Ancestry

Things are roots, or have one parent, which comes before them. Two indices say which are roots and
which are children of which. Following the parents of anything ends at a root, and from the roots
of the index everything is reached, by one path.

Where nothing else orders them, things are entered one after the other, each after its parent, and
nothing refers to what has not been entered. Then again following the parents comes to an end.

## Main definitions

* `Path roots child path c`: the path leads from a root to `c`, written upwards
* `Grounded parent`: following the parents of anything comes to an end
* `Descends parent c a`: following the parents of `c` comes to `a`

## Main results

* `existsUnique_path`: one path leads to everything that is there
* `Grounded.enter`: one more thing
* `Grounded.exists_origin`: everything descends from what has no parent
-/

namespace Ancestry

variable {ι : Type} {roots : ι → Prop} {child : ι → ι → Prop} {path : List ι} {c p : ι}

/-- The path leads from a root to `c` by children of children. It is written upwards, `c` first. -/
inductive Path (roots : ι → Prop) (child : ι → ι → Prop) : List ι → ι → Prop
  | root {r : ι} (h : roots r) : Path roots child [r] r
  | step {path : List ι} {p c : ι} (h : Path roots child path p) (hchild : child p c) :
    Path roots child (c :: path) c

/-- A path ends in a root. -/
theorem Path.exists_root (h : Path roots child path c) : ∃ r, path.getLast? = some r ∧ roots r := by
  induction h with
  | root h => exact ⟨_, rfl, h⟩
  | step h hchild ih =>
    obtain ⟨r, hlast, hr⟩ := ih
    refine ⟨r, ?_, hr⟩
    rw [List.getLast?_cons, hlast]
    rfl

variable [Preorder ι] [WellFoundedLT ι]

/-- **One path leads to everything that is there**, when what is there has a parent that is there
and comes before it, or else is a root. -/
theorem existsUnique_path (present : ι → Prop) (parent : ι → Option ι)
    (hroots : ∀ c, present c → (roots c ↔ parent c = none))
    (hchild : ∀ c, present c → ∀ p, child p c ↔ parent c = some p)
    (hparent : ∀ c p, present c → parent c = some p → present p ∧ p < c) (c : ι)
    (hc : present c) : ∃! path, Path roots child path c := by
  induction c using WellFoundedLT.induction with
  | ind c ih =>
    cases hp : parent c with
    | none =>
      refine ⟨[c], .root ((hroots c hc).mpr hp), fun path hpath => ?_⟩
      cases hpath with
      | root _ => rfl
      | step _ hstep =>
        rw [(hchild c hc _).mp hstep] at hp
        cases hp
    | some p =>
      obtain ⟨hpresent, hlt⟩ := hparent c p hc hp
      obtain ⟨path, hpath, hunique⟩ := ih p hlt hpresent
      refine ⟨c :: path, hpath.step ((hchild c hc p).mpr hp), fun path' hpath' => ?_⟩
      cases hpath' with
      | root hroot =>
        rw [(hroots c hc).mp hroot] at hp
        cases hp
      | step hrest hstep =>
        -- the last step is from the parent, and the rest is the path to it
        obtain rfl := Option.some.inj (((hchild c hc _).mp hstep).symm.trans hp)
        rw [hunique _ hrest]

/-! ### Things entered one after the other -/

section Grounded

variable {α : Type} {parent : α → Option α} {a b c : α} {o : Option α}

/-- Following the parents of anything comes to an end. -/
def Grounded (parent : α → Option α) : Prop := WellFounded fun p c => parent c = some p

/-- Following the parents of `c` comes to `a`. -/
def Descends (parent : α → Option α) : α → α → Prop :=
  Relation.ReflTransGen fun c p => parent c = some p

theorem grounded_of_none (h : ∀ c, parent c = none) : Grounded parent :=
  ⟨fun c => ⟨c, fun p hp => by rw [h c] at hp; cases hp⟩⟩

/-- **One more thing**, that nothing refers to and that does not refer to itself. -/
theorem Grounded.enter [DecidableEq α] (h : Grounded parent) (hnew : ∀ d, parent d ≠ some c)
    (hself : o ≠ some c) : Grounded (Function.update parent c o) := by
  -- what was there before has the same ancestors as before
  have hold : ∀ d, d ≠ c → Acc (fun p d => Function.update parent c o d = some p) d := by
    intro d
    induction d using h.induction with
    | h d ih =>
      intro hd
      constructor
      intro p hp
      rw [Function.update_of_ne hd] at hp
      exact ih p hp fun he => hnew d (he ▸ hp)
  constructor
  intro d
  by_cases hd : d = c
  · rw [hd]
    constructor
    intro p hp
    rw [Function.update_self] at hp
    exact hold p fun he => hself (he ▸ hp)
  · exact hold d hd

/-- **Everything descends from what has no parent.** -/
theorem Grounded.exists_origin (h : Grounded parent) (c : α) :
    ∃ r, parent r = none ∧ Descends parent c r := by
  induction c using h.induction with
  | h c ih =>
    cases hp : parent c with
    | none => exact ⟨c, hp, .refl⟩
    | some p =>
      obtain ⟨r, hr, hdesc⟩ := ih p hp
      exact ⟨r, hr, .head hp hdesc⟩

/-- What a parent and a child have in common, everything has in common with those it descends
from. -/
theorem Descends.common {O : Type} {obs : α → O} (hobs : ∀ c p, parent c = some p → obs c = obs p)
    (h : Descends parent c a) : obs c = obs a := by
  induction h with
  | refl => rfl
  | tail _ hstep ih => exact ih.trans (hobs _ _ hstep)

end Grounded

end Ancestry
