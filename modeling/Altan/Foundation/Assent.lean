import Mathlib.Data.Finset.Card
import Mathlib.Data.Finset.Filter
import Mathlib.Tactic.Common

/-!
# Assent

Votes are cast one after the other by accounts that sit on a council, which may be replaced while a
vote is going on. When nobody votes twice, those in favour are of the council as it is now or have
left it, and more than half of the council are in favour just when those in favour are, without
whom has left it. A vote says who has cast it and on which side; what else it says is left open.

## Main definitions

* `yeas`, `nays`: who has voted in favour, and who against
* `assenting`, `departed`: those in favour who are of the council, and those who are not

## Main results

* `more_than_half_iff`: how many of those in favour may have left the council
-/

namespace Assent

variable {V A : Type} (voter : V → A) (inFavor : V → Bool)

/-- Who has voted in favour. -/
def yeas (votes : List V) : List A := (votes.filter inFavor).map voter

/-- Who has voted against. -/
def nays (votes : List V) : List A := (votes.filter fun v => !inFavor v).map voter

variable {voter inFavor} {votes : List V} {v : V}

theorem yeas_append : yeas voter inFavor (votes ++ [v]) =
    yeas voter inFavor votes ++ if inFavor v then [voter v] else [] := by
  unfold yeas
  rw [List.filter_append, List.map_append]
  cases hv : inFavor v <;> simp [hv]

theorem nays_append : nays voter inFavor (votes ++ [v]) =
    nays voter inFavor votes ++ if inFavor v then [] else [voter v] := by
  unfold nays
  rw [List.filter_append, List.map_append]
  cases hv : inFavor v <;> simp [hv]

/-- A vote is cast on one of the sides. -/
theorem length_yeas_add_nays :
    (yeas voter inFavor votes).length + (nays voter inFavor votes).length = votes.length := by
  unfold yeas nays
  rw [List.length_map, List.length_map]
  exact (List.length_eq_length_filter_add inFavor).symm

theorem nodup_yeas (h : (votes.map voter).Nodup) : (yeas voter inFavor votes).Nodup :=
  h.sublist (List.filter_sublist.map voter)

variable [DecidableEq A]

variable (voter inFavor) in
/-- Those of a council who have voted in favour, once. -/
def assenting (seats : Finset A) (votes : List V) : Finset A :=
  seats.filter fun a => (yeas voter inFavor votes).count a = 1

variable (voter inFavor) in
/-- Those who have voted in favour and are not of the council. -/
def departed (seats : Finset A) (votes : List V) : Finset A :=
  (yeas voter inFavor votes).toFinset \ seats

/-- Whoever votes from the council has not left it. -/
theorem departed_append {seats : Finset A} (h : voter v ∈ seats) :
    departed voter inFavor seats (votes ++ [v]) = departed voter inFavor seats votes := by
  ext a
  rw [departed, departed, Finset.mem_sdiff, Finset.mem_sdiff, yeas_append, List.mem_toFinset,
    List.mem_toFinset, List.mem_append]
  refine and_congr_left fun ha => or_iff_left ?_
  split
  · rintro hmem
    rw [List.mem_singleton.mp hmem] at ha
    exact ha h
  · exact List.not_mem_nil

/-- When nobody votes twice, those in favour are of the council or not. -/
theorem card_assenting_add_departed (seats : Finset A) (h : (votes.map voter).Nodup) :
    (assenting voter inFavor seats votes).card + (departed voter inFavor seats votes).card =
      (yeas voter inFavor votes).length := by
  have hnodup : (yeas voter inFavor votes).Nodup := nodup_yeas h
  have hassenting : assenting voter inFavor seats votes =
      (yeas voter inFavor votes).toFinset ∩ seats := by
    ext a
    rw [assenting, Finset.mem_filter, Finset.mem_inter, List.mem_toFinset, and_comm]
    refine and_congr_left fun _ => ⟨fun hcount => ?_, List.count_eq_one_of_mem hnodup⟩
    exact List.count_pos_iff.mp (hcount ▸ Nat.one_pos)
  rw [hassenting, departed, Finset.card_inter_add_card_sdiff, List.toFinset_card_of_nodup hnodup]

/-- **More than half of the council are in favour** just when those in favour are, without whom has
left it. -/
theorem more_than_half_iff (seats : Finset A) (h : (votes.map voter).Nodup) :
    seats.card < 2 * (assenting voter inFavor seats votes).card ↔
      seats.card + 2 * (departed voter inFavor seats votes).card <
        2 * (yeas voter inFavor votes).length := by
  rw [← card_assenting_add_departed seats h]
  omega

end Assent
