import Altan.Guilds.Federation

/-!
# The tally of a vote

The votes are counted in a list of candidates with their votes, one vote after the other, and the
first candidate in it with more than half is elected. Which candidate that is does not depend on
the order in which the votes are visited: no two candidates have more than half.

## Main definitions

* `votesFor`: the votes a list of candidates has for one
* `supporters`: who has voted for a candidate

## Main results

* `votesFor_tally`: the list has the votes of every candidate
* `tallyGrandmasterVotes_eq_some_iff`: who is elected
-/

open Bounded

namespace Guilds

variable {AccountId : Type} [DecidableEq AccountId]

section Counting

variable {t : List (AccountId × ℕ)} {c a : AccountId} {votes : List AccountId}

/-- The votes for `a` in a list of candidates. -/
def votesFor (t : List (AccountId × ℕ)) (a : AccountId) : ℕ :=
  (t.map fun e => if e.1 = a then e.2 else 0).sum

theorem votesFor_cons (e : AccountId × ℕ) :
    votesFor (e :: t) a = (if e.1 = a then e.2 else 0) + votesFor t a := rfl

/-- A vote is one more for its candidate, unless it is too many to count. -/
theorem votesFor_addVote (h : votesFor t c < u32Max) :
    votesFor (addVote t c) a = votesFor t a + if c = a then 1 else 0 := by
  induction t with
  | nil => simp [votesFor, addVote]
  | cons e t ih =>
    obtain ⟨b, n⟩ := e
    rw [votesFor_cons] at h
    unfold addVote
    by_cases hb : b = c
    · -- the candidate has votes already
      subst hb
      dsimp only at h
      rw [if_pos rfl] at h
      rw [if_pos rfl, votesFor_cons, votesFor_cons]
      dsimp only
      have hcount : saturatingAdd u32Max n 1 = n + 1 := by
        unfold saturatingAdd
        omega
      split
      · omega
      · omega
    · dsimp only at h
      rw [if_neg hb, Nat.zero_add] at h
      rw [if_neg hb, votesFor_cons, votesFor_cons, ih h, Nat.add_assoc]

/-- Candidates are listed once. -/
theorem keys_addVote :
    (addVote t c).map Prod.fst =
      if c ∈ t.map Prod.fst then t.map Prod.fst else t.map Prod.fst ++ [c] := by
  induction t with
  | nil => rfl
  | cons e t ih =>
    obtain ⟨b, n⟩ := e
    unfold addVote
    by_cases hb : b = c
    · rw [if_pos hb, if_pos (by simp [hb])]
      rfl
    · rw [if_neg hb, List.map_cons, List.map_cons, ih]
      by_cases hc : c ∈ t.map Prod.fst
      · rw [if_pos hc, if_pos (List.mem_cons_of_mem b hc)]
      · rw [if_neg hc, if_neg (List.not_mem_cons_of_ne_of_not_mem (Ne.symm hb) hc),
          List.cons_append]

theorem nodup_addVote (h : (t.map Prod.fst).Nodup) : ((addVote t c).map Prod.fst).Nodup := by
  rw [keys_addVote]
  split
  · exact h
  · next hc =>
    rw [← List.concat_eq_append]
    exact h.concat hc

/-- **The list has the votes of every candidate.** -/
theorem votesFor_tally (h : votes.length ≤ u32Max) :
    votesFor (votes.foldl addVote []) a = votes.count a := by
  -- on the votes counted so far: the last is counted last
  induction votes using List.reverseRecOn generalizing a with
  | nil => rfl
  | append_singleton votes c ih =>
    rw [List.length_append] at h
    have hcount : ∀ b, votesFor (votes.foldl addVote []) b = votes.count b := fun b =>
      ih (Nat.le_of_succ_le h)
    have hlt : votesFor (votes.foldl addVote []) c < u32Max := by
      rw [hcount]
      exact (List.count_le_length).trans_lt h
    rw [List.foldl_append, List.foldl_cons, List.foldl_nil, votesFor_addVote hlt, hcount,
      List.count_append, List.count_singleton]
    simp

theorem nodup_tally : ((votes.foldl addVote []).map Prod.fst).Nodup := by
  induction votes using List.reverseRecOn with
  | nil => exact List.nodup_nil
  | append_singleton votes c ih =>
    rw [List.foldl_append, List.foldl_cons, List.foldl_nil]
    exact nodup_addVote ih

/-- A candidate listed with votes has these votes. -/
theorem votesFor_of_mem (hnodup : (t.map Prod.fst).Nodup) {n : ℕ} (h : (a, n) ∈ t) :
    votesFor t a = n := by
  induction t with
  | nil => cases h
  | cons e t ih =>
    obtain ⟨hnew, hnodup⟩ := List.nodup_cons.mp hnodup
    rw [votesFor_cons]
    rcases List.mem_cons.mp h with rfl | h
    · -- nobody else in the list is the candidate
      have hrest : votesFor t a = 0 := by
        unfold votesFor
        refine List.sum_eq_zero fun x hx => ?_
        obtain ⟨e, he, rfl⟩ := List.mem_map.mp hx
        exact if_neg fun hea => hnew (List.mem_map.mpr ⟨e, he, hea⟩)
      rw [hrest, if_pos rfl, Nat.add_zero]
    · rw [ih hnodup h, if_neg, Nat.zero_add]
      intro he
      exact hnew (List.mem_map.mpr ⟨(a, n), h, he.symm⟩)

theorem exists_mem_of_votesFor (h : 0 < votesFor t a) : ∃ n, (a, n) ∈ t := by
  by_contra hnone
  refine h.ne' (List.sum_eq_zero fun x hx => ?_)
  obtain ⟨⟨b, n⟩, he, rfl⟩ := List.mem_map.mp hx
  refine if_neg ?_
  rintro rfl
  exact hnone ⟨n, he⟩

/-- No two candidates have more than half of the votes. -/
theorem majority_unique {b : AccountId} {total : ℕ} (h : votes.length ≤ total)
    (ha : total < 2 * votes.count a) (hb : total < 2 * votes.count b) : a = b := by
  by_contra hab
  -- no vote is for both
  have hboth : votes.count a + votes.count b ≤ votes.length := by
    rw [List.length_eq_countP_add_countP (· == a)]
    refine Nat.add_le_add_left (List.countP_mono_left fun c _ hc => ?_) _
    rw [beq_iff_eq] at hc
    simpa [hc] using Ne.symm hab
  omega

end Counting

section Supporters

variable {L : Type} {cfg : Config AccountId} {ballots : StorageMap (ℕ × ℕ) AccountId}
  {unionId totalGuilds : ℕ} {d : AccountId}

/-- The guilds whose votes in a union are for a candidate. -/
def supporters (ballots : StorageMap (ℕ × ℕ) AccountId) (unionId : ℕ) (d : AccountId) :
    Finset ℕ :=
  (ballots.row unionId).filter fun g => ballots.get (unionId, g) = some d

/-- **A candidate is elected by more than half of the guilds.** -/
theorem tallyGrandmasterVotes_eq_some_iff
    (hcfg : (ballots.row unionId).card ≤ cfg.maxUnionMembers)
    (htotal : (ballots.row unionId).card ≤ totalGuilds) :
    tallyGrandmasterVotes cfg unionId totalGuilds ballots = some d ↔
      totalGuilds < 2 * (supporters ballots unionId d).card := by
  -- no vote is cut off
  have htake : (ballots.iterPrefix cfg.iterationOrder unionId).take cfg.maxUnionMembers =
      ballots.iterPrefix cfg.iterationOrder unionId :=
    List.take_of_length_le (StorageMap.length_iterPrefix.trans_le hcfg)
  unfold tallyGrandmasterVotes
  rw [htake]
  set votes := (ballots.iterPrefix cfg.iterationOrder unionId).map Prod.snd with hvotes
  have hlength : votes.length = (ballots.row unionId).card := by
    rw [hvotes, List.length_map, StorageMap.length_iterPrefix]
  -- the count of a candidate does not depend on the order
  have hsupporters : (supporters ballots unionId d).card = votes.count d :=
    StorageMap.count_iterPrefix.symm
  have hmax : votes.length ≤ u32Max := by
    rw [hlength]
    exact hcfg.trans cfg.maxUnionMembers_le
  rw [hsupporters, Option.map_eq_some_iff]
  -- who is found has more than half
  have hfound : ∀ e, (votes.foldl addVote []).find? (fun e => totalGuilds / 2 < e.2) = some e →
      totalGuilds < 2 * votes.count e.1 := by
    intro e he
    have hcount := votesFor_of_mem nodup_tally (List.mem_of_find?_eq_some he)
    have hlt : totalGuilds / 2 < e.2 := by simpa using List.find?_some he
    rw [votesFor_tally hmax] at hcount
    omega
  constructor
  · rintro ⟨e, he, rfl⟩
    exact hfound e he
  · intro hmajority
    have hpos : 0 < votesFor (votes.foldl addVote []) d := by
      rw [votesFor_tally hmax]
      omega
    obtain ⟨n, hn⟩ := exists_mem_of_votesFor hpos
    have hcount := votesFor_of_mem nodup_tally hn
    rw [votesFor_tally hmax] at hcount
    -- somebody with more than half is found, and nobody else has more than half
    have hsome : ((votes.foldl addVote []).find? fun e => totalGuilds / 2 < e.2).isSome := by
      rw [List.find?_isSome]
      refine ⟨(d, n), hn, decide_eq_true ?_⟩
      dsimp only
      omega
    obtain ⟨e, he⟩ := Option.isSome_iff_exists.mp hsome
    exact ⟨e, he, majority_unique (hlength.trans_le htotal) (hfound e he) hmajority⟩

end Supporters

end Guilds
