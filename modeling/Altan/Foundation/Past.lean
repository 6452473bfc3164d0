import Mathlib.Data.List.Induction
import Mathlib.Tactic.Common

/-!
# What a history says of its past

A history is a list of events, the latest last. Something holds since an event if the event has
happened and nothing that would end it has happened after. A law that looks back is met by a history
if each of its events meets it in view of what came before.

## Main definitions

* `Since p q h`: an event of the kind `p`, and none of the kind `q` after it
* `Lawfully P h`: every event of `h` meets `P` after what came before it

## Main results

* `since_append`, `lawfully_append`: one more event
-/

namespace Past

variable {α : Type} {p q : α → Prop} {P : List α → α → Prop} {h : List α} {a b : α}

/-- An event of the kind `p` has happened, and none of the kind `q` after it. -/
def Since (p q : α → Prop) (h : List α) : Prop :=
  ∃ before a after, h = before ++ a :: after ∧ p a ∧ ∀ b ∈ after, ¬ q b

theorem not_since_nil : ¬ Since p q [] := by
  rintro ⟨before, a, after, h, -⟩
  simp at h

/-- **One more event** starts it again, or leaves it unless it ends it. -/
theorem since_append : Since p q (h ++ [a]) ↔ p a ∨ Since p q h ∧ ¬ q a := by
  constructor
  · rintro ⟨before, b, after, heq, hb, hafter⟩
    rcases List.eq_nil_or_concat after with rfl | ⟨after', c, rfl⟩
    · obtain ⟨-, rfl⟩ := List.append_singleton_inj.mp heq
      exact Or.inl hb
    · -- the last event is one of those after
      rw [List.concat_eq_append, ← List.cons_append, ← List.append_assoc] at heq
      obtain ⟨rfl, rfl⟩ := List.append_singleton_inj.mp heq
      simp only [List.concat_eq_append, List.mem_append, List.mem_singleton] at hafter
      refine Or.inr ⟨⟨before, b, after', rfl, hb, ?_⟩, hafter a (Or.inr rfl)⟩
      exact fun c hc => hafter c (Or.inl hc)
  · rintro (ha | ⟨⟨before, b, after, rfl, hb, hafter⟩, ha⟩)
    · exact ⟨h, a, [], rfl, ha, fun _ hb => absurd hb List.not_mem_nil⟩
    · refine ⟨before, b, after ++ [a], by simp, hb, ?_⟩
      intro c hc
      rcases List.mem_append.mp hc with hc | hc
      · exact hafter c hc
      · rwa [List.mem_singleton.mp hc]

/-- Every event meets the law after what came before it. -/
def Lawfully (P : List α → α → Prop) (h : List α) : Prop :=
  ∀ before a after, h = before ++ a :: after → P before a

theorem lawfully_nil : Lawfully P [] := by
  intro before a after h
  simp at h

/-- **One more event** is lawful after those before it. -/
theorem lawfully_append : Lawfully P (h ++ [a]) ↔ Lawfully P h ∧ P h a := by
  constructor
  · intro hl
    refine ⟨fun before b after heq => hl before b (after ++ [a]) ?_, hl h a [] rfl⟩
    rw [heq, List.append_assoc, List.cons_append]
  · rintro ⟨hl, ha⟩ before b after heq
    rcases List.eq_nil_or_concat after with rfl | ⟨after', c, rfl⟩
    · obtain ⟨rfl, rfl⟩ := List.append_singleton_inj.mp heq
      exact ha
    · rw [List.concat_eq_append, ← List.cons_append, ← List.append_assoc] at heq
      obtain ⟨rfl, rfl⟩ := List.append_singleton_inj.mp heq
      exact hl before b after' rfl

end Past
