import Altan.Foundation.Accounting
import Altan.Foundation.Ancestry
import Altan.Foundation.Catalogue
import Altan.Runtime.Constants

/-!
# The forest of the messages

A reply is posted after the message it replies to, in the same forum, so the messages of a forum
form a forest. The index of the forum lists its roots, and the index of the replies the children of
every message: from the first each message of the forum is reached, by one path. What is posted
stays as it is, except that it may be pinned.

## Main definitions

* `Changed`: what an accepted input does
* `Threaded`: replies follow what they reply to, and the indices list them
* `Forest`: the messages of every forum are reached from its index
* `Kept`: what has been posted is still there

## Main results

* `threaded_step`, `kept_step`: what one input preserves
* `forum_forest`: the messages are a forest that grows
-/

open Ancestry Bounded Catalogue Dispatch TransitionSystem

namespace Forums

variable {cfg : Config} {AccountId : Type} {x : Input cfg AccountId} {s s' : State cfg AccountId}
  {message : Message cfg AccountId} {id : ℕ}

/-- The parent of a message is there, in the same forum. -/
def Answers (s : State cfg AccountId) (message : Message cfg AccountId) : Prop :=
  ∀ p, message.parentId = some p →
    ∃ parent, s.messages.get p = some parent ∧ parent.forumId = message.forumId

/-- The call posts a message. -/
def Input.Posts (x : Input cfg AccountId) : Prop :=
  match x.2 with
  | .postMessage .. => True
  | .pinMessage _ => False

instance : DecidablePred (@Input.Posts cfg AccountId) := fun x =>
  match x with
  | (_, .postMessage ..) => isTrue trivial
  | (_, .pinMessage _) => isFalse fun h => h

/-- What an accepted input does: it posts a message, or pins one. -/
inductive Changed (x : Input cfg AccountId) (s : State cfg AccountId) :
    State cfg AccountId → Prop
  | posted {message : Message cfg AccountId} (hposts : x.Posts) (hanswers : Answers s message) :
    Changed x s (posted message s)
  | pinned {id : ℕ} {message : Message cfg AccountId} (hget : s.messages.get id = some message) :
    Changed x s { s with messages := s.messages.insert id { message with pinned := true } }

theorem ensureReplies_eq_ok {forumId : ForumId cfg} {replyTo : Option ℕ} {u : Unit}
    (h : ensureReplies forumId replyTo s = .ok u) :
    ∀ p, replyTo = some p →
      ∃ parent, s.messages.get p = some parent ∧ parent.forumId = forumId := by
  rintro p rfl
  obtain ⟨parent, hparent, h⟩ := required_bind_eq_ok.mp h
  exact ⟨parent, hparent, ensure_eq_ok.mp h⟩

/-- **What an input does.** -/
theorem step_changed (h : step x s = .ok s') : Changed x s s' := by
  obtain ⟨ctx, c⟩ := x
  cases c with
  | postMessage forumId contentHash replyTo =>
    simp only [step, dispatch, postMessage, ensureSigned_bind_eq_ok, required_bind_eq_ok,
      ensure_bind_eq_ok] at h
    obtain ⟨caller, -, status, -, -, h⟩ := h
    obtain ⟨u, hreplies, h⟩ := bind_eq_ok.mp h
    rw [← pure_eq_ok.mp h]
    exact .posted trivial (ensureReplies_eq_ok hreplies)
  | pinMessage messageId =>
    simp only [step, dispatch, pinMessage, ensureRoot_bind_eq_ok, required_bind_eq_ok,
      pure_eq_ok] at h
    obtain ⟨-, message, hget, rfl⟩ := h
    exact .pinned hget

/-! ### Threads -/

/-- The forum that a message opens a thread in. -/
def Message.thread (message : Message cfg AccountId) : Option (ForumId cfg) :=
  match message.parentId with
  | some _ => none
  | none => some message.forumId

theorem Message.thread_eq_some {forumId : ForumId cfg} :
    message.thread = some forumId ↔ message.parentId = none ∧ message.forumId = forumId := by
  unfold Message.thread
  cases message.parentId <;> simp

theorem posted_threadReplies :
    (posted message s).threadReplies =
      filed s.threadReplies message.parentId s.nextMessageId := by
  unfold posted filed
  cases message.parentId <;> rfl

theorem posted_forumIndex :
    (posted message s).forumIndex = filed s.forumIndex message.thread s.nextMessageId := by
  unfold posted filed Message.thread
  cases message.parentId <;> rfl

/-- The messages are numbered as they were posted. A reply follows what it replies to, in the same
forum, and the indices list the replies and the threads. -/
structure Threaded (s : State cfg AccountId) : Prop where
  dense : Dense s.messages s.nextMessageId
  answers : ∀ c message, s.messages.get c = some message → Answers s message ∧
    ∀ p, message.parentId = some p → p < c
  replies : Files Message.parentId s.threadReplies s.messages
  threads : Files Message.thread s.forumIndex s.messages

theorem threaded_genesis : Threaded (genesis : State cfg AccountId) where
  dense := dense_empty
  answers c message h := by simp [genesis] at h
  replies := files_empty
  threads := files_empty

/-- What a message replies to is still there when nothing but its pin has changed. -/
theorem Answers.congr (h : Answers s message)
    (hkept : ∀ p parent, s.messages.get p = some parent →
      ∃ pinned, s'.messages.get p = some { parent with pinned := pinned }) :
    Answers s' message := by
  intro p hp
  obtain ⟨parent, hparent, hforum⟩ := h p hp
  obtain ⟨pinned, hpinned⟩ := hkept p parent hparent
  exact ⟨_, hpinned, hforum⟩

/-- What has been posted is still there, pinned or not. -/
def Kept (s s' : State cfg AccountId) : Prop :=
  ∀ id message, s.messages.get id = some message →
    ∃ pinned, s'.messages.get id = some { message with pinned := pinned }

theorem Kept.refl (s : State cfg AccountId) : Kept s s := fun _ message h => ⟨message.pinned, h⟩

theorem Kept.trans {t : State cfg AccountId} (h : Kept s s') (h' : Kept s' t) : Kept s t := by
  intro id message hget
  obtain ⟨pinned, hpinned⟩ := h id message hget
  obtain ⟨pinned', hpinned'⟩ := h' id _ hpinned
  exact ⟨pinned', hpinned'⟩

/-- No message is written over, as long as there are numbers left. -/
theorem kept_step (h : Dense s.messages s.nextMessageId) (hs : step x s = .ok s') : Kept s s' := by
  intro id message hget
  cases step_changed hs with
  | posted =>
    refine ⟨message.pinned, (StorageMap.get_insert_of_ne ?_).trans hget⟩
    exact Nat.ne_of_lt (h.lt hget)
  | @pinned id' message' hget' =>
    dsimp only
    by_cases hid : id = id'
    · subst hid
      obtain rfl := Option.some.inj (hget.symm.trans hget')
      exact ⟨true, StorageMap.get_insert_self⟩
    · exact ⟨message.pinned, (StorageMap.get_insert_of_ne hid).trans hget⟩

/-- **The threads are kept**, as long as there are numbers left. -/
theorem threaded_step (h : Threaded s) (hroom : x.Posts → s.nextMessageId < u64Max)
    (hs : step x s = .ok s') : Threaded s' := by
  have hkept := kept_step h.dense hs
  cases step_changed hs with
  | @posted message hposts hanswers =>
    have hnew : s.messages.get s.nextMessageId = none := h.dense.get_eq_none (Nat.le_refl _)
    refine ⟨?_, ?_, ?_, ?_⟩
    · show Dense _ (saturatingAdd u64Max s.nextMessageId 1)
      rw [saturatingAdd_one_of_lt (hroom hposts)]
      exact h.dense.enter message
    · intro c m hget
      rcases StorageMap.get_insert_cases hget with ⟨rfl, rfl⟩ | ⟨-, hget⟩
      -- what the new message replies to has a number already
      · refine ⟨hanswers.congr hkept, fun p hp => ?_⟩
        obtain ⟨parent, hparent, -⟩ := hanswers p hp
        exact h.dense.lt hparent
      · obtain ⟨hm, hlt⟩ := h.answers c m hget
        exact ⟨hm.congr hkept, hlt⟩
    · rw [posted_threadReplies]
      exact h.replies.enter hnew message
    · rw [posted_forumIndex]
      exact h.threads.enter hnew message
  | @pinned id message hget =>
    -- a pin changes neither the parent nor the forum
    refine ⟨h.dense.update hget _, ?_, h.replies.update hget rfl, h.threads.update hget rfl⟩
    intro c m hc
    rcases StorageMap.get_insert_cases hc with ⟨rfl, rfl⟩ | ⟨-, hc⟩
    · obtain ⟨hm, hlt⟩ := h.answers c message hget
      exact ⟨hm.congr hkept, hlt⟩
    · obtain ⟨hm, hlt⟩ := h.answers c m hc
      exact ⟨hm.congr hkept, hlt⟩

/-! ### The forest -/

/-- The message opens a thread of the forum, by the index. -/
def IsThread (s : State cfg AccountId) (forumId : ForumId cfg) (id : ℕ) : Prop :=
  s.forumIndex.get (forumId, id) = some ()

/-- The message is a reply to another, by the index. -/
def IsReply (s : State cfg AccountId) (p c : ℕ) : Prop := s.threadReplies.get (p, c) = some ()

/-- The messages of every forum are a forest. A reply is later than what it replies to, in the same
forum; the indices list the replies and the threads; and each message is reached from the index of
its forum, and only from there, by one path, which goes up to a thread of the forum. -/
structure Forest (s : State cfg AccountId) : Prop where
  parents : ∀ c message p, s.messages.get c = some message → message.parentId = some p →
    p < c ∧ ∃ parent, s.messages.get p = some parent ∧ parent.forumId = message.forumId
  replies : ∀ p c, IsReply s p c ↔
    ∃ message, s.messages.get c = some message ∧ message.parentId = some p
  threads : ∀ forumId c, IsThread s forumId c ↔
    ∃ message, s.messages.get c = some message ∧ message.parentId = none ∧
      message.forumId = forumId
  reached : ∀ c message, s.messages.get c = some message →
    ∃! path, Path (IsThread s message.forumId) (IsReply s) path c
  within : ∀ forumId path c, Path (IsThread s forumId) (IsReply s) path c →
    (∃ message, s.messages.get c = some message ∧ message.forumId = forumId) ∧
      ∃ root, path.getLast? = some root ∧ IsThread s forumId root

theorem Threaded.isThread_iff (h : Threaded s) {forumId : ForumId cfg} {c : ℕ} :
    IsThread s forumId c ↔ ∃ message, s.messages.get c = some message ∧
      message.parentId = none ∧ message.forumId = forumId := by
  simp only [IsThread, h.threads forumId c, Message.thread_eq_some]

theorem Threaded.existsUnique_path (h : Threaded s) {c : ℕ} {forumId : ForumId cfg}
    (hc : ∃ message, s.messages.get c = some message ∧ message.forumId = forumId) :
    ∃! path, Path (IsThread s forumId) (IsReply s) path c := by
  refine Ancestry.existsUnique_path
    (fun c => ∃ message, s.messages.get c = some message ∧ message.forumId = forumId)
    (fun c => (s.messages.get c).bind Message.parentId) ?_ ?_ ?_ c hc
  -- the roots are the messages of the forum without a parent
  · rintro c ⟨message, hget, hforum⟩
    have hparent : (s.messages.get c).bind Message.parentId = message.parentId := by
      rw [hget, Option.bind_some]
    rw [h.isThread_iff, hparent]
    constructor
    · rintro ⟨_, hget', hp, -⟩
      rwa [Option.some.inj (hget.symm.trans hget')]
    · intro hp
      exact ⟨message, hget, hp, hforum⟩
  -- the children are those that have the message as their parent
  · rintro c ⟨message, hget, -⟩ p
    rw [IsReply, h.replies p c, hget, Option.bind_some]
    simp
  -- a parent is of the same forum, and earlier
  · rintro c p ⟨message, hget, hforum⟩ hp
    rw [hget, Option.bind_some] at hp
    obtain ⟨hanswers, hlt⟩ := h.answers c message hget
    obtain ⟨parent, hparent, hsame⟩ := hanswers p hp
    exact ⟨⟨parent, hparent, hsame.trans hforum⟩, hlt p hp⟩

/-- What is reached from the index of a forum is of the forum. -/
theorem Threaded.forum_of_path (h : Threaded s) {forumId : ForumId cfg} {path : List ℕ} {c : ℕ}
    (hpath : Path (IsThread s forumId) (IsReply s) path c) :
    ∃ message, s.messages.get c = some message ∧ message.forumId = forumId := by
  induction hpath with
  | root hroot =>
    obtain ⟨message, hget, -, hforum⟩ := h.isThread_iff.mp hroot
    exact ⟨message, hget, hforum⟩
  | @step path p c _ hchild ih =>
    obtain ⟨message, hget, hp⟩ := (h.replies p c).mp hchild
    obtain ⟨parent, hparent, hsame⟩ := (h.answers c message hget).1 p hp
    obtain ⟨parent', hparent', hforum⟩ := ih
    obtain rfl := Option.some.inj (hparent.symm.trans hparent')
    exact ⟨message, hget, hsame.symm.trans hforum⟩

theorem Threaded.forest (h : Threaded s) : Forest s where
  parents c message p hget hp := by
    obtain ⟨hanswers, hlt⟩ := h.answers c message hget
    exact ⟨hlt p hp, hanswers p hp⟩
  replies := h.replies
  threads _ _ := h.isThread_iff
  reached c message hget := h.existsUnique_path ⟨message, hget, rfl⟩
  within forumId path c hpath := ⟨h.forum_of_path hpath, hpath.exists_root⟩

/-! ### Runs -/

/-- A new message takes one number. -/
theorem nextMessageId_step (hs : step x s = .ok s') :
    s'.nextMessageId ≤ s.nextMessageId + if x.Posts then 1 else 0 := by
  cases step_changed hs with
  | posted hposts =>
    rw [if_pos hposts]
    exact saturatingAdd_le_add
  | pinned => exact Nat.le_add_right _ _

/-- **The messages are a forest that grows.** As long as there are numbers for the messages, they
are a forest in every forum, which the indices describe, and what has been posted stays as it is,
pinned or not. -/
theorem forum_forest (xs : List (Input cfg AccountId))
    (h : accepted step Input.Posts xs (genesis : State cfg AccountId) < u64Max) :
    Throughout step Forest xs (genesis : State cfg AccountId) ∧
      Ascending step Kept xs (genesis : State cfg AccountId) := by
  have hroom : Along step (fun s x => x.Posts → s.nextMessageId < u64Max) xs
      (genesis : State cfg AccountId) :=
    along_of_accepted_le (c := State.nextMessageId) (fun _ _ _ => nextMessageId_step)
      ((Nat.zero_add _).trans_le h.le)
  constructor
  · exact (throughout_of_along (fun _ _ _ => threaded_step) threaded_genesis hroom).imp
      fun _ => Threaded.forest
  · exact ascending_of_invariant Kept.refl (fun _ _ _ => Kept.trans)
      (fun _ _ _ => threaded_step) (fun _ _ _ ht _ => kept_step ht.dense) threaded_genesis hroom

/-- A thread with two replies, one to the other. -/
def discussion : List (Input Runtime.forums ℕ) :=
  [Runtime.forumsCall 7 (.postMessage .empty (.ofByte 1) none),
    Runtime.forumsCall 8 (.postMessage .empty (.ofByte 2) (some 0)),
    Runtime.forumsCall 7 (.postMessage .empty (.ofByte 3) (some 1))]

theorem forum_forest_discussion :
    Throughout step Forest discussion genesis ∧ Ascending step Kept discussion genesis ∧
      IsReply (run step discussion genesis) 1 2 := by
  obtain ⟨hforest, hkept⟩ := forum_forest discussion (by decide +kernel)
  exact ⟨hforest, hkept, by unfold IsReply; decide +kernel⟩

end Forums
