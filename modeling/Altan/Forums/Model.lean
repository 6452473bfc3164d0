import Altan.Foundation.Arithmetic
import Altan.Foundation.BoundedVec
import Altan.Foundation.Dispatch
import Altan.Foundation.Scale
import Altan.Foundation.StorageMap
import Altan.Identity.Model

/-!
# The forums

Active citizens post messages in forums, as a new thread or in reply to a message of the same forum.
Two indices list the replies to each message and the threads of each forum. A message is pinned by
root; nothing else about it changes.

## Main definitions

* `Config`, `Context`, `State`: the constants, what a call is dispatched with, and the storage
* `Message`: a message
* `Call`, `dispatch`: the dispatchables
-/

open Bounded Dispatch Identity

namespace Forums

/-- The errors of the module. -/
inductive Error
  | notRegistered
  | citizenInactive
  | parentMessageNotFound
  | forumIdTooLong
  | crossForumReplyForbidden
  | messageNotFound
  deriving DecidableEq, Repr

/-- The outcome of a function of the module. -/
abbrev Result (α : Type) := Except (DispatchError Error) α

/-- The constants of the module. Nothing checks the number of replies to a message. -/
structure Config where
  maxForumIdLen : ℕ
  maxRepliesPerMessage : ℕ

/-- The identifier of a forum. -/
abbrev ForumId (cfg : Config) : Type := BoundedVec UInt8 cfg.maxForumIdLen

/-- A message. -/
structure Message (cfg : Config) (AccountId : Type) where
  author : AccountId
  contentHash : Bytes32
  forumId : ForumId cfg
  parentId : Option ℕ
  postedAt : ℕ
  pinned : Bool
  deriving DecidableEq

/-- What a call is dispatched with: its origin, the current block, and how the citizens stand who
are registered. -/
structure Context (AccountId : Type) where
  origin : Origin AccountId
  now : ℕ
  citizens : AccountId → Option CitizenStatus

/-- The storage of the module. -/
structure State (cfg : Config) (AccountId : Type) where
  messages : StorageMap ℕ (Message cfg AccountId)
  nextMessageId : ℕ
  threadReplies : StorageMap (ℕ × ℕ) Unit
  forumIndex : StorageMap (ForumId cfg × ℕ) Unit

variable {cfg : Config} {AccountId : Type}

/-- The storage before any call. The first message has the number zero. -/
def genesis : State cfg AccountId where
  messages := ∅
  nextMessageId := 0
  threadReplies := ∅
  forumIndex := ∅

/-- Fail unless the message that is replied to is there, in the same forum. -/
def ensureReplies (forumId : ForumId cfg) (replyTo : Option ℕ) (s : State cfg AccountId) :
    Result Unit :=
  match replyTo with
  | some pid => do
    let parent ← required (s.messages.get pid) (.module .parentMessageNotFound)
    ensure (parent.forumId = forumId) (.module .crossForumReplyForbidden)
  | none => .ok ()

/-- The storage with a message under the next number, listed among the replies to its parent or
the threads of its forum. -/
def posted (message : Message cfg AccountId) (s : State cfg AccountId) : State cfg AccountId where
  messages := s.messages.insert s.nextMessageId message
  nextMessageId := saturatingAdd u64Max s.nextMessageId 1
  threadReplies :=
    match message.parentId with
    | some pid => s.threadReplies.insert (pid, s.nextMessageId) ()
    | none => s.threadReplies
  forumIndex :=
    match message.parentId with
    | some _ => s.forumIndex
    | none => s.forumIndex.insert (message.forumId, s.nextMessageId) ()

/-- Post a message in a forum. -/
def postMessage (ctx : Context AccountId) (forumId : ForumId cfg) (contentHash : Bytes32)
    (replyTo : Option ℕ) (s : State cfg AccountId) : Result (State cfg AccountId) := do
  let caller ← ensureSigned ctx.origin
  let status ← required (ctx.citizens caller) (.module .notRegistered)
  ensure (status = .active) (.module .citizenInactive)
  ensureReplies forumId replyTo s
  return posted
    { author := caller
      contentHash := contentHash
      forumId := forumId
      parentId := replyTo
      postedAt := ctx.now
      pinned := false } s

/-- Pin a message, as root. -/
def pinMessage (ctx : Context AccountId) (messageId : ℕ) (s : State cfg AccountId) :
    Result (State cfg AccountId) := do
  ensureRoot ctx.origin
  let msg ← required (s.messages.get messageId) (.module .messageNotFound)
  return { s with messages := s.messages.insert messageId { msg with pinned := true } }

/-- The dispatchables with their arguments. -/
inductive Call (cfg : Config)
  | postMessage (forumId : ForumId cfg) (contentHash : Bytes32) (replyTo : Option ℕ)
  | pinMessage (messageId : ℕ)
  deriving DecidableEq

/-- Dispatch a call. -/
def dispatch (ctx : Context AccountId) :
    Call cfg → State cfg AccountId → Result (State cfg AccountId)
  | .postMessage forumId contentHash replyTo => postMessage ctx forumId contentHash replyTo
  | .pinMessage messageId => pinMessage ctx messageId

/-- A call with what it is dispatched with. -/
abbrev Input (cfg : Config) (AccountId : Type) : Type := Context AccountId × Call cfg

/-- The state after one input. -/
def step (x : Input cfg AccountId) (s : State cfg AccountId) : Result (State cfg AccountId) :=
  dispatch x.1 x.2 s

end Forums
