import Altan.ForeignAffairs.Model
import Altan.Foundation.Past
import Altan.Foundation.TransitionSystem

/-!
# Who acts for a country

The acts that concern a country are kept as a history beside the storage: who was accredited,
appointed and removed, who sent a message and who acknowledged one. A new representative dissolves
the council, so its members are those whom the present representative has appointed since, and has
not removed. Whoever has sent or acknowledged a message was then the representative or of the
council.

## Main definitions

* `Act`, `Input.act`: what concerns a country
* `CurrentRep`, `Appointee`, `Authorised`: who acts for a country, by its history
* `Mission`, `Turned`: what an input does to what is stored of a country
* `Accredited`: the storage is what the history says

## Main results

* `step_turned`: what an input does
* `Grounded.turned`: one act
* `missions_accredited`: authority follows the representative
-/

open Dispatch Past TransitionSystem

namespace ForeignAffairs

variable {AccountId : Type} {cfg : Config AccountId}

/-! ### The history of a country -/

/-- What concerns a country. -/
inductive Act (AccountId : Type)
  | registered (representative : AccountId)
  | appointed (signer member : AccountId)
  | removed (signer member : AccountId)
  | sent (sender : AccountId) (m : ChannelMessage)
  | acknowledged (sender : AccountId) (channel : ChannelKind) (index : ℕ)
  deriving DecidableEq

/-- A representative is accredited. -/
def Act.Registers (a : Act AccountId) : Prop := ∃ representative, a = .registered representative

/-- The account that was accredited last. -/
def CurrentRep (h : List (Act AccountId)) (representative : AccountId) : Prop :=
  Since (· = .registered representative) Act.Registers h

/-- An act that ends the membership of a council: a registration, or the removal of the member. -/
def Act.Dismisses (member : AccountId) (a : Act AccountId) : Prop :=
  a.Registers ∨ ∃ signer, a = .removed signer member

/-- The representative has appointed the member, and since then nobody was accredited and the
member not removed. -/
def Appointee (h : List (Act AccountId)) (representative member : AccountId) : Prop :=
  Since (· = .appointed representative member) (Act.Dismisses member) h

/-- The account is the representative of the country, or an appointee of the representative. -/
def Authorised (h : List (Act AccountId)) (who : AccountId) : Prop :=
  CurrentRep h who ∨ ∃ representative, CurrentRep h representative ∧ Appointee h representative who

/-- The council is appointed and dismissed by the representative, and messages are sent and
acknowledged by those who are authorised. -/
def Permitted (h : List (Act AccountId)) : Act AccountId → Prop
  | .registered _ => True
  | .appointed signer _ | .removed signer _ => CurrentRep h signer
  | .sent sender _ | .acknowledged sender _ _ => Authorised h sender

/-- A message as it was sent. -/
def ChannelMessage.unacknowledged (m : ChannelMessage) : ChannelMessage :=
  { m with acknowledged := false }

/-- The message that an act sends. -/
def Act.message : Act AccountId → Option ChannelMessage
  | .sent _ m => some m
  | _ => none

/-- The country that an input concerns, and how. -/
def Input.act (cfg : Config AccountId) (x : Input AccountId) : Option (UInt16 × Act AccountId) :=
  match x.2, x.1.origin with
  | .registerRepresentative countryCode representative, _ =>
    some (countryCode, .registered representative)
  | .appointCouncilMember countryCode member, .signed who =>
    some (countryCode, .appointed who member)
  | .removeCouncilMember countryCode member, .signed who => some (countryCode, .removed who member)
  | .sendDiplomaticMessage countryCode messageType contentHash, .signed who =>
    some (countryCode, .sent who (message cfg x.1 countryCode messageType who contentHash))
  | .acknowledgeMessage countryCode channel index, .signed who =>
    some (countryCode, .acknowledged who channel index)
  | _, _ => none

/-- The act of an input that concerns a country. -/
def Input.actOn (cfg : Config AccountId) (countryCode : UInt16) (x : Input AccountId) :
    Option (Act AccountId) :=
  match x.act cfg with
  | some (c, a) => if c = countryCode then some a else none
  | none => none

/-- The histories with what an input adds to one of them. -/
def record (cfg : Config AccountId) (_ : State cfg) (x : Input AccountId)
    (h : EventLog UInt16 (Act AccountId)) : EventLog UInt16 (Act AccountId) :=
  fun countryCode => h countryCode ++ (x.actOn cfg countryCode).toList

/-! ### What is stored of a country -/

/-- What is stored of a country: its representative, its council and its channels. -/
structure Mission (AccountId : Type) where
  representative : Option AccountId
  council : List AccountId
  channel : ChannelKind → List ChannelMessage

/-- What is stored of a country. -/
def mission (s : State cfg) (countryCode : UInt16) : Mission AccountId where
  representative := s.diplomaticRepresentative.get countryCode
  council := (s.council countryCode).val
  channel kind := (s.channel kind countryCode).val

/-- The mission with other messages in a channel. -/
def Mission.withChannel (v : Mission AccountId) (kind : ChannelKind)
    (messages : List ChannelMessage) : Mission AccountId :=
  { v with channel := Function.update v.channel kind messages }

/-- The account is the representative, or of the council. -/
def Mission.Admits (v : Mission AccountId) (who : AccountId) : Prop :=
  v.representative = some who ∨ who ∈ v.council

variable [DecidableEq AccountId]

/-- What an input does to what is stored of a country. -/
inductive Turned : Option (Act AccountId) → Mission AccountId → Mission AccountId → Prop
  | unchanged {v : Mission AccountId} : Turned none v v
  | submitted {v : Mission AccountId} {m : ChannelMessage} (hnew : m.acknowledged = false) :
    Turned none v (v.withChannel .legalization (v.channel .legalization ++ [m]))
  | registered {v : Mission AccountId} {representative : AccountId} :
    Turned (some (.registered representative)) v
      { v with
        representative := some representative
        council := if v.representative.isSome = true then [] else v.council }
  | appointed {v : Mission AccountId} {signer member : AccountId}
    (hsigner : v.representative = some signer) (hmember : member ∉ v.council) :
    Turned (some (.appointed signer member)) v { v with council := v.council ++ [member] }
  | removed {v : Mission AccountId} {signer member : AccountId}
    (hsigner : v.representative = some signer) :
    Turned (some (.removed signer member)) v { v with council := v.council.erase member }
  | sent {v : Mission AccountId} {sender : AccountId} {m : ChannelMessage}
    (hsender : v.Admits sender) (hnew : m.acknowledged = false) :
    Turned (some (.sent sender m)) v
      (v.withChannel .diplomatic (v.channel .diplomatic ++ [m]))
  | acknowledged {v : Mission AccountId} {sender : AccountId} {kind : ChannelKind} {index : ℕ}
    (hsender : v.Admits sender) (hindex : index < (v.channel kind).length) :
    Turned (some (.acknowledged sender kind index)) v
      (v.withChannel kind
        ((v.channel kind).modify index fun msg => { msg with acknowledged := true }))

variable {s s' : State cfg} {x : Input AccountId} {countryCode c : UInt16}
  {who : AccountId} {kind : ChannelKind}

omit [DecidableEq AccountId] in
theorem mission_withChannel {messages : BoundedVec ChannelMessage cfg.maxChannelMessages} :
    mission (s.withChannel kind countryCode messages) c =
      if c = countryCode then (mission s c).withChannel kind messages.val else mission s c := by
  by_cases hc : c = countryCode
  · subst hc
    rw [if_pos rfl]
    unfold mission Mission.withChannel
    congr 1
    · cases kind <;> rfl
    · cases kind <;> rfl
    · funext kind'
      cases kind <;> cases kind' <;>
        simp [State.withChannel, State.channel, StorageMap.getD_insert_self]
  · rw [if_neg hc]
    unfold mission
    congr 1
    · cases kind <;> rfl
    · cases kind <;> rfl
    · funext kind'
      cases kind <;> cases kind' <;>
        simp [State.withChannel, State.channel, StorageMap.getD_insert, hc]

omit [DecidableEq AccountId] in
theorem actOn_of_eq {a : Act AccountId} (h : x.act cfg = some (countryCode, a)) :
    x.actOn cfg c = if c = countryCode then some a else none := by
  unfold Input.actOn
  simp only [h, eq_comm]

omit [DecidableEq AccountId] in
theorem actOn_of_none (h : x.act cfg = none) : x.actOn cfg c = none := by
  unfold Input.actOn
  rw [h]

/-- An act that changes one country, and only that. -/
theorem turned_of_act {a : Act AccountId} (hact : x.act cfg = some (countryCode, a))
    (hself : Turned (some a) (mission s countryCode) (mission s' countryCode))
    (hother : ∀ c, c ≠ countryCode → mission s' c = mission s c) :
    Turned (x.actOn cfg c) (mission s c) (mission s' c) := by
  rw [actOn_of_eq hact]
  split
  · next hc => exact hc ▸ hself
  · next hc =>
    rw [hother c hc]
    exact .unchanged

theorem isCouncilAuthorized_eq_ok {u : Unit} :
    isCouncilAuthorized countryCode who s = .ok u ↔ (mission s countryCode).Admits who := by
  unfold isCouncilAuthorized Mission.Admits mission
  split
  · next h => simp [h]
  · next h => simp [h]

theorem ensureRepresentative_eq_ok {u : Unit} :
    ensureRepresentative countryCode who s = .ok u ↔
      (mission s countryCode).representative = some who := by
  unfold ensureRepresentative mission
  simp only [required_bind_eq_ok, ensure_eq_ok]
  constructor
  · rintro ⟨rep, hrep, rfl⟩
    exact hrep
  · intro h
    exact ⟨who, h, rfl⟩

omit [DecidableEq AccountId] in
theorem pushMessage_eq_ok {m : ChannelMessage} (h : pushMessage kind m s = .ok s') :
    mission s' c = if c = m.countryCode then
      (mission s c).withChannel kind ((mission s c).channel kind ++ [m]) else mission s c := by
  obtain ⟨messages, hpush, h⟩ := required_bind_eq_ok.mp h
  rw [← pure_eq_ok.mp h, mission_withChannel]
  split
  · next hc =>
    rw [BoundedVec.tryPush_eq_some.mp hpush, ← hc]
    rfl
  · rfl

omit [DecidableEq AccountId] in
theorem mission_insert_council {council : BoundedVec AccountId cfg.maxDiplomaticCouncil} :
    mission { s with diplomaticCouncil := s.diplomaticCouncil.insert countryCode council } c =
      if c = countryCode then { mission s c with council := council.val } else mission s c := by
  unfold mission State.council
  rw [StorageMap.getD_insert]
  by_cases hc : c = countryCode
  · rw [if_pos hc, if_pos hc]
    rfl
  · rw [if_neg hc, if_neg hc]
    rfl

omit [DecidableEq AccountId] in
theorem mission_registered {ctx : Context AccountId} {representative : AccountId}
    (h : registerRepresentative ctx countryCode representative s = .ok s') :
    mission s' c = if c = countryCode then
      { mission s c with
        representative := some representative
        council :=
          if (mission s c).representative.isSome = true then [] else (mission s c).council }
      else mission s c := by
  simp only [registerRepresentative, ensureRoot_bind_eq_ok, ensure_bind_eq_ok, pure_eq_ok] at h
  obtain ⟨-, -, rfl⟩ := h
  unfold mission State.council StorageMap.containsKey StorageMap.getD
  simp only [StorageMap.get_insert]
  by_cases hc : c = countryCode
  · subst hc
    rw [if_pos rfl, if_pos rfl]
    congr 1
    split
    · rw [StorageMap.get_remove_self]
      rfl
    · rfl
  · rw [if_neg hc, if_neg hc]
    congr 2
    split
    · rw [StorageMap.get_remove_of_ne hc]
    · rfl

/-- **What an input does** to what is stored of each country. -/
theorem step_turned (h : step cfg x s = .ok s') (c : UInt16) :
    Turned (x.actOn cfg c) (mission s c) (mission s' c) := by
  obtain ⟨ctx, call⟩ := x
  cases call with
  | registerForeignState countryCode isoAlpha2 isoAlpha3 name status =>
    simp only [step, dispatch, registerForeignState, ensureRoot_bind_eq_ok, ensure_bind_eq_ok,
      pure_eq_ok] at h
    obtain ⟨-, -, -, rfl⟩ := h
    exact .unchanged
  | updateDiplomaticStatus countryCode newStatus =>
    simp only [step, dispatch, updateDiplomaticStatus, setStatus, ensureRoot_bind_eq_ok,
      required_bind_eq_ok, pure_eq_ok] at h
    obtain ⟨-, record, -, rfl⟩ := h
    exact .unchanged
  | freezeCountryOperations countryCode =>
    simp only [step, dispatch, freezeCountryOperations, setStatus, ensureRoot_bind_eq_ok,
      required_bind_eq_ok, pure_eq_ok] at h
    obtain ⟨-, record, -, rfl⟩ := h
    exact .unchanged
  | submitLegalizationDocument countryCode contentHash =>
    simp only [step, dispatch, submitLegalizationDocument, ensureSigned_bind_eq_ok,
      required_bind_eq_ok, ensure_bind_eq_ok] at h
    obtain ⟨sender, -, state, -, -, h⟩ := h
    -- no seat is needed to submit a document
    rw [actOn_of_none rfl, pushMessage_eq_ok h]
    split
    · exact .submitted rfl
    · exact .unchanged
  | sendDiplomaticMessage countryCode messageType contentHash =>
    simp only [step, dispatch, sendDiplomaticMessage, ensureSigned_bind_eq_ok,
      required_bind_eq_ok, ensure_bind_eq_ok] at h
    obtain ⟨sender, horigin, state, -, -, h⟩ := h
    obtain ⟨u, hsender, h⟩ := bind_eq_ok.mp h
    have hact : Input.act cfg (ctx, .sendDiplomaticMessage countryCode messageType contentHash) =
        some (countryCode,
          .sent sender (message cfg ctx countryCode messageType sender contentHash)) := by
      simp only [Input.act, horigin]
    refine turned_of_act hact ?_ fun c hc => (pushMessage_eq_ok h).trans (if_neg hc)
    rw [pushMessage_eq_ok h]
    exact (if_pos rfl : _ = _) ▸ .sent (isCouncilAuthorized_eq_ok.mp hsender) rfl
  | acknowledgeMessage countryCode channel messageIndex =>
    simp only [step, dispatch, acknowledgeMessage, ensureSigned_bind_eq_ok] at h
    obtain ⟨sender, horigin, h⟩ := h
    obtain ⟨u, hsender, h⟩ := bind_eq_ok.mp h
    simp only [ensure_bind_eq_ok, pure_eq_ok] at h
    obtain ⟨hindex, rfl⟩ := h
    have hact : Input.act cfg (ctx, .acknowledgeMessage countryCode channel messageIndex) =
        some (countryCode, .acknowledged sender channel messageIndex) := by
      simp only [Input.act, horigin]
    -- the channel is that of one country, whose council acknowledges
    refine turned_of_act hact ?_ fun c hc => mission_withChannel.trans (if_neg hc)
    rw [mission_withChannel, if_pos rfl]
    exact .acknowledged (isCouncilAuthorized_eq_ok.mp hsender) hindex
  | registerRepresentative countryCode representative =>
    simp only [step, dispatch] at h
    refine turned_of_act rfl ?_ fun c hc => (mission_registered h).trans (if_neg hc)
    rw [mission_registered h, if_pos rfl]
    exact .registered
  | appointCouncilMember countryCode member =>
    simp only [step, dispatch, appointCouncilMember, ensureSigned_bind_eq_ok, required_bind_eq_ok,
      ensure_bind_eq_ok] at h
    obtain ⟨caller, horigin, state, -, -, h⟩ := h
    obtain ⟨u, hrep, h⟩ := bind_eq_ok.mp h
    simp only [required_bind_eq_ok, ensure_bind_eq_ok, pure_eq_ok] at h
    obtain ⟨hmember, council, hpush, rfl⟩ := h
    have hact : Input.act cfg (ctx, .appointCouncilMember countryCode member) =
        some (countryCode, .appointed caller member) := by
      simp only [Input.act, horigin]
    refine turned_of_act hact ?_ fun c hc => mission_insert_council.trans (if_neg hc)
    rw [mission_insert_council, if_pos rfl, BoundedVec.tryPush_eq_some.mp hpush]
    exact .appointed (ensureRepresentative_eq_ok.mp hrep) hmember
  | removeCouncilMember countryCode member =>
    simp only [step, dispatch, removeCouncilMember, ensureSigned_bind_eq_ok] at h
    obtain ⟨caller, horigin, h⟩ := h
    obtain ⟨u, hrep, h⟩ := bind_eq_ok.mp h
    simp only [ensure_bind_eq_ok, pure_eq_ok] at h
    obtain ⟨-, rfl⟩ := h
    have hact : Input.act cfg (ctx, .removeCouncilMember countryCode member) =
        some (countryCode, .removed caller member) := by
      simp only [Input.act, horigin]
    refine turned_of_act hact ?_ fun c hc => mission_insert_council.trans (if_neg hc)
    rw [mission_insert_council, if_pos rfl]
    exact .removed (ensureRepresentative_eq_ok.mp hrep)

/-! ### Who is seated -/

variable {v v' : Mission AccountId} {h : List (Act AccountId)} {a : Act AccountId}
  {act : Option (Act AccountId)}

omit [DecidableEq AccountId] in
theorem currentRep_append_of_not (ha : ¬ a.Registers) :
    CurrentRep (h ++ [a]) who ↔ CurrentRep h who := by
  unfold CurrentRep
  rw [since_append]
  constructor
  · rintro (heq | ⟨hs, -⟩)
    · exact absurd ⟨who, heq⟩ ha
    · exact hs
  · intro hs
    exact Or.inr ⟨hs, ha⟩

omit [DecidableEq AccountId] in
theorem appointee_append_of_not {representative member : AccountId}
    (ha : a ≠ .appointed representative member) (hd : ¬ a.Dismisses member) :
    Appointee (h ++ [a]) representative member ↔ Appointee h representative member := by
  unfold Appointee
  rw [since_append, or_iff_right ha, and_iff_left hd]

/-- The representative and the council are those of the history. -/
structure Seated (v : Mission AccountId) (h : List (Act AccountId)) : Prop where
  representative : ∀ who, v.representative = some who ↔ CurrentRep h who
  vacant : v.representative = none → v.council = []
  nodup : v.council.Nodup
  member : ∀ representative, v.representative = some representative →
    ∀ who, who ∈ v.council ↔ Appointee h representative who

omit [DecidableEq AccountId] in
theorem seated_nil {channel : ChannelKind → List ChannelMessage} :
    Seated (⟨none, [], channel⟩ : Mission AccountId) [] where
  representative _ := iff_of_false nofun not_since_nil
  vacant _ := rfl
  nodup := List.nodup_nil
  member _ hrep := nomatch hrep

omit [DecidableEq AccountId] in
theorem Seated.admits_iff (hv : Seated v h) : v.Admits who ↔ Authorised h who := by
  unfold Mission.Admits Authorised
  rw [hv.representative who]
  refine or_congr_right ?_
  constructor
  -- a country without a representative has no council
  · intro hmem
    cases hrep : v.representative with
    | none => simp [hv.vacant hrep] at hmem
    | some representative =>
      exact ⟨representative, (hv.representative _).mp hrep, (hv.member _ hrep who).mp hmem⟩
  · rintro ⟨representative, hrep, happ⟩
    exact (hv.member _ ((hv.representative _).mpr hrep) who).mpr happ

omit [DecidableEq AccountId] in
/-- An act that seats nobody leaves who is seated. -/
theorem Seated.keep (hv : Seated v h) (hrep : v'.representative = v.representative)
    (hcouncil : v'.council = v.council) (hreg : ¬ a.Registers)
    (happ : ∀ representative who, a ≠ .appointed representative who)
    (hrem : ∀ signer who, a ≠ .removed signer who) : Seated v' (h ++ [a]) where
  representative who := by rw [hrep, currentRep_append_of_not hreg, hv.representative]
  vacant hnone := by
    rw [hrep] at hnone
    rw [hcouncil, hv.vacant hnone]
  nodup := hcouncil ▸ hv.nodup
  member representative hr who := by
    have hd : ¬ a.Dismisses who := by
      rintro (hr | ⟨signer, hs⟩)
      · exact hreg hr
      · exact hrem signer who hs
    rw [hcouncil, hv.member representative (hrep ▸ hr),
      appointee_append_of_not (happ representative who) hd]

omit [DecidableEq AccountId] in
/-- **A new representative** has no council: nobody has been appointed since the registration. -/
theorem Seated.register (hv : Seated v h) (representative : AccountId) :
    Seated { v with
      representative := some representative
      council := if v.representative.isSome = true then [] else v.council }
      (h ++ [.registered representative]) := by
  have hnil : (if v.representative.isSome = true then [] else v.council) = [] := by
    split
    · rfl
    · next hnone => exact hv.vacant (Option.not_isSome_iff_eq_none.mp hnone)
  rw [hnil]
  refine ⟨fun who => ?_, nofun, List.nodup_nil, ?_⟩
  · unfold CurrentRep
    rw [since_append]
    simp [Act.Registers]
  · intro representative' _ who
    refine iff_of_false List.not_mem_nil fun hs => ?_
    rcases since_append.mp hs with heq | ⟨-, hd⟩
    · cases heq
    · exact hd (Or.inl ⟨representative, rfl⟩)

omit [DecidableEq AccountId] in
/-- **The representative appoints** a member: the appointment is one of the present council. -/
theorem Seated.appoint (hv : Seated v h) {signer member : AccountId}
    (hsigner : v.representative = some signer) (hmember : member ∉ v.council) :
    Seated { v with council := v.council ++ [member] } (h ++ [.appointed signer member]) := by
  have hreg : ¬ (Act.appointed signer member).Registers := by
    rintro ⟨_, heq⟩
    cases heq
  refine ⟨fun who => ?_, fun hnone => ?_, ?_, ?_⟩
  · rw [currentRep_append_of_not hreg]
    exact hv.representative who
  · rw [hsigner] at hnone
    cases hnone
  · rw [← List.concat_eq_append]
    exact List.Nodup.concat hmember hv.nodup
  · intro representative hrep who
    obtain rfl := Option.some.inj (hsigner.symm.trans hrep)
    have hd : ¬ (Act.appointed signer member).Dismisses who := by
      rintro (hr | ⟨_, heq⟩)
      · exact hreg hr
      · cases heq
    unfold Appointee
    rw [since_append, and_iff_left hd, List.mem_append, List.mem_singleton,
      hv.member signer hsigner who, Act.appointed.injEq, and_iff_right rfl, or_comm]
    exact or_congr_left eq_comm

/-- **The representative removes** a member, and nobody else. -/
theorem Seated.remove (hv : Seated v h) {signer member : AccountId}
    (hsigner : v.representative = some signer) :
    Seated { v with council := v.council.erase member } (h ++ [.removed signer member]) := by
  have hreg : ¬ (Act.removed signer member).Registers := by
    rintro ⟨_, heq⟩
    cases heq
  refine ⟨fun who => ?_, fun hnone => ?_, hv.nodup.erase member, ?_⟩
  · rw [currentRep_append_of_not hreg]
    exact hv.representative who
  · rw [hsigner] at hnone
    cases hnone
  · intro representative hrep who
    have hd : ¬ (Act.removed signer member).Dismisses who ↔ who ≠ member := by
      unfold Act.Dismisses
      rw [or_iff_right hreg]
      simp [eq_comm]
    unfold Appointee
    rw [since_append, or_iff_right nofun, hd, hv.nodup.mem_erase_iff,
      hv.member representative hrep who, and_comm]
    rfl

/-- **Who is seated after an act.** -/
theorem Seated.turned (hv : Seated v h) (ht : Turned act v v') : Seated v' (h ++ act.toList) := by
  cases ht with
  | unchanged => exact (List.append_nil h).symm ▸ hv
  | submitted => exact (List.append_nil h).symm ▸ ⟨hv.1, hv.2, hv.3, hv.4⟩
  | registered => exact hv.register _
  | appointed hsigner hmember => exact hv.appoint hsigner hmember
  | removed hsigner => exact hv.remove hsigner
  | sent => exact hv.keep rfl rfl nofun nofun nofun
  | acknowledged => exact hv.keep rfl rfl nofun nofun nofun

/-! ### What the channels say -/

/-- The message at a position of a channel has been acknowledged. -/
def Acknowledged (h : List (Act AccountId)) (kind : ChannelKind) (index : ℕ) : Prop :=
  ∃ sender, .acknowledged sender kind index ∈ h

/-- The diplomatic channel is what has been sent, and the marks of both channels are what has been
acknowledged. -/
structure Transcribed (v : Mission AccountId) (h : List (Act AccountId)) : Prop where
  sent : (v.channel .diplomatic).map ChannelMessage.unacknowledged = h.filterMap Act.message
  marked : ∀ kind index m, (v.channel kind)[index]? = some m →
    (m.acknowledged = true ↔ Acknowledged h kind index)
  within : ∀ kind index, Acknowledged h kind index → index < (v.channel kind).length

omit [DecidableEq AccountId] in
theorem transcribed_nil {representative : Option AccountId} {council : List AccountId} :
    Transcribed ⟨representative, council, fun _ => []⟩ [] where
  sent := rfl
  marked _ _ _ hm := nomatch hm
  within _ _ hack := by
    obtain ⟨_, hmem⟩ := hack
    exact absurd hmem List.not_mem_nil

omit [DecidableEq AccountId] in
theorem acknowledged_append {index : ℕ} : Acknowledged (h ++ [a]) kind index ↔
    Acknowledged h kind index ∨ ∃ sender, a = .acknowledged sender kind index := by
  unfold Acknowledged
  rw [← exists_or]
  refine exists_congr fun sender => ?_
  rw [List.mem_append, List.mem_singleton, eq_comm (b := a)]

omit [DecidableEq AccountId] in
@[simp] theorem Mission.channel_withChannel_self {messages : List ChannelMessage} :
    (v.withChannel kind messages).channel kind = messages := Function.update_self kind _ _

omit [DecidableEq AccountId] in
theorem Mission.channel_withChannel_of_ne {messages : List ChannelMessage} {kind' : ChannelKind}
    (hkind : kind' ≠ kind) : (v.withChannel kind messages).channel kind' = v.channel kind' :=
  Function.update_of_ne hkind _ _

omit [DecidableEq AccountId] in
/-- A new message is marked when it is acknowledged, which it is not yet. -/
theorem Transcribed.marked_push (hv : Transcribed v h) {m : ChannelMessage}
    (hnew : m.acknowledged = false) {kind' : ChannelKind} {index : ℕ} {m' : ChannelMessage}
    (hm : ((v.withChannel kind (v.channel kind ++ [m])).channel kind')[index]? = some m') :
    m'.acknowledged = true ↔ Acknowledged h kind' index := by
  by_cases hkind : kind' = kind
  · subst hkind
    rw [Mission.channel_withChannel_self] at hm
    -- the message is an old one, the new one, or none
    rcases Nat.lt_trichotomy index (v.channel kind').length with hlt | heq | hgt
    · rw [List.getElem?_append_left hlt] at hm
      exact hv.marked kind' index m' hm
    · rw [heq, List.getElem?_concat_length] at hm
      obtain rfl := Option.some.inj hm
      rw [hnew]
      refine iff_of_false (by decide) fun hack => ?_
      exact absurd (hv.within kind' index hack) (by omega)
    · have hend : (v.channel kind' ++ [m]).length ≤ index := by
        rw [List.length_append]
        exact hgt
      rw [List.getElem?_eq_none hend] at hm
      cases hm
  · rw [Mission.channel_withChannel_of_ne hkind] at hm
    exact hv.marked kind' index m' hm

omit [DecidableEq AccountId] in
theorem Transcribed.within_push (hv : Transcribed v h) {m : ChannelMessage} {kind' : ChannelKind}
    {index : ℕ} (hack : Acknowledged h kind' index) :
    index < ((v.withChannel kind (v.channel kind ++ [m])).channel kind').length := by
  have hlt := hv.within kind' index hack
  by_cases hkind : kind' = kind
  · subst hkind
    rw [Mission.channel_withChannel_self, List.length_append]
    exact Nat.lt_add_right _ hlt
  · rwa [Mission.channel_withChannel_of_ne hkind]

omit [DecidableEq AccountId] in
/-- An act that neither sends nor acknowledges leaves what the channels say. -/
theorem Transcribed.keep (hv : Transcribed v h) (hchannel : v'.channel = v.channel)
    (hmessage : a.message = none)
    (hack : ∀ sender kind index, a ≠ .acknowledged sender kind index) :
    Transcribed v' (h ++ [a]) := by
  have hsame : ∀ kind index, Acknowledged (h ++ [a]) kind index ↔ Acknowledged h kind index := by
    intro kind index
    rw [acknowledged_append, or_iff_left]
    rintro ⟨sender, heq⟩
    exact hack sender kind index heq
  refine ⟨?_, ?_, ?_⟩
  · rw [hchannel, hv.sent, List.filterMap_append]
    simp [hmessage]
  · intro kind index m hm
    rw [hsame]
    exact hv.marked kind index m (hchannel ▸ hm)
  · intro kind index hacked
    rw [hchannel]
    exact hv.within kind index ((hsame kind index).mp hacked)

/-- What reads nothing of what is modified is the same for each entry. -/
theorem map_modify_of_fixed {α β : Type} {f : α → β} {g : α → α} {l : List α} {i : ℕ}
    (hg : ∀ a, f (g a) = f a) : (l.modify i g).map f = l.map f := by
  refine List.ext_getElem? fun j => ?_
  rw [List.getElem?_map, List.getElem?_map, List.getElem?_modify]
  split
  · cases l[j]? <;> simp [hg]
  · cases l[j]? <;> simp

omit [DecidableEq AccountId] in
/-- **A message that is sent** is the last of the diplomatic channel. -/
theorem Transcribed.send (hv : Transcribed v h) {sender : AccountId} {m : ChannelMessage}
    (hnew : m.acknowledged = false) :
    Transcribed (v.withChannel .diplomatic (v.channel .diplomatic ++ [m]))
      (h ++ [.sent sender m]) := by
  have hsame : ∀ kind index, Acknowledged (h ++ [.sent sender m]) kind index ↔
      Acknowledged h kind index := by
    intro kind index
    rw [acknowledged_append, or_iff_left nofun]
  refine ⟨?_, fun kind index m' hm => ?_, fun kind index hack => ?_⟩
  · have hm : m.unacknowledged = m := by
      unfold ChannelMessage.unacknowledged
      rw [← hnew]
    rw [Mission.channel_withChannel_self, List.map_append, hv.sent, List.filterMap_append]
    simp [Act.message, hm]
  · rw [hsame]
    exact hv.marked_push hnew hm
  · exact hv.within_push ((hsame kind index).mp hack)

omit [DecidableEq AccountId] in
/-- **A message that is acknowledged** is marked, and no other. -/
theorem Transcribed.acknowledge (hv : Transcribed v h) {sender : AccountId} {index : ℕ}
    (hindex : index < (v.channel kind).length) :
    Transcribed (v.withChannel kind ((v.channel kind).modify index fun msg =>
      { msg with acknowledged := true })) (h ++ [.acknowledged sender kind index]) := by
  have hother : ∀ kind' index', ¬ (kind' = kind ∧ index' = index) →
      ¬ ∃ sender', Act.acknowledged sender kind index = .acknowledged sender' kind' index' := by
    rintro kind' index' hne ⟨_, heq⟩
    cases heq
    exact hne ⟨rfl, rfl⟩
  refine ⟨?_, fun kind' index' m hm => ?_, fun kind' index' hack => ?_⟩
  -- what was sent is read without the marks
  · rw [List.filterMap_append, List.filterMap_cons_none rfl, List.filterMap_nil,
      List.append_nil, ← hv.sent]
    by_cases hkind : ChannelKind.diplomatic = kind
    · subst hkind
      rw [Mission.channel_withChannel_self]
      exact map_modify_of_fixed fun _ => rfl
    · rw [Mission.channel_withChannel_of_ne hkind]
  · rw [acknowledged_append]
    by_cases hkind : kind' = kind
    · subst hkind
      rw [Mission.channel_withChannel_self, List.getElem?_modify] at hm
      obtain ⟨m', hget, rfl⟩ := Option.map_eq_some_iff.mp hm
      split
      · next hi => simp [hi]
      · next hi =>
        rw [or_iff_left (hother _ _ fun hboth => hi hboth.2.symm)]
        exact hv.marked kind' index' m' hget
    · rw [Mission.channel_withChannel_of_ne hkind] at hm
      rw [or_iff_left (hother _ _ fun hboth => hkind hboth.1)]
      exact hv.marked kind' index' m hm
  · have hlength : ((v.withChannel kind ((v.channel kind).modify index fun msg =>
        { msg with acknowledged := true })).channel kind').length = (v.channel kind').length := by
      by_cases hkind : kind' = kind
      · subst hkind
        rw [Mission.channel_withChannel_self, List.length_modify]
      · rw [Mission.channel_withChannel_of_ne hkind]
    rw [hlength]
    rcases acknowledged_append.mp hack with hack | ⟨_, heq⟩
    · exact hv.within kind' index' hack
    · cases heq
      exact hindex

/-- **What the channels say after an act.** -/
theorem Transcribed.turned (hv : Transcribed v h) (ht : Turned act v v') :
    Transcribed v' (h ++ act.toList) := by
  cases ht with
  | unchanged => exact (List.append_nil h).symm ▸ hv
  | submitted hnew =>
    rw [Option.toList_none, List.append_nil]
    refine ⟨?_, fun _ _ _ => hv.marked_push hnew, fun _ _ => hv.within_push⟩
    rw [Mission.channel_withChannel_of_ne (by decide)]
    exact hv.sent
  | registered => exact hv.keep rfl rfl nofun
  | appointed => exact hv.keep rfl rfl nofun
  | removed => exact hv.keep rfl rfl nofun
  | sent _ hnew => exact hv.send hnew
  | acknowledged _ hindex => exact hv.acknowledge hindex

/-! ### Authority -/

/-- The acts of a country that its representative and the appointees may perform. -/
theorem Seated.permits (hv : Seated v h) (ht : Turned (some a) v v') : Permitted h a := by
  cases ht with
  | registered => trivial
  | appointed hsigner => exact (hv.representative _).mp hsigner
  | removed hsigner => exact (hv.representative _).mp hsigner
  | sent hsender => exact hv.admits_iff.mp hsender
  | acknowledged hsender => exact hv.admits_iff.mp hsender

/-- What is stored of a country is what its history says, and the history is one of permitted
acts. -/
structure Grounded (v : Mission AccountId) (h : List (Act AccountId)) : Prop where
  seated : Seated v h
  transcribed : Transcribed v h
  lawful : Lawfully Permitted h

/-- **One act.** -/
theorem Grounded.turned (hv : Grounded v h) (ht : Turned act v v') :
    Grounded v' (h ++ act.toList) := by
  refine ⟨hv.seated.turned ht, hv.transcribed.turned ht, ?_⟩
  cases act with
  | none => exact (List.append_nil h).symm ▸ hv.lawful
  | some a => exact lawfully_append.mpr ⟨hv.lawful, hv.seated.permits ht⟩

/-- The storage is what the histories say. In every country the council has no duplicates and does
not exceed its bound, and its members are the appointees of the representative who was accredited
last. They and the representative are who is authorised, and the acts were performed by those who
were then. -/
structure Accredited (s : State cfg) (h : EventLog UInt16 (Act AccountId)) : Prop where
  representative : ∀ c who, s.diplomaticRepresentative.get c = some who ↔ CurrentRep (h c) who
  nodup : ∀ c, (s.council c).val.Nodup
  bounded : ∀ c, (s.council c).val.length ≤ cfg.maxDiplomaticCouncil
  appointed : ∀ c who, who ∈ (s.council c).val →
    ∃ representative, CurrentRep (h c) representative ∧ Appointee (h c) representative who
  authorised : ∀ c who, isCouncilAuthorized c who s = .ok () ↔ Authorised (h c) who
  lawful : ∀ c, Lawfully Permitted (h c)
  sent : ∀ c, (s.channel .diplomatic c).val.map ChannelMessage.unacknowledged =
    (h c).filterMap Act.message
  acknowledged : ∀ kind c (index : ℕ) m, (s.channel kind c).val[index]? = some m →
    (m.acknowledged = true ↔ ∃ sender, .acknowledged sender kind index ∈ h c)

theorem accredited_of_grounded {h : EventLog UInt16 (Act AccountId)}
    (hg : ∀ c, Grounded (mission s c) (h c)) : Accredited s h where
  representative c := (hg c).seated.representative
  nodup c := (hg c).seated.nodup
  bounded c := (s.council c).property
  appointed c who hmem := by
    -- of a council that has members, the representative is there
    rcases (hg c).seated.admits_iff.mp (Or.inr hmem) with hrep | happ
    · have hself := ((hg c).seated.representative who).mpr hrep
      exact ⟨who, hrep, ((hg c).seated.member who hself who).mp hmem⟩
    · exact happ
  authorised c who := isCouncilAuthorized_eq_ok.trans (hg c).seated.admits_iff
  lawful c := (hg c).lawful
  sent c := (hg c).transcribed.sent
  acknowledged kind c := (hg c).transcribed.marked kind

/-- Every message is still there, as it was or acknowledged. -/
def MessagesKept (s s' : State cfg) : Prop :=
  ∀ kind c (index : ℕ) (m : ChannelMessage), (s.channel kind c).val[index]? = some m →
    ∃ m' : ChannelMessage, (s'.channel kind c).val[index]? = some m' ∧
      (m' = m ∨ m' = { m with acknowledged := true })

omit [DecidableEq AccountId] in
theorem MessagesKept.refl (s : State cfg) : MessagesKept s s :=
  fun _ _ _ m hm => ⟨m, hm, Or.inl rfl⟩

omit [DecidableEq AccountId] in
theorem MessagesKept.trans {t : State cfg} (h : MessagesKept s s') (h' : MessagesKept s' t) :
    MessagesKept s t := by
  intro kind c index m hm
  obtain ⟨m', hm', hsame⟩ := h kind c index m hm
  obtain ⟨m'', hm'', hsame'⟩ := h' kind c index m' hm'
  refine ⟨m'', hm'', ?_⟩
  rcases hsame with rfl | rfl
  · exact hsame'
  · rw [or_self] at hsame'
    exact Or.inr hsame'

/-- No act takes a message back. -/
theorem Turned.kept (ht : Turned act v v') {index : ℕ} {m : ChannelMessage}
    (hm : (v.channel kind)[index]? = some m) :
    ∃ m', (v'.channel kind)[index]? = some m' ∧
      (m' = m ∨ m' = { m with acknowledged := true }) := by
  have hpush : ∀ kind' new,
      ((v.withChannel kind' (v.channel kind' ++ [new])).channel kind)[index]? = some m := by
    intro kind' new
    by_cases hkind : kind = kind'
    · subst hkind
      have hlt := (List.getElem?_eq_some_iff.mp hm).1
      rw [Mission.channel_withChannel_self, List.getElem?_append_left hlt]
      exact hm
    · rw [Mission.channel_withChannel_of_ne hkind]
      exact hm
  cases ht with
  | unchanged => exact ⟨m, hm, Or.inl rfl⟩
  | submitted => exact ⟨m, hpush .legalization _, Or.inl rfl⟩
  | registered => exact ⟨m, hm, Or.inl rfl⟩
  | appointed => exact ⟨m, hm, Or.inl rfl⟩
  | removed => exact ⟨m, hm, Or.inl rfl⟩
  | sent => exact ⟨m, hpush .diplomatic _, Or.inl rfl⟩
  | @acknowledged _ _ kind' index' =>
    by_cases hkind : kind = kind'
    · subst hkind
      rw [Mission.channel_withChannel_self, List.getElem?_modify, hm]
      by_cases hi : index' = index
      · exact ⟨{ m with acknowledged := true }, by simp [hi], Or.inr rfl⟩
      · exact ⟨m, by simp [hi], Or.inl rfl⟩
    · rw [Mission.channel_withChannel_of_ne hkind]
      exact ⟨m, hm, Or.inl rfl⟩

theorem grounded_step {h : EventLog UInt16 (Act AccountId)}
    (hg : ∀ c, Grounded (mission s c) (h c)) (hs : step cfg x s = .ok s') (c : UInt16) :
    Grounded (mission s' c) (record cfg s x h c) :=
  (hg c).turned (step_turned hs c)

theorem messagesKept_step (hs : step cfg x s = .ok s') : MessagesKept s s' :=
  fun _ c _ _ hm => (step_turned hs c).kept hm

/-- **Authority follows the representative.** In every run the storage is what the histories of the
countries say, who acts for a country is its present representative or an appointee of that
representative, and messages are kept. -/
theorem missions_accredited (cfg : Config AccountId) (xs : List (Input AccountId)) :
    Throughout (recording (record cfg) (step cfg)) (fun t => Accredited t.1 t.2) xs
        (genesis, fun _ => []) ∧
      Ascending (step cfg) MessagesKept xs genesis := by
  constructor
  · have hrun : Throughout (recording (record cfg) (step cfg))
        (fun t => ∀ c, Grounded (mission t.1 c) (t.2 c)) xs (genesis, fun _ => []) := by
      refine throughout_of_along (Q := fun _ _ => True) ?_ ?_ (along_true xs _)
      · rintro x ⟨s, h⟩ ⟨s', h'⟩ hg - hs
        obtain ⟨hs, rfl⟩ := recording_eq_ok.mp hs
        exact grounded_step hg hs
      · intro c
        have hempty : mission (genesis : State cfg) c = ⟨none, [], fun _ => []⟩ := by
          unfold mission
          congr 1
          funext kind
          cases kind <;> rfl
        dsimp only
        rw [hempty]
        exact ⟨seated_nil, transcribed_nil, lawfully_nil⟩
    exact hrun.imp fun _ => accredited_of_grounded
  · refine ascending_of_invariant (J := fun _ => True) (Q := fun _ _ => True) MessagesKept.refl
      (fun _ _ _ => MessagesKept.trans) (fun _ _ _ _ _ _ => trivial) ?_ trivial (along_true xs _)
    exact fun _ _ _ _ _ hs => messagesKept_step hs

end ForeignAffairs
