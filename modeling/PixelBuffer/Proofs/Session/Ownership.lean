import PixelBuffer.Proofs.Session.Step

/-!
# Who owns the handles

Every handle that a service issued is owned by one live buffer, or was given back. An allocation
gives the handle back itself when no buffer comes of it, and otherwise leaves it to the buffer,
which gives it back when it is dropped. `Session.Owned` states this for a session as an invariant:
the ledger of its calls lists just the handles of the buffers that it holds. `Session.Passes` lists
what a single action passes to the service; the invariant follows for every action and, by induction
on the actions, for every session. A session that is closed gives back the handles of its buffers in
order of their slots (`Session.calls_close`).
-/

namespace PixelBuffer

/-! ## Calls that were added -/

/-- A client after more calls. The handles that they issued have new descriptors, all different. -/
structure Client.Advances {σ : Type} (before after : Client σ) (passed : List Call) : Prop where
  calls_eq : after.calls = before.calls ++ passed.toArray
  size_le : before.world.platform.descriptors.size ≤ after.world.platform.descriptors.size
  distinct : ((passed.filterMap Call.issued?).flatMap Handle.descriptors).Nodup
  new : ∀ descriptor ∈ (passed.filterMap Call.issued?).flatMap Handle.descriptors,
    before.world.platform.descriptors.size ≤ descriptor.number ∧
      descriptor.number < after.world.platform.descriptors.size

namespace Client.Advances

variable {σ : Type} {before : Client σ} {platform : Platform} {service : σ}
  {events : List Event} {passed : List Call}

/-- No calls were made. -/
theorem refl (client : Client σ) : client.Advances client [] :=
  ⟨by simp, Nat.le_refl _, by simp, by simp⟩

/-- Calls that issue nothing. -/
theorem of_none_issued (hissued : passed.filterMap Call.issued? = [])
    (hsize : before.world.platform.descriptors.size ≤ platform.descriptors.size) :
    before.Advances (before.later platform service events passed) passed := by
  refine ⟨rfl, hsize, ?_, ?_⟩
  · simp [hissued]
  · simp [hissued]

/-- Calls that issue one handle, which was opened. -/
theorem of_one_issued {handle : Handle} {opened : Platform}
    (hissued : passed.filterMap Call.issued? = [handle])
    (hopened : before.world.platform.Opened opened handle.descriptors)
    (hsize : opened.descriptors.size ≤ platform.descriptors.size) :
    before.Advances (before.later platform service events passed) passed := by
  have hgrown := hopened.descriptors_size
  refine ⟨rfl, ?_, ?_, ?_⟩
  · show before.world.platform.descriptors.size ≤ platform.descriptors.size
    omega
  · simpa [hissued] using hopened.nodup
  · intro descriptor hm
    have hbounds := hopened.number_bounds (by simpa [hissued] using hm)
    exact ⟨hbounds.1, Nat.lt_of_lt_of_le hbounds.2 hsize⟩

end Client.Advances

namespace Allocator

variable {σ : Type} {allocator : Allocator σ} {code : Int32} {size : Size} {usage : Usage}
  {client after : Client σ} {result : Except Failure Buffer}

/-- What an allocation passes to the service, by what the service replies. -/
inductive Passes (allocator : Allocator σ) (code : Int32) (size : Size) (usage : Usage)
    (client : Client σ) : Except Failure Buffer → List Call → Prop
  /-- Nothing is requested. -/
  | nothing {failure : Failure} (unaccepted : ∀ resolved, ¬ allocator.Accepts code size resolved) :
      Passes allocator code size usage client (.error failure) []
  /-- The service refuses or grants no handle, and none is given back. -/
  | withoutHandle {failure : Failure}
      (reply : ∀ offer stride,
        (allocator.service.allocate (request code size usage) client.service).1 ≠
          .ok ⟨some offer, stride⟩) :
      Passes allocator code size usage client (.error failure)
        [.request (request code size usage)]
  /-- No buffer comes of the handle, and it is given back at once. -/
  | returned {failure : Failure} {offer : Offer} {stride : UInt32} {answer : Except Status Unit}
      (reply : (allocator.service.allocate (request code size usage) client.service).1 =
        .ok ⟨some offer, stride⟩) :
      Passes allocator code size usage client (.error failure)
        [.request (request code size usage), .issue (client.world.platform.accept offer).1,
          .free (client.world.platform.accept offer).1 answer]
  /-- The buffer keeps the handle. -/
  | kept {buffer : Buffer} {offer : Offer}
      (reply : (allocator.service.allocate (request code size usage) client.service).1 =
        .ok ⟨some offer, buffer.stride⟩)
      (handle_eq : buffer.handle = (client.world.platform.accept offer).1) :
      Passes allocator code size usage client (.ok buffer)
        [.request (request code size usage), .issue buffer.handle]

/-- An allocation passes what is listed. -/
theorem Allocates.passes (h : allocator.Allocates code size usage client result after) :
    ∃ passed, client.Advances after passed ∧
      allocator.Passes code size usage client result passed := by
  cases h with
  | rejected checked =>
      refine ⟨[], .refl _, .nothing fun resolved haccepts => ?_⟩
      cases checked.symm.trans (check_eq_ok_iff.mpr haccepts)
  | refused _ answered =>
      exact ⟨_, .of_none_issued rfl (Nat.le_refl _), .withoutHandle (by simp [answered])⟩
  | withoutHandle _ answered =>
      exact ⟨_, .of_none_issued rfl (Nat.le_refl _), .withoutHandle (by simp [answered])⟩
  | unusable granted =>
      have hhandle : granted.handle = _ := (congrArg Prod.fst granted.accepted).symm
      refine ⟨_, .of_one_issued rfl granted.opens (by simp), ?_⟩
      rw [Granted.calls, hhandle]
      exact .returned (congrArg Prod.fst granted.answered)
  | mismatched granted _ finds =>
      have hhandle : granted.handle = _ := (congrArg Prod.fst granted.accepted).symm
      refine ⟨_, .of_one_issued rfl granted.opens ?_, ?_⟩
      · rw [Platform.closeHandle_descriptors_size]
        exact finds.descriptors_size_le
      · rw [Granted.calls, hhandle]
        exact .returned (congrArg Prod.fst granted.answered)
  | found granted _ finds =>
      refine ⟨_, .of_one_issued rfl granted.opens finds.descriptors_size_le, ?_⟩
      exact .kept (congrArg Prod.fst granted.answered) (congrArg Prod.fst granted.accepted).symm

/-- An allocation leaves the ledger as it was, but for the handle of the buffer that it returns. -/
theorem Passes.outstanding {passed : List Call}
    (h : allocator.Passes code size usage client result passed) (ledger : List Handle) :
    ∃ left, Call.outstanding? ledger passed = some left ∧
      left.Perm (ledger ++ (result.toOption.map Buffer.handle).toList) := by
  cases h with
  | nothing => exact ⟨ledger, rfl, by simp [Except.toOption]⟩
  | withoutHandle => exact ⟨ledger, rfl, by simp [Except.toOption]⟩
  | @returned _ offer =>
      -- the handle is entered and crossed out again by the same allocation
      have hm : (client.world.platform.accept offer).1 ∈
          ledger ++ [(client.world.platform.accept offer).1] := by simp
      refine ⟨_, if_pos hm, ?_⟩
      have hperm := (List.perm_append_singleton (client.world.platform.accept offer).1 ledger).erase
        (client.world.platform.accept offer).1
      simpa [Except.toOption] using hperm
  | kept => exact ⟨_, rfl, .refl _⟩

end Allocator

namespace Session

variable {σ : Type} {allocator : Allocator σ} {session : Session σ}

/-! ## Slots -/

/-- A buffer is held exactly when it is in some slot. -/
theorem held_eq_nil_iff : session.held = [] ↔ ∀ slot, session.buffer? slot = none := by
  unfold held buffer?
  rw [List.filterMap_eq_nil_iff]
  constructor
  · intro h slot
    cases hslot : session.buffers[slot]? with
    | none => rfl
    | some content => exact h content (Array.mem_toList_iff.mpr (Array.mem_of_getElem? hslot))
  · intro h content hm
    obtain ⟨slot, hslot⟩ := Array.getElem?_of_mem (Array.mem_toList_iff.mp hm)
    have hempty := h slot
    rwa [hslot] at hempty

/-- Emptying the slot of a buffer takes it out of the buffers that are held. -/
theorem held_perm_of_buffer? {slot : Nat} {buffer : Buffer}
    (h : session.buffer? slot = some buffer) :
    session.held.Perm
      (buffer :: (session.buffers.setIfInBounds slot none).toList.filterMap id) := by
  have hslot : session.buffers.toList[slot]? = some (some buffer) := by
    rw [Array.getElem?_toList]
    exact Option.join_eq_some_iff.mp h
  rw [Array.toList_setIfInBounds]
  exact Platform.filterMap_set_none hslot

/-! ## One action -/

/-- What an action passes to the service. -/
inductive Passes (allocator : Allocator σ) (session : Session σ) :
    Action → Outcome → List Call → Prop
  /-- The handle of a new buffer is issued. -/
  | allocated {code : Int32} {size : Size} {usage : Usage} {buffer : Buffer} {passed : List Call}
      (passes : allocator.Passes code size usage session.client (.ok buffer) passed) :
      Passes allocator session (.allocate code size usage)
        (.allocated session.buffers.size buffer) passed
  /-- A handle that is issued is given back. -/
  | failed {code : Int32} {size : Size} {usage : Usage} {failure : Failure} {passed : List Call}
      (passes : allocator.Passes code size usage session.client (.error failure) passed) :
      Passes allocator session (.allocate code size usage) (.failed failure) passed
  /-- The handle of a buffer is given back. -/
  | dropped {slot : Nat} {buffer : Buffer} {answer : Except Status Unit}
      (present : session.buffer? slot = some buffer) :
      Passes allocator session (.drop slot) .dropped [.free buffer.handle answer]
  /-- There is no buffer to drop. -/
  | absent {slot : Nat} (absent : session.buffer? slot = none) :
      Passes allocator session (.drop slot) .noSlot []
  /-- Cloning planes passes nothing. -/
  | keep {slot : Nat} {outcome : Outcome} : Passes allocator session (.keep slot) outcome []
  /-- Dropping cloned planes passes nothing. -/
  | forget : Passes allocator session .forget .forgotten []

/-- The session holds exactly the handles that were issued and not given back, and every descriptor
of an issued handle was given a number of its own. -/
structure Owned (session : Session σ) : Prop where
  ledger : ∃ handles, Call.outstanding? [] session.client.calls.toList = some handles ∧
    handles.Perm (session.held.map Buffer.handle)
  distinct : ((Call.issued session.client.calls).flatMap Handle.descriptors).Nodup
  old : ∀ descriptor ∈ (Call.issued session.client.calls).flatMap Handle.descriptors,
    descriptor.number < session.client.world.platform.descriptors.size

/-- Calls that turn the ledger of the buffers held before into that of the buffers held after. -/
def Settles (before after : Session σ) (passed : List Call) : Prop :=
  ∀ handles, handles.Perm (before.held.map Buffer.handle) →
    ∃ left, Call.outstanding? handles passed = some left ∧
      left.Perm (after.held.map Buffer.handle)

/-- No calls are needed while the same buffers are held. -/
theorem settles_nil {after : Session σ} (h : after.held = session.held) :
    session.Settles after [] :=
  fun handles hperm => ⟨handles, rfl, by rwa [h]⟩

/-- The calls of an allocation account for the buffer that it returns, if it returns one. -/
theorem settles_allocate {code : Int32} {size : Size} {usage : Usage}
    {result : Except Failure Buffer} {passed : List Call} {after : Session σ}
    (h : allocator.Passes code size usage session.client result passed)
    (hheld : after.held = session.held ++ result.toOption.toList) :
    session.Settles after passed := by
  intro handles hperm
  obtain ⟨left, hleft, heq⟩ := h.outstanding handles
  refine ⟨left, hleft, heq.trans ?_⟩
  rw [hheld, List.map_append]
  cases result <;> exact hperm.append_right _

/-- The call that gives back the handle of a buffer accounts for the buffer that is dropped. -/
theorem settles_drop {slot : Nat} {buffer : Buffer} {answer : Except Status Unit}
    {after : Session σ} (h : session.buffer? slot = some buffer)
    (hbuffers : after.buffers = session.buffers.setIfInBounds slot none) :
    session.Settles after [.free buffer.handle answer] := by
  intro handles hperm
  have hheld := hperm.trans ((held_perm_of_buffer? h).map Buffer.handle)
  refine ⟨handles.erase buffer.handle, if_pos (hheld.mem_iff.mpr List.mem_cons_self), ?_⟩
  have herased := hheld.erase buffer.handle
  rwa [List.map_cons, List.erase_cons_head, ← hbuffers] at herased

/-- An action passes what is listed, and its calls account for the buffers that are held. -/
theorem Performs.passes {action : Action} {outcome : Outcome} {after : Session σ}
    (h : session.Performs allocator action outcome after) :
    ∃ passed, session.client.Advances after.client passed ∧
      session.Passes allocator action outcome passed ∧ session.Settles after passed := by
  cases h with
  | allocated ends =>
      obtain ⟨passed, hadvances, hpasses⟩ := ends.passes
      exact ⟨passed, hadvances, .allocated hpasses,
        settles_allocate hpasses (by simp [held, Except.toOption])⟩
  | failed ends =>
      obtain ⟨passed, hadvances, hpasses⟩ := ends.passes
      exact ⟨passed, hadvances, .failed hpasses,
        settles_allocate hpasses (List.append_nil _).symm⟩
  | dropped present =>
      exact ⟨_, .of_none_issued rfl (by simp), .dropped present, settles_drop present rfl⟩
  | notDropped absent => exact ⟨[], .refl _, .absent absent, settles_nil rfl⟩
  | cloned => exact ⟨[], .of_none_issued rfl (by simp), .keep, settles_nil rfl⟩
  | notCloned => exact ⟨[], .refl _, .keep, settles_nil rfl⟩
  | forgotten => exact ⟨[], .of_none_issued rfl (by simp), .forget, settles_nil rfl⟩

/-! ## All actions -/

/-- Before its first call, a session owns nothing. -/
theorem owned_empty (world : World) (service : σ) :
    Owned { client := { world := world, service := service } } where
  ledger := ⟨[], rfl, .refl _⟩
  distinct := List.nodup_nil
  old _ h := absurd h List.not_mem_nil

/-- An action keeps track of the handles. -/
theorem Owned.perform (h : session.Owned) (allocator : Allocator σ) (action : Action) :
    (session.perform allocator action).2.Owned := by
  obtain ⟨passed, hadvances, -, hledger⟩ := (perform_performs allocator session action).passes
  generalize (session.perform allocator action).2 = next at hadvances hledger
  have hissued : (Call.issued next.client.calls).flatMap Handle.descriptors =
      (Call.issued session.client.calls).flatMap Handle.descriptors ++
        (passed.filterMap Call.issued?).flatMap Handle.descriptors := by
    simp [Call.issued, hadvances.calls_eq]
  obtain ⟨handles, houtstanding, hperm⟩ := h.ledger
  constructor
  case ledger =>
    obtain ⟨left, hleft, hheld⟩ := hledger handles hperm
    refine ⟨left, ?_, hheld⟩
    simp only [hadvances.calls_eq, Array.toList_append, Call.outstanding?_append, houtstanding,
      Option.bind_some]
    exact hleft
  case distinct =>
    rw [hissued]
    refine h.distinct.append hadvances.distinct fun descriptor hbefore hafter => ?_
    -- what was issued before has a number below all that is issued now
    have hold := h.old descriptor hbefore
    have hnew := hadvances.new descriptor hafter
    omega
  case old =>
    intro descriptor hm
    rw [hissued] at hm
    rcases List.mem_append.mp hm with hbefore | hafter
    · exact Nat.lt_of_lt_of_le (h.old descriptor hbefore) hadvances.size_le
    · exact (hadvances.new descriptor hafter).2

/-- Any actions keep track of the handles. -/
theorem Owned.performAll (h : session.Owned) (allocator : Allocator σ) (actions : List Action) :
    (session.performAll allocator actions).2.Owned := by
  induction actions generalizing session with
  | nil => exact h
  | cons action rest ih => exact ih (h.perform allocator action)

/-! ## The end of a session -/

/-- Dropping a slot empties it and no other. -/
theorem buffer?_perform_drop (allocator : Allocator σ) (session : Session σ) (slot other : Nat) :
    (session.perform allocator (.drop slot)).2.buffer? other =
      if slot = other then none else session.buffer? other := by
  rw [perform]
  cases hslot : session.buffer? slot with
  | none =>
      by_cases heq : slot = other
      · subst heq
        rw [if_pos rfl]
        exact hslot
      · rw [if_neg heq]
  | some buffer =>
      show ((session.buffers.setIfInBounds slot none)[other]?).join = _
      rw [Array.getElem?_setIfInBounds]
      by_cases heq : slot = other
      · rw [if_pos heq, if_pos heq]
        split <;> rfl
      · rw [if_neg heq, if_neg heq]
        rfl

/-- Dropping slots in order empties them and no others. -/
theorem buffer?_performAll_drop (allocator : Allocator σ) (session : Session σ)
    (slots : List Nat) (other : Nat) :
    (session.performAll allocator (slots.map Action.drop)).2.buffer? other =
      if other ∈ slots then none else session.buffer? other := by
  induction slots generalizing session with
  | nil => rfl
  | cons slot rest ih =>
      show ((session.perform allocator (.drop slot)).2.performAll allocator
        (rest.map Action.drop)).2.buffer? other = _
      rw [ih, buffer?_perform_drop]
      -- a slot may be listed again, but then it is empty already
      by_cases hrest : other ∈ rest
      · rw [if_pos hrest, if_pos (List.mem_cons_of_mem _ hrest)]
      · by_cases heq : slot = other
        · rw [if_neg hrest, if_pos heq, if_pos (by simp [heq])]
        · rw [if_neg hrest, if_neg heq, if_neg (by simp [hrest, Ne.symm heq])]

/-- A session that is closed holds no buffer. -/
theorem held_close (allocator : Allocator σ) (session : Session σ) :
    (session.close allocator).held = [] := by
  refine held_eq_nil_iff.mpr fun slot => ?_
  rw [close, buffer?_performAll_drop]
  split
  · rfl
  · rename_i hm
    have hsize : session.buffers.size ≤ slot := by simpa using hm
    rw [buffer?, Array.getElem?_eq_none hsize]
    rfl

/-- Dropping a slot gives back the handle of the buffer in it. -/
theorem calls_perform_drop (session : Session σ)
    (htaken : ∀ handle state, (allocator.service.free handle state).1 = .ok ()) (slot : Nat) :
    (session.perform allocator (.drop slot)).2.client.calls.toList =
      session.client.calls.toList ++
        (session.buffer? slot).toList.map fun buffer => .free buffer.handle (.ok ()) := by
  rw [perform]
  cases hslot : session.buffer? slot with
  | none => simp
  | some buffer =>
      have hanswer := htaken buffer.handle session.client.service
      rcases hreturned : allocator.service.free buffer.handle session.client.service with
        ⟨answer, state, reports⟩
      obtain rfl : answer = .ok () := by rwa [hreturned] at hanswer
      simp [Allocator.drop_eq session.client hreturned]

/-- Dropping slots gives back the handles of the buffers in them, in that order. -/
theorem calls_performAll_drop (session : Session σ)
    (htaken : ∀ handle state, (allocator.service.free handle state).1 = .ok ())
    {slots : List Nat} (hnodup : slots.Nodup) :
    (session.performAll allocator (slots.map Action.drop)).2.client.calls.toList =
      session.client.calls.toList ++
        (slots.filterMap session.buffer?).map fun buffer => .free buffer.handle (.ok ()) := by
  induction slots generalizing session with
  | nil => simp [performAll]
  | cons slot rest ih =>
      obtain ⟨hfresh, hnodup⟩ := List.nodup_cons.mp hnodup
      have hrest : rest.filterMap (session.perform allocator (.drop slot)).2.buffer? =
          rest.filterMap session.buffer? := by
        refine List.filterMap_congr fun other hm => ?_
        rw [buffer?_perform_drop, if_neg (by rintro rfl; exact hfresh hm)]
      show ((session.perform allocator (.drop slot)).2.performAll allocator
        (rest.map Action.drop)).2.client.calls.toList = _
      rw [ih _ hnodup, hrest, calls_perform_drop session htaken, List.append_assoc,
        ← List.map_append]
      cases hslot : session.buffer? slot <;> simp [hslot]

/-- The buffers that are held are those in the slots. -/
theorem held_eq_filterMap (session : Session σ) :
    session.held = (List.range session.buffers.size).filterMap session.buffer? := by
  have hslots : session.buffers.toList =
      (List.range session.buffers.size).map session.buffer? := by
    refine List.ext_getElem (by simp) fun slot hlt _ => ?_
    have hslot : slot < session.buffers.size := by simpa using hlt
    simp [buffer?, hslot]
  rw [held, hslots, List.filterMap_map]
  rfl

/-- A session that is closed gives back the handles of its buffers, in order of their slots. -/
theorem calls_close (session : Session σ)
    (htaken : ∀ handle state, (allocator.service.free handle state).1 = .ok ()) :
    (session.close allocator).client.calls.toList =
      session.client.calls.toList ++
        session.held.map fun buffer => .free buffer.handle (.ok ()) := by
  rw [held_eq_filterMap]
  exact calls_performAll_drop session htaken List.nodup_range

/-- In every session, whatever its service answers and whatever was done in it, the handles that
were issued and not given back are those of the buffers that it holds; no handle is given back that
is not outstanding; and every descriptor of an issued handle differs from all others, so that a
handle is given back once. Each further action passes to the service what is listed: a handle that
is issued is given back in the same action unless a buffer comes of it, and otherwise when the
buffer is dropped. Once all buffers are dropped, the handles given back are those that were
issued. All these calls are what the service was asked and answered. -/
theorem performAll_ownership (allocator : Allocator σ) (world : World) (service : σ)
    (actions : List Action) :
    let session :=
      (performAll allocator { client := { world := world, service := service } } actions).2
    session.Owned ∧
      (Call.issued session.client.calls).Perm
        (Call.freed session.client.calls ++ session.held.map Buffer.handle) ∧
      Client.Replayed { world := world, service := service } allocator.service session.client ∧
      (∀ action, ∃ passed,
        (session.perform allocator action).2.client.calls =
            session.client.calls ++ passed.toArray ∧
          session.Passes allocator action (session.perform allocator action).1 passed ∧
          session.client.Replayed allocator.service (session.perform allocator action).2.client) ∧
      (session.close allocator).held = [] ∧
      (Call.issued (session.close allocator).client.calls).Perm
        (Call.freed (session.close allocator).client.calls) ∧
      session.client.Replayed allocator.service (session.close allocator).client := by
  intro session
  have howned : session.Owned := (owned_empty world service).performAll allocator actions
  have hbalance : ∀ {session : Session σ}, session.Owned →
      (Call.issued session.client.calls).Perm
        (Call.freed session.client.calls ++ session.held.map Buffer.handle) := by
    intro session h
    obtain ⟨handles, houtstanding, hperm⟩ := h.ledger
    exact (Call.outstanding?_perm houtstanding).trans (hperm.append_left _)
  have hreplayed := performAll_replayed allocator
    { client := { world := world, service := service } } actions
  refine ⟨howned, hbalance howned, hreplayed, ?_, held_close allocator session, ?_,
    close_replayed allocator session⟩
  · intro action
    have hperforms := perform_performs allocator session action
    obtain ⟨passed, hadvances, hpasses, -⟩ := hperforms.passes
    exact ⟨passed, hadvances.calls_eq, hpasses, hperforms.replayed⟩
  · have hclosed := hbalance (howned.performAll allocator
      ((List.range session.buffers.size).map Action.drop))
    have hnone : (session.performAll allocator
        ((List.range session.buffers.size).map Action.drop)).2.held = [] :=
      held_close allocator session
    rwa [hnone, List.map_nil, List.append_nil] at hclosed

end Session

end PixelBuffer
