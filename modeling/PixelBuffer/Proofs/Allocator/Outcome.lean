import PixelBuffer.Allocator
import PixelBuffer.Proofs.Client
import PixelBuffer.Proofs.Plane.Search
import PixelBuffer.Proofs.Platform.Opening

/-!
# The ways in which an allocation ends

`Allocator.Allocates` lists them, each with all that happened: the answers of the service, the
platform, the events and the calls. `Allocator.allocate_allocates` shows that there are no others,
and `Allocator.drop_eq` says what happens when a buffer is dropped. What holds of every allocation
is proved from these two, without opening the allocator again.
-/

namespace PixelBuffer

namespace Allocator

variable {σ : Type}

/-! ## Checking a request -/

/-- What a request has to satisfy to be made: it has pixels, its code stands for a format of the
table, and the bytes of a frame can be counted. -/
structure Accepts (allocator : Allocator σ) (code : Int32) (size : Size) (resolved : Resolved) :
    Prop where
  width_ne : size.width ≠ 0
  height_ne : size.height ≠ 0
  resolves : allocator.resolver.resolve code = .ok resolved
  frame : ∃ total, resolved.geometry.frameBytes? size = some total

/-- The check passes exactly for the requests that are to be made. -/
theorem check_eq_ok_iff {allocator : Allocator σ} {code : Int32} {size : Size}
    {resolved : Resolved} :
    allocator.check code size = .ok resolved ↔ allocator.Accepts code size resolved := by
  unfold check
  by_cases hempty : size.isEmpty = true
  · simp only [hempty, if_true, reduceCtorEq, false_iff]
    intro h
    rcases (Bool.or_eq_true _ _).mp hempty with hzero | hzero
    · exact h.width_ne (eq_of_beq hzero)
    · exact h.height_ne (eq_of_beq hzero)
  · have hsides : size.width ≠ 0 ∧ size.height ≠ 0 := by simpa [Size.isEmpty] using hempty
    rw [if_neg hempty]
    cases hresolve : allocator.resolver.resolve code with
    | error failure =>
        simp only [reduceCtorEq, false_iff]
        intro h
        exact absurd (hresolve.symm.trans h.resolves) (by simp)
    | ok found =>
        constructor
        · intro h
          cases hframe : found.geometry.frameBytes? size with
          | none => simp [hframe] at h
          | some total =>
              simp only [hframe, Except.ok.injEq] at h
              subst h
              exact ⟨hsides.1, hsides.2, hresolve, total, hframe⟩
        · intro h
          cases hresolve.symm.trans h.resolves
          obtain ⟨total, hframe⟩ := h.frame
          simp [hframe]

/-- A size without pixels does not pass. -/
theorem check_eq_error_of_empty {allocator : Allocator σ} {code : Int32} {size : Size}
    (h : size.width = 0 ∨ size.height = 0) :
    allocator.check code size = .error size.invalid := by
  have hempty : size.isEmpty = true := by simpa [Size.isEmpty] using h
  rw [check, if_pos hempty]

/-! ## Ends -/

/-- A request that passed the checks and was granted with a handle, which was opened. -/
structure Granted (allocator : Allocator σ) (code : Int32) (size : Size) (usage : Usage)
    (client : Client σ) where
  resolved : Resolved
  offer : Offer
  stride : UInt32
  /-- The state of the service after the grant. -/
  state : σ
  reports : List Event
  handle : Handle
  /-- The platform after the handle was opened. -/
  opened : Platform
  checked : allocator.check code size = .ok resolved
  answered : allocator.service.allocate (request code size usage) client.service =
    (.ok ⟨some offer, stride⟩, state, reports)
  accepted : client.world.platform.accept offer = (handle, opened)

namespace Granted

variable {allocator : Allocator σ} {code : Int32} {size : Size} {usage : Usage}
  {client : Client σ}

/-- What was granted is determined by the request and the client. -/
theorem eq (granted other : Granted allocator code size usage client) : granted = other := by
  obtain ⟨resolved, offer, stride, state, reports, handle, opened, checked, answered, accepted⟩ :=
    granted
  obtain ⟨resolved', offer', stride', state', reports', handle', opened', checked', answered',
    accepted'⟩ := other
  cases checked.symm.trans checked'
  cases answered.symm.trans answered'
  cases accepted.symm.trans accepted'
  rfl

/-- The buffer of a granted handle with the given planes. -/
def buffer (granted : Granted allocator code size usage client) (planes : List Plane) : Buffer :=
  ⟨planes, granted.handle, granted.resolved.format, granted.resolved.geometry, size,
    granted.stride, usage⟩

/-- The events up to the grant. -/
def events (granted : Granted allocator code size usage client) : List Event :=
  .requesting code size usage :: granted.reports

/-- The calls up to the grant. -/
def calls (granted : Granted allocator code size usage client) : List Call :=
  [.request (request code size usage), .issue granted.handle]

/-- A granted handle holds new descriptors. -/
theorem opens (granted : Granted allocator code size usage client) :
    client.world.platform.Opened granted.opened granted.handle.descriptors := by
  have hopened := client.world.platform.accept_opened granted.offer
  rwa [granted.accepted] at hopened

/-- What happens up to the grant replays before what happens after it. -/
theorem replays (granted : Granted allocator code size usage client) {events : List Event}
    {calls : List Call} {final : σ}
    (rest : allocator.service.Replays granted.state events calls final) :
    allocator.service.Replays client.service (granted.events ++ events) (granted.calls ++ calls)
      final :=
  .logged _ (.granted granted.answered granted.accepted rest)

end Granted

/-- The event after the handle of a buffer was given back. -/
def returnEvent : Except Status Unit → Event
  | .ok () => .freed
  | .error status => .notFreed status

/-- The events after a handle without descriptors was given back. -/
def rejectEvents : Except Status Unit → List Event
  | .ok () => []
  | .error status => [.unusableNotFreed status]

/-- The ways in which an allocation ends, with the client in the end. -/
inductive Allocates (allocator : Allocator σ) (code : Int32) (size : Size) (usage : Usage)
    (client : Client σ) : Except Failure Buffer → Client σ → Prop
  /-- The request is not even made. -/
  | rejected {failure : Failure} (checked : allocator.check code size = .error failure) :
      Allocates allocator code size usage client (.error failure) client
  /-- The service refuses. -/
  | refused {resolved : Resolved} {status : Status} {state : σ} {reports : List Event}
      (checked : allocator.check code size = .ok resolved)
      (answered : allocator.service.allocate (request code size usage) client.service =
        (.error status, state, reports)) :
      Allocates allocator code size usage client (.error (.allocationFailed status))
        (client.later client.world.platform state
          (.requesting code size usage :: reports ++ [.refused status])
          [.request (request code size usage)])
  /-- The service grants nothing. -/
  | withoutHandle {resolved : Resolved} {stride : UInt32} {state : σ} {reports : List Event}
      (checked : allocator.check code size = .ok resolved)
      (answered : allocator.service.allocate (request code size usage) client.service =
        (.ok ⟨none, stride⟩, state, reports)) :
      Allocates allocator code size usage client (.error .invalidHandle)
        (client.later client.world.platform state
          (.requesting code size usage :: reports ++ [.noHandle])
          [.request (request code size usage)])
  /-- The handle has no descriptors and goes back. -/
  | unusable (granted : Granted allocator code size usage client) {answer : Except Status Unit}
      {state : σ} {reports : List Event} (without : granted.handle.descriptors = [])
      (returned : allocator.service.free granted.handle granted.state = (answer, state, reports)) :
      Allocates allocator code size usage client (.error .invalidHandle)
        (client.later (granted.opened.closeHandle granted.handle) state
          (granted.events ++ (.noDescriptors granted.handle :: reports ++ rejectEvents answer))
          (granted.calls ++ [.free granted.handle answer]))
  /-- The handle does not hold the planes and goes back. -/
  | mismatched (granted : Granted allocator code size usage client) {failure : Failure}
      {after : Platform} {search : List Event} {answer : Except Status Unit} {state : σ}
      {reports : List Event} (usable : granted.handle.descriptors ≠ [])
      (finds : granted.handle.Finds granted.resolved.geometry size granted.opened (.error failure)
        after)
      (quiet : ∀ event ∈ search, event.level = .debug)
      (returned : allocator.service.free granted.handle granted.state = (answer, state, reports)) :
      Allocates allocator code size usage client (.error failure)
        (client.later (after.closeHandle granted.handle) state
          (granted.events ++ search ++ (.freeing granted.handle :: reports ++ [returnEvent answer]))
          (granted.calls ++ [.free granted.handle answer]))
  /-- The planes are found, and the buffer keeps the handle. -/
  | found (granted : Granted allocator code size usage client) {planes : List Plane}
      {after : Platform} {search : List Event} (usable : granted.handle.descriptors ≠ [])
      (finds : granted.handle.Finds granted.resolved.geometry size granted.opened (.ok planes)
        after)
      (quiet : ∀ event ∈ search, event.level = .debug) :
      Allocates allocator code size usage client (.ok (granted.buffer planes))
        (client.later after granted.state (granted.events ++ search) granted.calls)

variable {allocator : Allocator σ} {code : Int32} {size : Size} {usage : Usage}
  {answer : Except Status Unit} {state : σ} {reports : List Event}

/-! ## Giving handles back -/

/-- The handle of a buffer is given back, closed and logged. -/
theorem returnHandle_eq (client : Client σ) {handle : Handle}
    (h : allocator.service.free handle client.service = (answer, state, reports)) :
    allocator.returnHandle handle client = ((),
      client.later (client.world.platform.closeHandle handle) state
        (.freeing handle :: reports ++ [returnEvent answer]) [.free handle answer]) := by
  have hfree := Client.free_eq
    (client.later client.world.platform client.service [.freeing handle] []) h
  cases answer <;> simp [returnHandle, hfree, returnEvent]

/-- Giving back the handle of a buffer replays. -/
theorem replays_returned {service : Service σ} {before : σ} {handle : Handle}
    (h : service.free handle before = (answer, state, reports)) :
    service.Replays before (.freeing handle :: reports ++ [returnEvent answer])
      [.free handle answer] state :=
  .logged _ (.freed h (.log ..))

/-- A handle without descriptors is given back and logged. -/
theorem rejectHandle_eq (client : Client σ) {handle : Handle}
    (h : allocator.service.free handle client.service = (answer, state, reports)) :
    allocator.rejectHandle handle client = ((),
      client.later (client.world.platform.closeHandle handle) state
        (.noDescriptors handle :: reports ++ rejectEvents answer) [.free handle answer]) := by
  have hfree := Client.free_eq
    (client.later client.world.platform client.service [.noDescriptors handle] []) h
  cases answer <;> simp [rejectHandle, hfree, rejectEvents]

/-- A buffer that is dropped lets go of its planes and gives its handle back. -/
theorem drop_eq (client : Client σ) {buffer : Buffer}
    (h : allocator.service.free buffer.handle client.service = (answer, state, reports)) :
    allocator.drop buffer client = ((),
      client.later ((client.world.platform.releasePlanes buffer.planes).closeHandle buffer.handle)
        state (.freeing buffer.handle :: reports ++ [returnEvent answer])
        [.free buffer.handle answer]) := by
  have hreturn := returnHandle_eq
    (client.later (client.world.platform.releasePlanes buffer.planes) client.service [] []) h
  simp [drop, hreturn]

/-! ## Requesting a handle -/

section

variable (client : Client σ)

/-- The service refuses. -/
theorem requestHandle_refused {status : Status}
    (h : allocator.service.allocate (request code size usage) client.service =
      (.error status, state, reports)) :
    allocator.requestHandle code size usage client = (.error (.allocationFailed status),
      client.later client.world.platform state
        (.requesting code size usage :: reports ++ [.refused status])
        [.request (request code size usage)]) := by
  have hrequest := Client.request_refused
    (client.later client.world.platform client.service [.requesting code size usage] []) h
  simp [requestHandle, hrequest]

/-- The service grants nothing. -/
theorem requestHandle_without_handle {stride : UInt32}
    (h : allocator.service.allocate (request code size usage) client.service =
      (.ok ⟨none, stride⟩, state, reports)) :
    allocator.requestHandle code size usage client = (.error .invalidHandle,
      client.later client.world.platform state
        (.requesting code size usage :: reports ++ [.noHandle])
        [.request (request code size usage)]) := by
  have hrequest := Client.request_without_handle
    (client.later client.world.platform client.service [.requesting code size usage] []) h
  simp [requestHandle, hrequest]

/-- A granted handle without descriptors goes back at once. -/
theorem requestHandle_unusable (granted : Granted allocator code size usage client)
    (without : granted.handle.descriptors = [])
    (h : allocator.service.free granted.handle granted.state = (answer, state, reports)) :
    allocator.requestHandle code size usage client = (.error .invalidHandle,
      client.later (granted.opened.closeHandle granted.handle) state
        (granted.events ++ (.noDescriptors granted.handle :: reports ++ rejectEvents answer))
        (granted.calls ++ [.free granted.handle answer])) := by
  have hrequest := Client.request_granted
    (client.later client.world.platform client.service [.requesting code size usage] [])
    granted.answered granted.accepted
  have hreject := rejectHandle_eq
    (client.later granted.opened granted.state granted.events granted.calls) h
  simp only [requestHandle, bind_apply, Client.inWorld_log, hrequest, Client.later_later,
    List.nil_append, List.singleton_append, without, List.isEmpty_nil, if_true, pure_apply]
  rw [show Event.requesting code size usage :: granted.reports = granted.events from rfl,
    show [Call.request (request code size usage), .issue granted.handle] = granted.calls from rfl,
    hreject]
  simp

/-- A granted handle with descriptors is answered. -/
theorem requestHandle_granted (granted : Granted allocator code size usage client)
    (usable : granted.handle.descriptors ≠ []) :
    allocator.requestHandle code size usage client = (.ok (granted.handle, granted.stride),
      client.later granted.opened granted.state granted.events granted.calls) := by
  have hrequest := Client.request_granted
    (client.later client.world.platform client.service [.requesting code size usage] [])
    granted.answered granted.accepted
  simp [requestHandle, hrequest, usable, Granted.events, Granted.calls]

end

/-! ## Allocating -/

/-- A search for planes changes the platform and logs events for debugging, and asks the service
nothing. -/
theorem inWorld_findPlanes (client : Client σ) {handle : Handle} (geometry : FormatGeometry)
    (size : Size) (hold : ∀ descriptor ∈ handle.descriptors,
      descriptor.number < client.world.platform.descriptors.size) :
    ∃ result after search,
      Client.inWorld (handle.findPlanes geometry size) client =
          (result, client.later after client.service search []) ∧
        handle.Finds geometry size client.world.platform result after ∧
        ∀ event ∈ search, event.level = .debug := by
  obtain ⟨⟨search, hlog, hquiet⟩, hfinds⟩ :=
    @Handle.findPlanes_finds handle geometry size client.world hold
  refine ⟨_, _, search, ?_, hfinds, hquiet⟩
  rw [Client.later, ← hlog, Array.append_empty]
  rfl

/-- An allocation ends in one of the listed ways. -/
theorem allocate_allocates (allocator : Allocator σ) (code : Int32) (size : Size) (usage : Usage)
    (client : Client σ) :
    allocator.Allocates code size usage client (allocator.allocate code size usage client).1
      (allocator.allocate code size usage client).2 := by
  unfold allocate
  cases hcheck : allocator.check code size with
  | error failure => exact .rejected hcheck
  | ok resolved =>
      rcases hanswer : allocator.service.allocate (request code size usage) client.service with
        ⟨_ | ⟨_ | offer, stride⟩, state, reports⟩
      · simp only [bind_apply, requestHandle_refused client hanswer]
        exact .refused hcheck hanswer
      · simp only [bind_apply, requestHandle_without_handle client hanswer]
        exact .withoutHandle hcheck hanswer
      -- from here on the handle is open and goes back unless its planes are found
      · obtain ⟨granted, rfl⟩ : ∃ granted : Granted allocator code size usage client,
            granted.resolved = resolved :=
          ⟨⟨resolved, offer, stride, state, reports, _, _, hcheck, hanswer, rfl⟩, rfl⟩
        rcases hreturned : allocator.service.free granted.handle granted.state with
          ⟨answer, returned, events⟩
        by_cases husable : granted.handle.descriptors = []
        · simp only [bind_apply, requestHandle_unusable client granted husable hreturned]
          exact .unusable granted husable hreturned
        · obtain ⟨result, after, search, hfind, hfinds, hquiet⟩ := inWorld_findPlanes
            (client.later granted.opened granted.state granted.events granted.calls)
            granted.resolved.geometry size fun descriptor hm => (granted.opens.number_bounds hm).2
          simp only [bind_apply, requestHandle_granted client granted husable, hfind,
            Client.later_later, List.append_nil, Client.later_service]
          cases result with
          | error failure =>
              have hreturn := returnHandle_eq
                (client.later after granted.state (granted.events ++ search) granted.calls)
                hreturned
              simp only [bind_apply, hreturn, Client.later_later, Client.later_platform, pure_apply]
              exact .mismatched granted husable hfinds hquiet hreturned
          | ok planes => exact .found granted husable hfinds hquiet

/-! ## Ends that are known in advance -/

namespace Allocates

variable {client after : Client σ} {result : Except Failure Buffer}

/-- What an allocation adds to the log and to the calls replays. -/
theorem replayed (h : allocator.Allocates code size usage client result after) :
    client.Replayed allocator.service after := by
  cases h with
  | rejected => exact .refl _ _
  | refused _ answered => exact .later (.logged _ (.refused answered (.log ..))) _
  | withoutHandle _ answered => exact .later (.logged _ (.withoutHandle answered (.log ..))) _
  | unusable granted _ returned =>
      exact .later (granted.replays (.logged _ (.freed returned (.log ..)))) _
  | mismatched granted _ _ _ returned =>
      rw [List.append_assoc]
      exact .later (granted.replays (.append (.log ..) (replays_returned returned))) _
  | found granted => exact .later (granted.replays (.log ..)) _

/-- A request fails the check and nothing happens, or it was accepted. -/
theorem rejected_or_accepted (h : allocator.Allocates code size usage client result after) :
    (∃ failure, allocator.check code size = .error failure ∧ result = .error failure ∧
      after = client) ∨ ∃ resolved, allocator.Accepts code size resolved := by
  cases h with
  | rejected checked => exact .inl ⟨_, checked, rfl, rfl⟩
  | refused checked => exact .inr ⟨_, check_eq_ok_iff.mp checked⟩
  | withoutHandle checked => exact .inr ⟨_, check_eq_ok_iff.mp checked⟩
  | unusable granted => exact .inr ⟨_, check_eq_ok_iff.mp granted.checked⟩
  | mismatched granted => exact .inr ⟨_, check_eq_ok_iff.mp granted.checked⟩
  | found granted => exact .inr ⟨_, check_eq_ok_iff.mp granted.checked⟩

/-- A request that fails the check ends in the failure of the check. -/
theorem eq_of_check_error {failure : Failure}
    (h : allocator.Allocates code size usage client result after)
    (hcheck : allocator.check code size = .error failure) : result = .error failure := by
  rcases h.rejected_or_accepted with ⟨other, hother, hresult, -⟩ | ⟨resolved, haccepts⟩
  · cases hother.symm.trans hcheck
    exact hresult
  · cases hcheck.symm.trans (check_eq_ok_iff.mpr haccepts)

/-- A request that is not accepted changes nothing. -/
theorem eq_of_not_accepts (h : allocator.Allocates code size usage client result after)
    (haccepts : ∀ resolved, ¬ allocator.Accepts code size resolved) : after = client := by
  rcases h.rejected_or_accepted with ⟨_, _, _, heq⟩ | ⟨resolved, haccepted⟩
  · exact heq
  · exact absurd haccepted (haccepts resolved)

/-- A request that passes the check and is refused ends in the refusal. -/
theorem eq_of_refused {resolved : Resolved} {status : Status}
    (h : allocator.Allocates code size usage client result after)
    (hcheck : allocator.check code size = .ok resolved)
    (hanswer : allocator.service.allocate (request code size usage) client.service =
      (.error status, state, reports)) : result = .error (.allocationFailed status) := by
  cases h with
  | rejected checked => cases checked.symm.trans hcheck
  | refused _ answered => cases answered.symm.trans hanswer; rfl
  | withoutHandle _ answered => cases answered.symm.trans hanswer
  | unusable granted => cases granted.answered.symm.trans hanswer
  | mismatched granted => cases granted.answered.symm.trans hanswer
  | found granted => cases granted.answered.symm.trans hanswer

/-- A request that is granted with descriptors ends as the search for its planes does, and when
planes are found nothing happens after the search. -/
theorem finds_of_granted (h : allocator.Allocates code size usage client result after)
    (granted : Granted allocator code size usage client)
    (usable : granted.handle.descriptors ≠ []) :
    ∃ found later, result = found.map granted.buffer ∧
      granted.handle.Finds granted.resolved.geometry size granted.opened found later ∧
      ∀ planes, found = .ok planes → later = after.world.platform := by
  cases h with
  | rejected checked => cases checked.symm.trans granted.checked
  | refused _ answered => cases answered.symm.trans granted.answered
  | withoutHandle _ answered => cases answered.symm.trans granted.answered
  | unusable other without =>
      rw [other.eq granted] at without
      exact absurd without usable
  | mismatched other _ finds =>
      rw [other.eq granted] at finds
      exact ⟨_, _, rfl, finds, by simp⟩
  | found other _ finds =>
      obtain rfl := other.eq granted
      exact ⟨_, _, rfl, finds, fun _ _ => rfl⟩

/-- A request that is granted without descriptors fails, whatever is answered to the handle. -/
theorem eq_of_unusable (h : allocator.Allocates code size usage client result after)
    (granted : Granted allocator code size usage client)
    (without : granted.handle.descriptors = []) : result = .error .invalidHandle := by
  cases h with
  | rejected checked => cases checked.symm.trans granted.checked
  | refused _ answered => cases answered.symm.trans granted.answered
  | withoutHandle _ answered => rfl
  | unusable => rfl
  | mismatched other usable =>
      rw [other.eq granted] at usable
      exact absurd without usable
  | found other usable =>
      rw [other.eq granted] at usable
      exact absurd without usable

/-- A request that is granted with descriptors fails as the search for its planes does, whatever is
answered to the handle. -/
theorem eq_of_findPlanes_error {failure : Failure} {log : Array Event}
    (h : allocator.Allocates code size usage client result after)
    (granted : Granted allocator code size usage client)
    (usable : granted.handle.descriptors ≠ [])
    (hfailed : (granted.handle.findPlanes granted.resolved.geometry size
      ⟨granted.opened, log⟩).1 = .error failure) : result = .error failure := by
  obtain ⟨found, later, hresult, hfinds, -⟩ := h.finds_of_granted granted usable
  have hsearch := (@Handle.findPlanes_finds granted.handle granted.resolved.geometry size
    ⟨granted.opened, log⟩ fun _ hm => (granted.opens.number_bounds hm).2).2
  rw [hfailed] at hsearch
  cases hsearch with
  | failed decided =>
      rw [hresult, hfinds.eq_error decided]
      rfl

end Allocates

end Allocator

end PixelBuffer
