import PixelBuffer.Proofs.Allocator.Requests
import PixelBuffer.Proofs.Service.Packer
import PixelBuffer.Proofs.Session.Step
import PixelBuffer.Service.Script

/-!
# Failures are reported once

Each failure of the platform is one error in the log: a request that the service refuses, a grant
without a usable handle, and a handle that is not taken back. What a service reports itself is never
an error (`Service.NeverErrs`); one that packs planes warns once of each request that it refuses
(`Service.WarnsOnce`), before the allocator reports the error.

The ways in which an allocation ends are listed with their events (`Allocator.Allocates`), so that
errors are counted case by case: `Allocates.reported` for an allocation, `Session.Performs.tallied`
for an action, and by induction for whole sessions.
-/

namespace PixelBuffer

/-! ## What is counted -/

namespace Event

/-- The event is an error. -/
def isError (event : Event) : Bool :=
  event.level = .error

/-- The event is a warning. -/
def isWarning (event : Event) : Bool :=
  event.level = .warn

/-- The event is a warning or an error. -/
def isAlarm (event : Event) : Bool :=
  event.isWarning || event.isError

variable {events : List Event}

/-- Events without alarms have no errors. -/
theorem errors_of_alarms (h : ∀ event ∈ events.filter isAlarm, event.isWarning) :
    events.countP isError = 0 := by
  rw [List.countP_eq_zero]
  intro event hm herror
  have hwarning := h event (List.mem_filter.mpr ⟨hm, by simp [isAlarm, herror]⟩)
  simp only [isError, isWarning, decide_eq_true_eq] at herror hwarning
  cases herror.symm.trans hwarning

/-- Events for debugging are no alarms. -/
theorem alarms_of_debug (h : ∀ event ∈ events, event.level = .debug) :
    events.filter isAlarm = [] := by
  rw [List.filter_eq_nil_iff]
  intro event hm
  simp [isAlarm, isWarning, isError, h event hm]

/-- The warnings are among the alarms. -/
theorem countP_isWarning_alarms (events : List Event) :
    (events.filter isAlarm).countP isWarning = events.countP isWarning := by
  rw [List.countP_filter]
  refine List.countP_congr fun event _ => ?_
  simp only [isAlarm, Bool.and_eq_true, Bool.or_eq_true]
  exact ⟨And.left, fun h => ⟨h, .inl h⟩⟩

/-- Events without alarms have no warnings. -/
theorem warnings_of_alarms (h : events.filter isAlarm = []) : events.countP isWarning = 0 := by
  rw [← countP_isWarning_alarms, h]
  rfl

/-- Errors are reported by the allocator and by buffers only. -/
theorem component_of_isError {event : Event} (h : event.isError) :
    event.component = .allocator ∨ event.component = .buffer := by
  cases event with
  | refused | noHandle | noDescriptors | unusableNotFreed => exact .inl rfl
  | notFreed => exact .inr rfl
  | _ => simp [isError, level] at h

end Event

/-- A handle was given back that the service did not take. -/
def Call.isFailedFree : Call → Bool
  | .free _ (.error _) => true
  | _ => false

namespace Outcome

/-- The service refused the request of an allocation. -/
def isRefused : Outcome → Bool
  | .failed (.allocationFailed _) => true
  | _ => false

/-- The service granted no usable handle to an allocation. -/
def isWithoutHandle : Outcome → Bool
  | .failed .invalidHandle => true
  | _ => false

end Outcome

open Event (isError isWarning isAlarm)

/-! ## What a service reports itself -/

/-- What a service reports are no errors. -/
structure Service.NeverErrs {σ : Type} (service : Service σ) : Prop where
  allocate : ∀ {request state answer after reports},
    service.allocate request state = (answer, after, reports) → reports.countP isError = 0
  free : ∀ {handle state answer after reports},
    service.free handle state = (answer, after, reports) → reports.countP isError = 0

/-- A service reports a request that it refuses with one warning, and warns of nothing else. -/
structure Service.WarnsOnce {σ : Type} (service : Service σ) : Prop where
  refused : ∀ {request state status after reports},
    service.allocate request state = (.error status, after, reports) →
      ∃ warning : Event, warning.isWarning ∧ reports.filter isAlarm = [warning]
  granted : ∀ {request state grant after reports},
    service.allocate request state = (.ok grant, after, reports) → reports.filter isAlarm = []
  freed : ∀ {handle state answer after reports},
    service.free handle state = (answer, after, reports) → reports.filter isAlarm = []

/-- A service that only warns reports no errors. -/
theorem Service.WarnsOnce.neverErrs {σ : Type} {service : Service σ} (h : service.WarnsOnce) :
    service.NeverErrs where
  allocate {request state answer after reports} hanswer := by
    refine Event.errors_of_alarms fun event hm => ?_
    cases answer with
    | error status =>
        obtain ⟨warning, hwarning, halarms⟩ := h.refused hanswer
        rw [halarms, List.mem_singleton] at hm
        exact hm ▸ hwarning
    | ok grant =>
        rw [h.granted hanswer] at hm
        cases hm
  free hanswer := by
    refine Event.errors_of_alarms fun event hm => ?_
    rw [h.freed hanswer] at hm
    cases hm

/-- A service that follows a script reports nothing. -/
theorem scriptedService_neverErrs : scriptedService.NeverErrs where
  allocate {request state answer after reports} hanswer := by
    simp only [scriptedService, Script.allocate] at hanswer
    split at hanswer <;> cases hanswer <;> rfl
  free hanswer := by
    cases hanswer
    rfl

/-- A reservation warns once if it fails, and of nothing if it does not. -/
structure Reserver.WarnsOnce (reserve : Reserver) : Prop where
  refused : ∀ {bytes status reports}, reserve bytes = (.error status, reports) →
    ∃ warning : Event, warning.isWarning ∧ reports.filter isAlarm = [warning]
  reserved : ∀ {bytes length reports}, reserve bytes = (.ok length, reports) →
    reports.filter isAlarm = []

/-- Memory files are reserved with one warning at most. -/
theorem reserveMemory_warnsOnce (name : String) : (reserveMemory name).WarnsOnce where
  refused {bytes status reports} h := by
    unfold reserveMemory at h
    split at h
    · cases h
    · cases h
      exact ⟨_, rfl, rfl⟩
  reserved {bytes length reports} h := by
    unfold reserveMemory at h
    split at h
    · cases h
      rfl
    · cases h

/-- Memory of heaps is reserved with one warning at most. -/
theorem HeapDevices.reserve_warnsOnce (devices : HeapDevices) (heap : HeapKind) :
    Reserver.WarnsOnce (devices.reserve heap) where
  refused {bytes status reports} h := by
    unfold HeapDevices.reserve at h
    split at h
    · cases h
      exact ⟨_, rfl, rfl⟩
    · split at h
      · cases h
        exact ⟨_, rfl, rfl⟩
      · cases h
  reserved {bytes length reports} h := by
    unfold HeapDevices.reserve at h
    split at h
    · cases h
    · split at h
      · cases h
      · cases h
        rfl

namespace Packer

/-- A request that is not accepted is warned of. -/
theorem prepare_error_warns {packer : Packer} {request : Request} {status : Status}
    {reports : List Event} (h : packer.prepare request = .error (status, reports)) :
    ∃ warning : Event, warning.isWarning ∧ reports.filter isAlarm = [warning] := by
  unfold prepare at h
  split at h
  · cases h
    exact ⟨_, rfl, rfl⟩
  split at h
  · cases h
    exact ⟨_, rfl, rfl⟩
  split at h
  · cases h
    exact ⟨_, rfl, rfl⟩
  rename_i geometry hgeometry
  split at h
  · -- no format has more planes than a block has slots
    rename_i hslots
    have hfew := (FormatGeometry.planeCount_of_ofFormat? hgeometry).2
    unfold vendorSlots at hslots
    omega
  split at h
  · cases h
    exact ⟨_, rfl, rfl⟩
  · cases h

end Packer

/-- A packing service warns once of each request that it refuses, if its reservations do. -/
theorem packingService_warnsOnce {reserve : Request → Reserver}
    (hreserve : ∀ request, (reserve request).WarnsOnce) : (packingService reserve).WarnsOnce where
  refused {request packer status after reports} h := by
    simp only [packingService, Packer.allocate_eq] at h
    rcases hprepare : packer.prepare request with ⟨cause, causes⟩ | ⟨format, layout⟩
    · rw [hprepare] at h
      cases h
      exact Packer.prepare_error_warns hprepare
    · simp only [hprepare] at h
      rcases hreserved : reserve request layout.total with ⟨cause | length, causes⟩
      · rw [hreserved] at h
        cases h
        exact (hreserve request).refused hreserved
      · rw [hreserved] at h
        cases h
  granted {request packer grant after reports} h := by
    simp only [packingService, Packer.allocate_eq] at h
    rcases hprepare : packer.prepare request with ⟨cause, causes⟩ | ⟨format, layout⟩
    · rw [hprepare] at h
      cases h
    · simp only [hprepare] at h
      rcases hreserved : reserve request layout.total with ⟨cause | length, causes⟩
      · rw [hreserved] at h
        cases h
      · rw [hreserved] at h
        cases h
        rw [List.filter_append, (hreserve request).reserved hreserved]
        rfl
  freed h := by
    cases h
    rfl

/-- The service of anonymous memory warns once of each request that it refuses. -/
theorem memoryService_warnsOnce : memoryService.WarnsOnce :=
  packingService_warnsOnce fun request => reserveMemory_warnsOnce request.requestor

/-- The service of a heap warns once of each request that it refuses. -/
theorem HeapDevices.service_warnsOnce (devices : HeapDevices) (heap : HeapKind) :
    (devices.service heap).WarnsOnce :=
  packingService_warnsOnce fun _ => devices.reserve_warnsOnce heap

/-! ## Counting what was added -/

namespace Client.Adds

variable {σ : Type} {before after : Client σ} {events : List Event} {passed : List Call}

/-- How many events of a kind there are in the end. -/
theorem countP_log (h : before.Adds after events passed) (kind : Event → Bool) :
    after.world.log.countP kind = before.world.log.countP kind + events.countP kind := by
  simp [h.log_eq]

/-- How many calls of a kind there are in the end. -/
theorem countP_calls (h : before.Adds after events passed) (kind : Call → Bool) :
    after.calls.countP kind = before.calls.countP kind + passed.countP kind := by
  simp [h.calls_eq]

end Client.Adds

/-! ## One allocation -/

namespace Allocator

variable {σ : Type} {allocator : Allocator σ} {code : Int32} {size : Size} {usage : Usage}
  {client after : Client σ} {result : Except Failure Buffer}

/-- What is reported about an allocation that passed some calls. A refusal and a missing handle are
an error, and so is each handle that the service did not take back; what is wrong with size or code
is not reported at all. -/
def Reported (result : Except Failure Buffer) (events : List Event) (passed : List Call) : Prop :=
  match result with
  | .error (.allocationFailed _) | .error .invalidHandle =>
      events.countP isError = 1 + passed.countP Call.isFailedFree
  | .error (.invalidSize _ _) | .error (.unsupportedFormat _) => events = [] ∧ passed = []
  | .error (.layout _) | .error (.io _) | .ok _ =>
      events.countP isError = passed.countP Call.isFailedFree
  | .error (.freeFailed _) => False

/-- The event after the handle of a buffer was given back is an error if it was not taken. -/
theorem countP_returnEvent (handle : Handle) (answer : Except Status Unit) :
    [returnEvent answer].countP isError = [Call.free handle answer].countP Call.isFailedFree := by
  cases answer <;> rfl

/-- The events after a handle without descriptors was given back are one error if it was not
taken. -/
theorem countP_rejectEvents (handle : Handle) (answer : Except Status Unit) :
    (rejectEvents answer).countP isError = [Call.free handle answer].countP Call.isFailedFree := by
  cases answer <;> rfl

/-- The failure of a check is reported nowhere. -/
theorem reported_of_check {failure : Failure} (h : allocator.check code size = .error failure) :
    Reported (.error failure) [] [] := by
  unfold check at h
  split at h
  · cases h
    exact ⟨rfl, rfl⟩
  split at h
  · rename_i hresolve
    cases h
    rw [(Resolver.resolve_eq_error hresolve).1]
    exact ⟨rfl, rfl⟩
  split at h
  · cases h
    exact ⟨rfl, rfl⟩
  · cases h

/-- A failure for the planes is reported by the handle that is not taken back, if it is not. -/
theorem reported_ofPlanes {failure : Failure} {events : List Event} {passed : List Call}
    (hfailure : failure.OfPlanes)
    (h : events.countP isError = passed.countP Call.isFailedFree) :
    Reported (.error failure) events passed := by
  cases failure with
  | layout fault => exact h
  | io fault => exact h
  | invalidSize | unsupportedFormat | allocationFailed | invalidHandle | freeFailed =>
      exact hfailure.elim

/-- An allocation reports each failure of the platform once, whatever the service answers. -/
theorem Allocates.reported (h : allocator.Allocates code size usage client result after)
    (hservice : allocator.service.NeverErrs) :
    ∃ events passed, client.Adds after events passed ∧ Reported result events passed := by
  cases h with
  | rejected checked => exact ⟨[], [], .refl _, reported_of_check checked⟩
  | refused _ answered =>
      refine ⟨_, _, .later .., ?_⟩
      simp [Reported, hservice.allocate answered, isError, Event.level, Call.isFailedFree]
  | withoutHandle _ answered =>
      refine ⟨_, _, .later .., ?_⟩
      simp [Reported, hservice.allocate answered, isError, Event.level, Call.isFailedFree]
  | @unusable granted answer _ _ _ returned =>
      refine ⟨_, _, .later .., ?_⟩
      have hreject := countP_rejectEvents granted.handle answer
      simp only [Reported, Granted.events, Granted.calls, List.countP_append, List.countP_cons,
        hservice.allocate granted.answered, hservice.free returned, hreject]
      simp [isError, Event.level, Call.isFailedFree]
  | @mismatched granted failure _ search answer _ _ _ finds quiet returned =>
      obtain ⟨_, hframe⟩ := (check_eq_ok_iff.mp granted.checked).frame
      refine ⟨_, _, .later .., reported_ofPlanes (finds_ofPlanes hframe finds) ?_⟩
      have hsearch : search.countP isError = 0 :=
        Event.errors_of_alarms (by simp [Event.alarms_of_debug quiet])
      have hreturn := countP_returnEvent granted.handle answer
      simp only [Granted.events, Granted.calls, List.countP_append, List.countP_cons,
        hservice.allocate granted.answered, hservice.free returned, hsearch, hreturn]
      simp [isError, Event.level, Call.isFailedFree]
  | @found granted _ _ search _ _ quiet =>
      refine ⟨_, _, .later .., ?_⟩
      have hsearch : search.countP isError = 0 :=
        Event.errors_of_alarms (by simp [Event.alarms_of_debug quiet])
      simp [Reported, Granted.events, Granted.calls, hservice.allocate granted.answered, hsearch,
        isError, Event.level, Call.isFailedFree]

/-- What is warned of in an allocation: a refusal, once and before the error, and nothing else. -/
def Warned (result : Except Failure Buffer) (events : List Event) : Prop :=
  match result with
  | .error (.allocationFailed status) => ∃ warning : Event, warning.isWarning ∧
      events.filter isAlarm = [warning, .refused status]
  | _ => events.countP isWarning = 0

/-- A failure for the planes is not warned of. -/
theorem warned_ofPlanes {failure : Failure} {events : List Event} (hfailure : failure.OfPlanes)
    (h : events.countP isWarning = 0) : Warned (.error failure) events := by
  cases failure with
  | layout fault => exact h
  | io fault => exact h
  | invalidSize | unsupportedFormat | allocationFailed | invalidHandle | freeFailed =>
      exact hfailure.elim

/-- A failure that is reported nowhere is not warned of. -/
theorem Reported.warned {failure : Failure} (h : Reported (.error failure) [] []) :
    Warned (.error failure) [] := by
  cases failure with
  | allocationFailed status => cases h
  | invalidSize | unsupportedFormat | invalidHandle | layout | freeFailed | io => exact rfl

/-- An allocation with a service that warns once warns of a refusal only. -/
theorem Allocates.warned (h : allocator.Allocates code size usage client result after)
    (hservice : allocator.service.WarnsOnce) :
    ∃ events passed, client.Adds after events passed ∧ Warned result events := by
  cases h with
  | rejected checked => exact ⟨[], [], .refl _, (reported_of_check checked).warned⟩
  | refused _ answered =>
      obtain ⟨warning, hwarning, halarms⟩ := hservice.refused answered
      refine ⟨_, _, .later .., warning, hwarning, ?_⟩
      rw [List.filter_append, List.filter_cons_of_neg (Bool.false_ne_true), halarms]
      rfl
  | withoutHandle _ answered =>
      have hgranted := Event.warnings_of_alarms (hservice.granted answered)
      exact ⟨_, _, .later .., by simp [Warned, hgranted, isWarning, Event.level]⟩
  | @unusable granted answer _ _ _ returned =>
      have hgranted := Event.warnings_of_alarms (hservice.granted granted.answered)
      have hfreed := Event.warnings_of_alarms (hservice.freed returned)
      have hreject : (rejectEvents answer).countP isWarning = 0 := by cases answer <;> rfl
      exact ⟨_, _, .later .., by
        simp [Warned, Granted.events, hgranted, hfreed, hreject, isWarning, Event.level]⟩
  | @mismatched granted failure _ search answer _ _ _ finds quiet returned =>
      obtain ⟨_, hframe⟩ := (check_eq_ok_iff.mp granted.checked).frame
      have hgranted := Event.warnings_of_alarms (hservice.granted granted.answered)
      have hfreed := Event.warnings_of_alarms (hservice.freed returned)
      have hsearch := Event.warnings_of_alarms (Event.alarms_of_debug quiet)
      have hreturn : [returnEvent answer].countP isWarning = 0 := by cases answer <;> rfl
      refine ⟨_, _, .later .., warned_ofPlanes (finds_ofPlanes hframe finds) ?_⟩
      simp only [Granted.events, List.countP_append, List.countP_cons, hgranted, hfreed, hsearch,
        hreturn]
      simp [isWarning, Event.level]
  | @found granted _ _ search _ _ quiet =>
      have hgranted := Event.warnings_of_alarms (hservice.granted granted.answered)
      have hsearch := Event.warnings_of_alarms (Event.alarms_of_debug quiet)
      exact ⟨_, _, .later .., by
        simp [Warned, Granted.events, hgranted, hsearch, isWarning, Event.level]⟩

/-- One warning is given of a refusal, and none of anything else. -/
theorem Warned.countP {failure : Failure} {events : List Event}
    (h : Warned (.error failure) events) :
    events.countP isWarning = [Outcome.failed failure].countP Outcome.isRefused := by
  cases failure with
  | allocationFailed status =>
      obtain ⟨warning, hwarning, halarms⟩ := h
      rw [← Event.countP_isWarning_alarms, halarms, List.countP_cons_of_pos hwarning]
      rfl
  | invalidSize | unsupportedFormat | invalidHandle | layout | freeFailed | io => exact h

end Allocator

/-! ## Whole sessions -/

namespace Session

variable {σ : Type} {allocator : Allocator σ} {session after : Session σ} {action : Action}
  {outcome : Outcome}

/-- There are as many errors among events as refusals and missing handles among outcomes and handles
among calls that were not taken back. -/
def Tallied (outcomes : List Outcome) (events : List Event) (passed : List Call) : Prop :=
  events.countP isError = outcomes.countP Outcome.isRefused +
    outcomes.countP Outcome.isWithoutHandle + passed.countP Call.isFailedFree

/-- What is reported about a failed allocation tallies. -/
theorem tallied_failed {failure : Failure} {events : List Event} {passed : List Call}
    (h : Allocator.Reported (.error failure) events passed) :
    Tallied [.failed failure] events passed := by
  cases failure with
  | allocationFailed | invalidHandle => exact h
  | invalidSize | unsupportedFormat =>
      obtain ⟨rfl, rfl⟩ := h
      rfl
  | layout | io => exact h.trans (Nat.zero_add _).symm
  | freeFailed => exact h.elim

/-- One outcome after another. -/
theorem Tallied.append {outcomes more : List Outcome} {events events' : List Event}
    {passed passed' : List Call} (h : Tallied outcomes events passed)
    (hmore : Tallied more events' passed') :
    Tallied (outcomes ++ more) (events ++ events') (passed ++ passed') := by
  unfold Tallied at h hmore ⊢
  simp only [List.countP_append, h, hmore]
  omega

/-- Each action reports the failures of the platform that occur in it. -/
theorem Performs.tallied (h : session.Performs allocator action outcome after)
    (hservice : allocator.service.NeverErrs) :
    ∃ events passed, session.client.Adds after.client events passed ∧
      Tallied [outcome] events passed := by
  cases h with
  | allocated ends =>
      obtain ⟨events, passed, hadds, hreported⟩ := ends.reported hservice
      exact ⟨events, passed, hadds, hreported.trans (Nat.zero_add _).symm⟩
  | failed ends =>
      obtain ⟨events, passed, hadds, hreported⟩ := ends.reported hservice
      exact ⟨events, passed, hadds, tallied_failed hreported⟩
  | @dropped _ buffer answer _ _ _ returned =>
      refine ⟨_, _, .later .., ?_⟩
      have hreturn := Allocator.countP_returnEvent buffer.handle answer
      simp only [Tallied, List.countP_append, List.countP_cons, hservice.free returned, hreturn]
      simp [isError, Event.level, Outcome.isRefused, Outcome.isWithoutHandle]
  | notDropped => exact ⟨[], [], .refl _, rfl⟩
  | cloned => exact ⟨[], [], .later .., rfl⟩
  | notCloned => exact ⟨[], [], .refl _, rfl⟩
  | forgotten => exact ⟨[], [], .later .., rfl⟩

/-- Any actions report the failures of the platform that occur in them. -/
theorem performAll_tallied (hservice : allocator.service.NeverErrs) (session : Session σ)
    (actions : List Action) :
    ∃ events passed,
      session.client.Adds (session.performAll allocator actions).2.client events passed ∧
      Tallied (session.performAll allocator actions).1 events passed := by
  induction actions generalizing session with
  | nil => exact ⟨[], [], .refl _, rfl⟩
  | cons action rest ih =>
      obtain ⟨events, passed, hadds, htallied⟩ :=
        (session.perform_performs allocator action).tallied hservice
      obtain ⟨more, others, hmore, hrest⟩ := ih (session.perform allocator action).2
      exact ⟨events ++ more, passed ++ others, hadds.trans hmore, htallied.append hrest⟩

/-- Each action with a service that warns once warns as often as the service refuses. -/
theorem Performs.warned (h : session.Performs allocator action outcome after)
    (hservice : allocator.service.WarnsOnce) :
    ∃ events passed, session.client.Adds after.client events passed ∧
      events.countP isWarning = [outcome].countP Outcome.isRefused := by
  cases h with
  | allocated ends => exact ends.warned hservice
  | failed ends =>
      obtain ⟨events, passed, hadds, hwarned⟩ := ends.warned hservice
      exact ⟨events, passed, hadds, hwarned.countP⟩
  | @dropped _ buffer answer _ _ _ returned =>
      have hfreed := Event.warnings_of_alarms (hservice.freed returned)
      have hreturn : [Allocator.returnEvent answer].countP isWarning = 0 := by
        cases answer <;> rfl
      refine ⟨_, _, .later .., ?_⟩
      simp only [List.countP_append, List.countP_cons, hfreed, hreturn]
      simp [isWarning, Event.level, Outcome.isRefused]
  | notDropped => exact ⟨[], [], .refl _, rfl⟩
  | cloned => exact ⟨[], [], .later .., rfl⟩
  | notCloned => exact ⟨[], [], .refl _, rfl⟩
  | forgotten => exact ⟨[], [], .later .., rfl⟩

/-- Any actions with a service that warns once warn as often as the service refuses. -/
theorem performAll_warned (hservice : allocator.service.WarnsOnce) (session : Session σ)
    (actions : List Action) :
    (session.performAll allocator actions).2.client.world.log.countP isWarning =
      session.client.world.log.countP isWarning +
        (session.performAll allocator actions).1.countP Outcome.isRefused := by
  induction actions generalizing session with
  | nil => rfl
  | cons action rest ih =>
      obtain ⟨events, passed, hadds, hwarned⟩ :=
        (session.perform_performs allocator action).warned hservice
      have hrest := ih (session.perform allocator action).2
      rw [hadds.countP_log, hwarned, Nat.add_assoc, ← List.countP_append] at hrest
      exact hrest

/-- What an allocator reports in a session from a world on. -/
structure ReportsOnce (allocator : Allocator σ) (world : World) (service : σ)
    (actions : List Action) : Prop where
  /-- There is one error for each refusal, for each missing handle, and for each handle that was not
  taken back. -/
  total :
    let run := Session.performAll allocator { client := { world := world, service := service } }
      actions
    run.2.client.world.log.countP isError =
      world.log.countP isError + run.1.countP Outcome.isRefused +
        run.1.countP Outcome.isWithoutHandle + run.2.client.calls.countP Call.isFailedFree
  /-- So there is in each action. -/
  action : ∀ (session : Session σ) (action : Action), ∃ events passed,
    session.client.Adds (session.perform allocator action).2.client events passed ∧
      Tallied [(session.perform allocator action).1] events passed
  /-- A failure for size or code is not reported, and one for the planes only with the handle. -/
  allocation : ∀ (code : Int32) (size : Size) (usage : Usage) (client : Client σ),
    ∃ events passed, client.Adds (allocator.allocate code size usage client).2 events passed ∧
      Allocator.Reported (allocator.allocate code size usage client).1 events passed
  /-- The calls that are counted are what the service was asked and answered. -/
  replayed : ∀ (session : Session σ) (actions : List Action),
    session.client.Replayed allocator.service (session.performAll allocator actions).2.client

/-- What a service warns of in a session from a world on. -/
structure WarnsOnce (allocator : Allocator σ) (world : World) (service : σ)
    (actions : List Action) : Prop where
  /-- There is one warning for each refusal. -/
  total :
    let run := Session.performAll allocator { client := { world := world, service := service } }
      actions
    run.2.client.world.log.countP isWarning =
      world.log.countP isWarning + run.1.countP Outcome.isRefused
  /-- It comes before the error. -/
  allocation : ∀ (code : Int32) (size : Size) (usage : Usage) (client : Client σ),
    ∃ events passed, client.Adds (allocator.allocate code size usage client).2 events passed ∧
      Allocator.Warned (allocator.allocate code size usage client).1 events
  /-- The service gives it for any request that it refuses, and for nothing else. -/
  service : allocator.service.WarnsOnce

/-- An allocator reports once, if the service has no errors of its own. -/
theorem reportsOnce (hservice : allocator.service.NeverErrs) (world : World) (service : σ)
    (actions : List Action) : ReportsOnce allocator world service actions where
  total := by
    obtain ⟨events, passed, hadds, htallied⟩ := performAll_tallied hservice
      { client := { world := world, service := service } } actions
    dsimp only
    rw [hadds.countP_log, hadds.countP_calls, htallied]
    simp only [Array.countP_empty]
    omega
  action session action := (session.perform_performs allocator action).tallied hservice
  allocation code size usage client :=
    (allocator.allocate_allocates code size usage client).reported hservice
  replayed := performAll_replayed allocator

/-- A session warns once, if the service does. -/
theorem warnsOnce (hservice : allocator.service.WarnsOnce) (world : World) (service : σ)
    (actions : List Action) : WarnsOnce allocator world service actions where
  total := performAll_warned hservice _ actions
  allocation code size usage client :=
    (allocator.allocate_allocates code size usage client).warned hservice
  service := hservice

/-- In any session, each failure of the platform is one error: there are as many errors as
allocations that the service refused, allocations that it granted without a usable handle, and
handles that it did not take back, in total and in each action; the calls that are counted are what
the service was asked and answered. A failure for size or code is not reported; one for the planes
of a handle is an error only if the handle is not taken back. Errors are reported by the allocator
and by buffers only. The services of anonymous memory and of heaps warn once of each request that
they refuse, before the error, and of nothing else. -/
theorem performAll_reportsOnce (resolver : Resolver) (world : World) (actions : List Action) :
    (∀ script, ReportsOnce ⟨scriptedService, resolver⟩ world script actions) ∧
    (∀ packer, ReportsOnce ⟨memoryService, resolver⟩ world packer actions ∧
      WarnsOnce ⟨memoryService, resolver⟩ world packer actions) ∧
    (∀ (devices : HeapDevices) (heap : HeapKind) (packer : Packer),
      ReportsOnce ⟨devices.service heap, resolver⟩ world packer actions ∧
        WarnsOnce ⟨devices.service heap, resolver⟩ world packer actions) ∧
    ∀ event : Event, event.isError → event.component = .allocator ∨ event.component = .buffer := by
  refine ⟨fun script => ?scripted, fun packer => ⟨?memory, ?warned⟩,
    fun devices heap packer => ?heap, fun event => Event.component_of_isError⟩
  case scripted => exact reportsOnce scriptedService_neverErrs world script actions
  case memory => exact reportsOnce memoryService_warnsOnce.neverErrs world packer actions
  case warned => exact warnsOnce memoryService_warnsOnce world packer actions
  case heap =>
    have hservice := devices.service_warnsOnce heap
    exact ⟨reportsOnce hservice.neverErrs world packer actions,
      warnsOnce hservice world packer actions⟩

end Session

end PixelBuffer
