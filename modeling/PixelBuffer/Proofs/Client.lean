import Mathlib.Data.List.Perm.Basic
import PixelBuffer.Client

/-!
# What clients and services pass to each other

`Client.later` is a client after some time: its platform and the state of its service changed, and
some events and calls were added. Each thing that a client does is of this form, and two such
changes in a row are one.

`Call.outstanding?` replays calls as a ledger of handles: an issued handle is entered, and a handle
that is given back has to stand in the ledger and is crossed out once. So every handle that was
issued was given back or is still outstanding, each as often as it was issued
(`Call.outstanding?_perm`).

The calls are what a client recorded. `Service.Replays` asks the service again: it gives each answer
that was recorded, its reports are found in the log, and it ends in the state that the client left
it in. Between two times a client is `Client.Replayed` by its service when all that was added to the
log and to the calls replays in this way.
-/

namespace PixelBuffer

/-! ## A client after some time -/

namespace Client

variable {σ : Type}

/-- The client with another platform and state of the service, and with more events and calls. -/
def later (client : Client σ) (platform : Platform) (service : σ) (events : List Event)
    (calls : List Call) : Client σ where
  world := ⟨platform, client.world.log ++ events.toArray⟩
  service := service
  calls := client.calls ++ calls.toArray

section

variable (client : Client σ) (platform : Platform) (service : σ) (events : List Event)
  (calls : List Call)

@[simp] theorem later_platform :
    (client.later platform service events calls).world.platform = platform := rfl

@[simp] theorem later_log :
    (client.later platform service events calls).world.log =
      client.world.log ++ events.toArray := rfl

@[simp] theorem later_service : (client.later platform service events calls).service = service :=
  rfl

@[simp] theorem later_calls :
    (client.later platform service events calls).calls = client.calls ++ calls.toArray := rfl

/-- Two changes in a row are one. -/
@[simp] theorem later_later (platform' : Platform) (service' : σ) (events' : List Event)
    (calls' : List Call) :
    (client.later platform service events calls).later platform' service' events' calls' =
      client.later platform' service' (events ++ events') (calls ++ calls') := by
  simp [later]

end

/-- A question changes the state of the service and logs what it reports. -/
theorem ask_eq {α : Type} (client : Client σ) {question : σ → α × σ × List Event} {answer : α}
    {state : σ} {events : List Event} (h : question client.service = (answer, state, events)) :
    ask question client = (answer, client.later client.world.platform state events []) := by
  simp [ask, h, later]

@[simp] theorem record_apply (call : Call) (client : Client σ) :
    record call client =
      ((), client.later client.world.platform client.service [] [call]) := by
  simp [record, later]

@[simp] theorem inWorld_log (event : Event) (client : Client σ) :
    inWorld (Act.log event) client =
      ((), client.later client.world.platform client.service [event] []) := by
  simp [inWorld, later]

@[simp] theorem inWorld_changePlatform (change : Platform → Platform) (client : Client σ) :
    inWorld (Act.changePlatform change) client =
      ((), client.later (change client.world.platform) client.service [] []) := by
  simp [inWorld, later]

@[simp] theorem inWorld_onPlatform {α : Type} (action : Platform → α × Platform)
    (client : Client σ) :
    inWorld (Act.onPlatform action) client = ((action client.world.platform).1,
      client.later (action client.world.platform).2 client.service [] []) := by
  simp [inWorld, later]

/-- A handle that is given back is closed, whatever the service answers. -/
theorem free_eq (client : Client σ) {service : Service σ} {handle : Handle}
    {answer : Except Status Unit} {state : σ} {events : List Event}
    (h : service.free handle client.service = (answer, state, events)) :
    free service handle client = (answer,
      client.later (client.world.platform.closeHandle handle) state events
        [.free handle answer]) := by
  simp [free, ask_eq client h]

section Request

variable {service : Service σ} {request : Request} {state : σ} {events : List Event}

/-- What is asked once the request is recorded. -/
theorem asked (client : Client σ) {answer : Except Status Grant}
    (h : service.allocate request client.service = (answer, state, events)) :
    ask (service.allocate request)
        (client.later client.world.platform client.service [] [.request request]) =
      (answer, client.later client.world.platform state events [.request request]) := by
  rw [ask_eq (client.later client.world.platform client.service [] [.request request]) h]
  simp

/-- A request that is refused. -/
theorem request_refused (client : Client σ) {status : Status}
    (h : service.allocate request client.service = (.error status, state, events)) :
    Client.request service request client = (.error status,
      client.later client.world.platform state events [.request request]) := by
  simp [Client.request, asked client h]

/-- A request that is granted without a handle. -/
theorem request_without_handle (client : Client σ) {stride : UInt32}
    (h : service.allocate request client.service = (.ok ⟨none, stride⟩, state, events)) :
    Client.request service request client = (.ok (none, stride),
      client.later client.world.platform state events [.request request]) := by
  simp [Client.request, asked client h]

/-- A request that is granted with a handle, which is opened. -/
theorem request_granted (client : Client σ) {offer : Offer} {stride : UInt32} {handle : Handle}
    {opened : Platform}
    (h : service.allocate request client.service = (.ok ⟨some offer, stride⟩, state, events))
    (haccept : client.world.platform.accept offer = (handle, opened)) :
    Client.request service request client = (.ok (some handle, stride),
      client.later opened state events [.request request, .issue handle]) := by
  simp [Client.request, asked client h, haccept]

end Request

end Client

/-! ## The ledger of handles -/

namespace Call

/-- The handle that a call issues. -/
def issued? : Call → Option Handle
  | .issue handle => some handle
  | _ => none

/-- The handle that a call gives back. -/
def freed? : Call → Option Handle
  | .free handle _ => some handle
  | _ => none

/-- The handles issued by calls, in order. -/
def issued (calls : Array Call) : List Handle :=
  calls.toList.filterMap issued?

/-- The handles given back by calls, in order. -/
def freed (calls : Array Call) : List Handle :=
  calls.toList.filterMap freed?

/-- The handles that are outstanding after calls, if every handle that is given back was outstanding
at the time. -/
def outstanding? (ledger : List Handle) : List Call → Option (List Handle)
  | [] => some ledger
  | .request _ :: rest => outstanding? ledger rest
  | .issue handle :: rest => outstanding? (ledger ++ [handle]) rest
  | .free handle _ :: rest =>
      if handle ∈ ledger then outstanding? (ledger.erase handle) rest else none

/-- Calls are replayed in any number of parts. -/
theorem outstanding?_append (ledger : List Handle) (calls more : List Call) :
    outstanding? ledger (calls ++ more) =
      (outstanding? ledger calls).bind fun ledger => outstanding? ledger more := by
  induction calls generalizing ledger with
  | nil => rfl
  | cons call calls ih =>
      cases call with
      | request => exact ih ledger
      | issue handle => exact ih (ledger ++ [handle])
      | free handle answer =>
          show ite _ _ _ = Option.bind (ite _ _ _) _
          split
          · exact ih (ledger.erase handle)
          · rfl

/-- Handles are conserved: what was in the ledger or was issued is what was given back or is
outstanding. -/
theorem outstanding?_perm {ledger left : List Handle} {calls : List Call}
    (h : outstanding? ledger calls = some left) :
    (ledger ++ calls.filterMap issued?).Perm (calls.filterMap freed? ++ left) := by
  induction calls generalizing ledger with
  | nil =>
      cases h
      simp
  | cons call calls ih =>
      cases call with
      | request => exact ih h
      | issue handle =>
          have hrest := ih h
          rw [List.append_assoc] at hrest
          exact hrest
      | free handle answer =>
          rw [outstanding?] at h
          split at h
          · rename_i hm
            -- what is crossed out of the ledger is counted among what was given back
            have hrest := (ih h).cons handle
            have hledger := (List.perm_cons_erase hm).append_right (calls.filterMap issued?)
            exact hledger.trans hrest
          · cases h

end Call

/-! ## Asking again -/

namespace Client

variable {σ : Type}

/-- A client after more events and calls. -/
structure Adds (before after : Client σ) (events : List Event) (passed : List Call) : Prop where
  log_eq : after.world.log = before.world.log ++ events.toArray
  calls_eq : after.calls = before.calls ++ passed.toArray

namespace Adds

variable {before now after : Client σ} {events more : List Event} {passed others : List Call}

/-- Nothing was added. -/
theorem refl (client : Client σ) : client.Adds client [] [] :=
  ⟨by simp, by simp⟩

/-- What a change of a client says. -/
theorem later (client : Client σ) (platform : Platform) (service : σ) (events : List Event)
    (passed : List Call) :
    client.Adds (client.later platform service events passed) events passed :=
  ⟨rfl, rfl⟩

/-- One addition after another. -/
theorem trans (h : before.Adds now events passed) (hmore : now.Adds after more others) :
    before.Adds after (events ++ more) (passed ++ others) where
  log_eq := by simp [hmore.log_eq, h.log_eq]
  calls_eq := by simp [hmore.calls_eq, h.calls_eq]

end Adds

end Client

namespace Service

variable {σ : Type} {service : Service σ} {state next final : σ} {events more : List Event}
  {calls others : List Call}

/-- Asked again what was recorded, in that order, the service gives the recorded answers on the way
from one state to another, and its reports are among the events, each at its time. A handle is
issued right after the request it was granted for, and holds what was offered. -/
inductive Replays (service : Service σ) : σ → List Event → List Call → σ → Prop
  | nil (state : σ) : Replays service state [] [] state
  /-- The service did not report the event. -/
  | logged {state final : σ} {events : List Event} {calls : List Call} (event : Event)
      (rest : Replays service state events calls final) :
      Replays service state (event :: events) calls final
  /-- A request is refused. -/
  | refused {request : Request} {status : Status} {state next final : σ}
      {reports events : List Event} {calls : List Call}
      (answered : service.allocate request state = (.error status, next, reports))
      (rest : Replays service next events calls final) :
      Replays service state (reports ++ events) (.request request :: calls) final
  /-- A request is granted without a handle. -/
  | withoutHandle {request : Request} {stride : UInt32} {state next final : σ}
      {reports events : List Event} {calls : List Call}
      (answered : service.allocate request state = (.ok ⟨none, stride⟩, next, reports))
      (rest : Replays service next events calls final) :
      Replays service state (reports ++ events) (.request request :: calls) final
  /-- A request is granted, and the offer is opened. -/
  | granted {request : Request} {offer : Offer} {stride : UInt32} {handle : Handle}
      {platform opened : Platform} {state next final : σ} {reports events : List Event}
      {calls : List Call}
      (answered : service.allocate request state = (.ok ⟨some offer, stride⟩, next, reports))
      (accepted : platform.accept offer = (handle, opened))
      (rest : Replays service next events calls final) :
      Replays service state (reports ++ events) (.request request :: .issue handle :: calls) final
  /-- A handle is given back. -/
  | freed {handle : Handle} {answer : Except Status Unit} {state next final : σ}
      {reports events : List Event} {calls : List Call}
      (answered : service.free handle state = (answer, next, reports))
      (rest : Replays service next events calls final) :
      Replays service state (reports ++ events) (.free handle answer :: calls) final

namespace Replays

/-- What replays up to a state, and what replays from there on, replay together. -/
theorem append (h : service.Replays state events calls next)
    (hmore : service.Replays next more others final) :
    service.Replays state (events ++ more) (calls ++ others) final := by
  induction h with
  | nil => exact hmore
  | logged event _ ih => exact .logged event (ih hmore)
  | refused answered _ ih =>
      rw [List.append_assoc]
      exact .refused answered (ih hmore)
  | withoutHandle answered _ ih =>
      rw [List.append_assoc]
      exact .withoutHandle answered (ih hmore)
  | granted answered accepted _ ih =>
      rw [List.append_assoc]
      exact .granted answered accepted (ih hmore)
  | freed answered _ ih =>
      rw [List.append_assoc]
      exact .freed answered (ih hmore)

/-- Events that the service did not report replay. -/
theorem log (service : Service σ) (state : σ) (events : List Event) :
    service.Replays state events [] state := by
  induction events with
  | nil => exact .nil state
  | cons event rest ih => exact .logged event ih

end Replays

end Service

namespace Client

variable {σ : Type} {service : Service σ} {before now after : Client σ}

/-- What a client added to the log and to the calls, up to a later time, replays between the states
of the service. -/
def Replayed (before : Client σ) (service : Service σ) (after : Client σ) : Prop :=
  ∃ events passed, before.Adds after events passed ∧
    service.Replays before.service events passed after.service

namespace Replayed

/-- Nothing was added. -/
theorem refl (client : Client σ) (service : Service σ) : client.Replayed service client :=
  ⟨[], [], .refl client, .nil _⟩

/-- What a change of a client says. -/
theorem later {state : σ} {events : List Event} {passed : List Call}
    (h : service.Replays before.service events passed state) (platform : Platform) :
    before.Replayed service (before.later platform state events passed) :=
  ⟨events, passed, .later .., h⟩

/-- One time after another. -/
theorem trans (h : before.Replayed service now) (hnow : now.Replayed service after) :
    before.Replayed service after := by
  obtain ⟨events, passed, hadds, hreplays⟩ := h
  obtain ⟨more, others, hmore, hrest⟩ := hnow
  exact ⟨events ++ more, passed ++ others, hadds.trans hmore, hreplays.append hrest⟩

end Replayed

end Client

end PixelBuffer
