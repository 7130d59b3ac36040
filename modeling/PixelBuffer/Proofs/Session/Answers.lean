import PixelBuffer.Proofs.Session.Step
import PixelBuffer.Proofs.World
import PixelBuffer.Service.Script

/-!
# Handles that a service does not take back

What a service answers when a handle is given back reaches the log and nothing else. Two clients
`Agree` when they differ at most in such answers: in the record of them and in the events that tell
them. `Client.Alike` compares two programs by what they make of clients that agree; a program that
gives a handle back is alike for any two answers, and so are allocations, drops and, by induction on
the actions, whole sessions. `Session.performAll_answers` states this for two scripts that differ in
how they take handles back.
-/

namespace PixelBuffer

/-! ## What an answer to a free reaches -/

/-- The event tells whether a service took a handle back. -/
def Event.tellsAnswer : Event → Bool
  | .freed | .notFreed _ | .unusableNotFreed _ => true
  | _ => false

/-- The events of a log that do not tell whether handles were taken back. -/
def World.untold (world : World) : List Event :=
  world.log.toList.filter fun event => !event.tellsAnswer

/-- What was passed, without the answer of the service to a handle that came back. -/
def Call.withoutAnswer : Call → Call
  | .free handle _ => .free handle (.ok ())
  | call => call

/-- Two services are alike in states that correspond: they answer requests alike, report alike, and
go on to states that correspond. How they answer a handle that comes back is left open. -/
structure Service.Alike {σ τ : Type} (service : Service σ) (other : Service τ)
    (states : σ → τ → Prop) : Prop where
  grant_eq : ∀ request s t, states s t →
    (service.allocate request s).1 = (other.allocate request t).1
  granted : ∀ request s t, states s t →
    states (service.allocate request s).2.1 (other.allocate request t).2.1
  grant_reports : ∀ request s t, states s t →
    (service.allocate request s).2.2 = (other.allocate request t).2.2
  freed : ∀ handle s t, states s t →
    states (service.free handle s).2.1 (other.free handle t).2.1
  free_reports : ∀ handle s t, states s t →
    (service.free handle s).2.2 = (other.free handle t).2.2

/-- Scripts with the same replies are alike, however they take handles back. -/
theorem scriptedService_alike : scriptedService.Alike scriptedService
    fun script other => script.replies = other.replies where
  grant_eq request s t h := by
    simp only [scriptedService, Script.allocate, h]
    split <;> rfl
  granted request s t h := by
    simp only [scriptedService, Script.allocate, h]
    split <;> rfl
  grant_reports request s t h := by
    simp only [scriptedService, Script.allocate, h]
    split <;> rfl
  freed _ _ _ h := h
  free_reports _ _ _ _ := rfl

namespace Client

variable {σ τ : Type}

/-- Two clients differ at most in how handles that were given back were answered. -/
structure Agree (states : σ → τ → Prop) (client : Client σ) (other : Client τ) : Prop where
  platform_eq : client.world.platform = other.world.platform
  untold_eq : client.world.untold = other.world.untold
  service : states client.service other.service
  calls_eq : client.calls.map Call.withoutAnswer = other.calls.map Call.withoutAnswer

/-- Two programs take clients that agree to clients that agree, with answers that correspond. -/
def Alike (states : σ → τ → Prop) {α β : Type} (answers : α → β → Prop)
    (program : StateM (Client σ) α) (other : StateM (Client τ) β) : Prop :=
  ∀ client client', Agree states client client' →
    answers (program client).1 (other client').1 ∧
      Agree states (program client).2 (other client').2

variable {states : σ → τ → Prop}

namespace Alike

/-- Answers that correspond. -/
theorem pure {α β : Type} {answers : α → β → Prop} {value : α} {other : β}
    (h : answers value other) :
    Alike states answers (Pure.pure value) (Pure.pure other) :=
  fun _ _ hagree => ⟨h, hagree⟩

/-- Programs in sequence. -/
theorem bind {α β α' β' : Type} {answers : α → β → Prop} {results : α' → β' → Prop}
    {program : StateM (Client σ) α} {other : StateM (Client τ) β}
    {next : α → StateM (Client σ) α'} {next' : β → StateM (Client τ) β'}
    (h : Alike states answers program other)
    (hnext : ∀ value value', answers value value' →
      Alike states results (next value) (next' value')) :
    Alike states results (program >>= next) (other >>= next') := by
  intro client client' hagree
  obtain ⟨hanswer, hagree⟩ := h client client' hagree
  exact hnext _ _ hanswer _ _ hagree

/-- Something done in the world answers the same in both. -/
theorem inWorld {α : Type} {act : Act α} (hact : act.Appends) :
    Alike states Eq (Client.inWorld act) (Client.inWorld act) := by
  intro client client' hagree
  obtain ⟨effect, heffect⟩ := hact
  unfold Client.inWorld
  rw [heffect client.world, heffect client'.world, hagree.platform_eq]
  refine ⟨rfl, rfl, ?_, hagree.service, hagree.calls_eq⟩
  have huntold := hagree.untold_eq
  unfold World.untold at huntold ⊢
  simp only [Array.toList_append, List.filter_append, huntold]

/-- Events that tell an answer may differ. -/
theorem tell {event other : Event} (h : event.tellsAnswer = true)
    (hother : other.tellsAnswer = true) :
    Alike states Eq (Client.inWorld (Act.log event)) (Client.inWorld (Act.log other)) := by
  intro client client' hagree
  refine ⟨rfl, hagree.platform_eq, ?_, hagree.service, hagree.calls_eq⟩
  have huntold := hagree.untold_eq
  unfold World.untold at huntold ⊢
  simpa [Client.inWorld, h, hother] using huntold

/-- An event that tells an answer may be missing on one side. -/
theorem tell_left {event : Event} (h : event.tellsAnswer = true) :
    Alike states Eq (Client.inWorld (Act.log event)) (Pure.pure ()) := by
  intro client client' hagree
  refine ⟨rfl, hagree.platform_eq, ?_, hagree.service, hagree.calls_eq⟩
  have huntold := hagree.untold_eq
  unfold World.untold at huntold ⊢
  simpa [Client.inWorld, h] using huntold

/-- An event that tells an answer may be missing on the other side. -/
theorem tell_right {event : Event} (h : event.tellsAnswer = true) :
    Alike states Eq (Pure.pure ()) (Client.inWorld (Act.log event)) := by
  intro client client' hagree
  refine ⟨rfl, hagree.platform_eq, ?_, hagree.service, hagree.calls_eq⟩
  have huntold := hagree.untold_eq
  unfold World.untold at huntold ⊢
  simpa [Client.inWorld, h] using huntold

/-- Calls that differ at most in an answer. -/
theorem record {call other : Call} (h : call.withoutAnswer = other.withoutAnswer) :
    Alike states Eq (Client.record call) (Client.record other) := by
  intro client client' hagree
  refine ⟨rfl, hagree.platform_eq, hagree.untold_eq, hagree.service, ?_⟩
  simp [Client.record, hagree.calls_eq, h]

/-- Questions that are reported alike and lead to states that correspond. -/
theorem ask {α β : Type} {answers : α → β → Prop} {question : σ → α × σ × List Event}
    {other : τ → β × τ × List Event}
    (hanswer : ∀ s t, states s t → answers (question s).1 (other t).1)
    (hstates : ∀ s t, states s t → states (question s).2.1 (other t).2.1)
    (hreports : ∀ s t, states s t → (question s).2.2 = (other t).2.2) :
    Alike states answers (Client.ask question) (Client.ask other) := by
  intro client client' hagree
  refine ⟨hanswer _ _ hagree.service, hagree.platform_eq, ?_, hstates _ _ hagree.service,
    hagree.calls_eq⟩
  have huntold := hagree.untold_eq
  unfold World.untold at huntold ⊢
  simp only [Client.ask, Array.toList_append, List.filter_append, huntold,
    hreports _ _ hagree.service]

end Alike

variable {service : Service σ} {other : Service τ}

/-- Requests are answered the same. -/
theorem request_alike (h : service.Alike other states) (asked : Request) :
    Alike states Eq (Client.request service asked) (Client.request other asked) := by
  unfold Client.request
  refine (Alike.record rfl).bind fun _ _ _ => ?_
  refine (Alike.ask (h.grant_eq asked) (h.granted asked) (h.grant_reports asked)).bind ?_
  rintro answer _ rfl
  cases answer with
  | error status => exact .pure rfl
  | ok grant =>
      dsimp only
      cases grant.handle? with
      | none => exact .pure rfl
      | some offer =>
          refine (Alike.inWorld (Act.onPlatform_appends _)).bind ?_
          rintro handle _ rfl
          exact (Alike.record rfl).bind fun _ _ _ => .pure rfl

/-- A handle is given back alike, whatever the two answers are. -/
theorem free_alike (h : service.Alike other states) (handle : Handle) :
    Alike states (fun _ _ => True) (Client.free service handle) (Client.free other handle) := by
  unfold Client.free
  have hasked : Alike states (fun _ _ => True) (Client.ask (service.free handle))
      (Client.ask (other.free handle)) :=
    .ask (fun _ _ _ => trivial) (h.freed handle) (h.free_reports handle)
  refine hasked.bind fun answer answer' _ => ?_
  have hrecorded : Alike states Eq (Client.record (.free handle answer))
      (Client.record (.free handle answer')) := .record rfl
  refine hrecorded.bind fun _ _ _ =>
    (Alike.inWorld (Act.changePlatform_appends _)).bind fun _ _ _ => ?_
  exact fun _ _ hagree => ⟨trivial, hagree⟩

end Client

namespace Allocator

open Client (Alike)

variable {σ τ : Type} {states : σ → τ → Prop} {allocator : Allocator σ} {other : Allocator τ}

/-- The handle of a buffer is given back alike. -/
theorem returnHandle_alike (h : allocator.service.Alike other.service states) (handle : Handle) :
    Alike states Eq (allocator.returnHandle handle) (other.returnHandle handle) := by
  unfold returnHandle
  refine (Alike.inWorld (Act.log_appends _)).bind fun _ _ _ => ?_
  refine (Client.free_alike h handle).bind fun answer answer' _ => ?_
  cases answer <;> cases answer' <;> exact .tell rfl rfl

/-- A handle without descriptors is given back alike. -/
theorem rejectHandle_alike (h : allocator.service.Alike other.service states) (handle : Handle) :
    Alike states Eq (allocator.rejectHandle handle) (other.rejectHandle handle) := by
  unfold rejectHandle
  refine (Alike.inWorld (Act.log_appends _)).bind fun _ _ _ => ?_
  refine (Client.free_alike h handle).bind fun answer answer' _ => ?_
  cases answer with
  | ok _ =>
      cases answer' with
      | ok _ => exact .pure rfl
      | error status => exact .tell_right rfl
  | error status =>
      cases answer' with
      | ok _ => exact .tell_left rfl
      | error status => exact .tell rfl rfl

/-- Buffers are dropped alike. -/
theorem drop_alike (h : allocator.service.Alike other.service states) (buffer : Buffer) :
    Alike states Eq (allocator.drop buffer) (other.drop buffer) :=
  (Alike.inWorld (Act.changePlatform_appends _)).bind fun _ _ _ =>
    returnHandle_alike h buffer.handle

/-- Handles are requested alike. -/
theorem requestHandle_alike (h : allocator.service.Alike other.service states) (code : Int32)
    (size : Size) (usage : Usage) :
    Alike states Eq (allocator.requestHandle code size usage)
      (other.requestHandle code size usage) := by
  unfold requestHandle
  refine (Alike.inWorld (Act.log_appends _)).bind fun _ _ _ => ?_
  refine (Client.request_alike h _).bind ?_
  rintro answer _ rfl
  match answer with
  | .error status =>
      exact (Alike.inWorld (Act.log_appends _)).bind fun _ _ _ => .pure rfl
  | .ok (none, stride) =>
      exact (Alike.inWorld (Act.log_appends _)).bind fun _ _ _ => .pure rfl
  | .ok (some handle, stride) =>
      dsimp only
      split
      · exact (rejectHandle_alike h handle).bind fun _ _ _ => .pure rfl
      · exact .pure rfl

/-- Buffers are allocated alike. -/
theorem allocate_alike (h : allocator.service.Alike other.service states)
    (hresolver : allocator.resolver = other.resolver) (code : Int32) (size : Size)
    (usage : Usage) :
    Alike states Eq (allocator.allocate code size usage) (other.allocate code size usage) := by
  have hcheck : allocator.check code size = other.check code size := by
    unfold check
    rw [hresolver]
  unfold allocate
  rw [hcheck]
  cases other.check code size with
  | error failure => exact .pure rfl
  | ok resolved =>
      refine (requestHandle_alike h code size usage).bind ?_
      rintro requested _ rfl
      match requested with
      | .error failure => exact .pure rfl
      | .ok (handle, stride) =>
          refine (Alike.inWorld (handle.findPlanes_appends resolved.geometry size)).bind ?_
          rintro found _ rfl
          cases found with
          | error failure => exact (returnHandle_alike h handle).bind fun _ _ _ => .pure rfl
          | ok planes => exact .pure rfl

end Allocator

namespace Session

variable {σ τ : Type} {states : σ → τ → Prop} {allocator : Allocator σ} {other : Allocator τ}

/-- Two sessions differ at most in how handles that were given back were answered. -/
structure Agree (states : σ → τ → Prop) (session : Session σ) (other : Session τ) : Prop where
  client : session.client.Agree states other.client
  buffers_eq : session.buffers = other.buffers
  kept_eq : session.kept = other.kept

/-- An action has the same outcome in sessions that agree, and they agree afterwards. -/
theorem Agree.perform {session : Session σ} {session' : Session τ}
    (h : session.Agree states session') (hservice : allocator.service.Alike other.service states)
    (hresolver : allocator.resolver = other.resolver) (action : Action) :
    (session.perform allocator action).1 = (session'.perform other action).1 ∧
      (session.perform allocator action).2.Agree states (session'.perform other action).2 := by
  have hbuffer : ∀ slot, session.buffer? slot = session'.buffer? slot := by
    intro slot
    unfold buffer?
    rw [h.buffers_eq]
  have hchange : ∀ change : Platform → Platform,
      (Client.inWorld (Act.changePlatform change) session.client).2.Agree states
        (Client.inWorld (Act.changePlatform change) session'.client).2 := fun change =>
    (Client.Alike.inWorld (Act.changePlatform_appends change) _ _ h.client).2
  cases action with
  | allocate code size usage =>
      obtain ⟨hresult, hclient⟩ :=
        Allocator.allocate_alike hservice hresolver code size usage _ _ h.client
      simp only [Session.perform]
      generalize allocator.allocate code size usage session.client = ended at hresult hclient
      generalize other.allocate code size usage session'.client = ended' at hresult hclient
      obtain ⟨result, client⟩ := ended
      obtain ⟨_, client'⟩ := ended'
      obtain rfl : result = _ := hresult
      cases result with
      | error failure => exact ⟨rfl, hclient, h.buffers_eq, h.kept_eq⟩
      | ok buffer =>
          dsimp only
          rw [h.buffers_eq]
          exact ⟨rfl, hclient, rfl, h.kept_eq⟩
  | drop slot =>
      simp only [Session.perform, hbuffer]
      cases session'.buffer? slot with
      | none => exact ⟨rfl, h⟩
      | some buffer =>
          dsimp only
          rw [h.buffers_eq]
          exact ⟨rfl, (Allocator.drop_alike hservice buffer _ _ h.client).2, rfl, h.kept_eq⟩
  | keep slot =>
      simp only [Session.perform, hbuffer]
      cases session'.buffer? slot with
      | none => exact ⟨rfl, h⟩
      | some buffer =>
          dsimp only [Session.changePlatform]
          rw [h.kept_eq]
          exact ⟨rfl, hchange (·.retainPlanes buffer.planes), h.buffers_eq, rfl⟩
  | forget =>
      simp only [Session.perform, Session.changePlatform, h.kept_eq]
      exact ⟨trivial, hchange (·.releasePlanes session'.kept), h.buffers_eq, rfl⟩

/-- Any actions have the same outcomes, step by step, in sessions that agree. -/
theorem Agree.performAll {session : Session σ} {session' : Session τ}
    (h : session.Agree states session') (hservice : allocator.service.Alike other.service states)
    (hresolver : allocator.resolver = other.resolver) (actions : List Action) :
    (session.performAll allocator actions).1 = (session'.performAll other actions).1 ∧
      (session.performAll allocator actions).2.Agree states
        (session'.performAll other actions).2 := by
  induction actions generalizing session session' with
  | nil => exact ⟨rfl, h⟩
  | cons action rest ih =>
      obtain ⟨houtcome, hagree⟩ := h.perform hservice hresolver action
      obtain ⟨houtcomes, hrest⟩ := ih hagree
      exact ⟨congrArg₂ List.cons houtcome houtcomes, hrest⟩

/-- A new session with a service that follows a script. -/
def ofScript (world : World) (script : Script) : Session Script where
  client := { world := world, service := script }

/-- How handles are taken back reaches the log and nothing else. For any replies and any two lists
of answers to frees, any actions have the same outcomes, pass the same to the service and leave the
same platform, buffers and cloned planes; the logs differ at most in events that tell an answer. So
a handle without descriptors and a handle without the planes fail as they do when they are taken
back, after any actions. -/
theorem performAll_answers (resolver : Resolver) (world : World) (replies : List Reply)
    (answers answers' : List (Except Status Unit)) (actions : List Action) :
    let allocator : Allocator Script := ⟨scriptedService, resolver⟩
    let run := fun frees =>
      (ofScript world ⟨replies, frees⟩).performAll allocator actions
    (run answers).1 = (run answers').1 ∧
      (run answers).2.client.calls.map Call.withoutAnswer =
        (run answers').2.client.calls.map Call.withoutAnswer ∧
      (run answers).2.client.world.untold = (run answers').2.client.world.untold ∧
      (run answers).2.client.world.platform = (run answers').2.client.world.platform ∧
      (run answers).2.buffers = (run answers').2.buffers ∧
      (run answers).2.kept = (run answers').2.kept ∧
      ∀ code size usage
        (granted : Allocator.Granted allocator code size usage (run answers).2.client),
        (granted.handle.descriptors = [] →
          (allocator.allocate code size usage (run answers).2.client).1 =
            .error .invalidHandle) ∧
        ∀ failure log, granted.handle.descriptors ≠ [] →
          (granted.handle.findPlanes granted.resolved.geometry size ⟨granted.opened, log⟩).1 =
            .error failure →
          (allocator.allocate code size usage (run answers).2.client).1 = .error failure := by
  intro allocator run
  have hstart : (ofScript world ⟨replies, answers⟩).Agree
      (fun script other => script.replies = other.replies)
      (ofScript world ⟨replies, answers'⟩) := ⟨⟨rfl, rfl, rfl, rfl⟩, rfl, rfl⟩
  obtain ⟨houtcomes, hagree⟩ : (run answers).1 = (run answers').1 ∧
      (run answers).2.Agree (fun script other => script.replies = other.replies)
        (run answers').2 :=
    hstart.performAll scriptedService_alike rfl actions
  refine ⟨houtcomes, hagree.client.calls_eq, hagree.client.untold_eq, hagree.client.platform_eq,
    hagree.buffers_eq, hagree.kept_eq, ?_⟩
  intro code size usage granted
  have hends := allocator.allocate_allocates code size usage (run answers).2.client
  refine ⟨fun hwithout => hends.eq_of_unusable granted hwithout, ?_⟩
  intro failure log husable hfailed
  exact hends.eq_of_findPlanes_error granted husable hfailed

end Session

end PixelBuffer
