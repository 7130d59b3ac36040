import PixelBuffer.Proofs.Allocator.Outcome
import PixelBuffer.Session

/-!
# What an action does to a session

`Session.Performs` lists what an action can do, each time with the session after it, and
`Session.perform_performs` shows that it does nothing else. What holds throughout a session is
proved from these cases, and then by induction on the actions; here it is that the service was asked
what the calls say, and answered it (`Session.performAll_replayed`).
-/

namespace PixelBuffer

namespace Session

variable {σ : Type}

/-- What an action does: its outcome, and the session after it. -/
inductive Performs (allocator : Allocator σ) (session : Session σ) :
    Action → Outcome → Session σ → Prop
  /-- A buffer takes a new slot. -/
  | allocated {code : Int32} {size : Size} {usage : Usage} {buffer : Buffer} {client : Client σ}
      (ends : allocator.Allocates code size usage session.client (.ok buffer) client) :
      Performs allocator session (.allocate code size usage)
        (.allocated session.buffers.size buffer)
        { session with client := client, buffers := session.buffers.push (some buffer) }
  /-- No buffer comes of a request. -/
  | failed {code : Int32} {size : Size} {usage : Usage} {failure : Failure} {client : Client σ}
      (ends : allocator.Allocates code size usage session.client (.error failure) client) :
      Performs allocator session (.allocate code size usage) (.failed failure)
        { session with client := client }
  /-- A buffer lets go of its planes and gives its handle back. -/
  | dropped {slot : Nat} {buffer : Buffer} {answer : Except Status Unit} {state : σ}
      {reports : List Event} (present : session.buffer? slot = some buffer)
      (returned : allocator.service.free buffer.handle session.client.service =
        (answer, state, reports)) :
      Performs allocator session (.drop slot) .dropped
        { session with
          client := session.client.later
            ((session.client.world.platform.releasePlanes buffer.planes).closeHandle buffer.handle)
            state (.freeing buffer.handle :: reports ++ [Allocator.returnEvent answer])
            [.free buffer.handle answer]
          buffers := session.buffers.setIfInBounds slot none }
  /-- There is no buffer to drop. -/
  | notDropped {slot : Nat} (absent : session.buffer? slot = none) :
      Performs allocator session (.drop slot) .noSlot session
  /-- The planes of a buffer get one owner more. -/
  | cloned {slot : Nat} {buffer : Buffer} (present : session.buffer? slot = some buffer) :
      Performs allocator session (.keep slot) (.kept (session.kept ++ buffer.planes).length)
        { session with
          client := session.client.later
            (session.client.world.platform.retainPlanes buffer.planes)
            session.client.service [] []
          kept := session.kept ++ buffer.planes }
  /-- There is no buffer to clone planes of. -/
  | notCloned {slot : Nat} (absent : session.buffer? slot = none) :
      Performs allocator session (.keep slot) .noSlot session
  /-- All cloned planes are let go. -/
  | forgotten :
      Performs allocator session .forget .forgotten
        { session with
          client := session.client.later
            (session.client.world.platform.releasePlanes session.kept)
            session.client.service [] []
          kept := [] }

/-- An action does what is listed. -/
theorem perform_performs (allocator : Allocator σ) (session : Session σ) (action : Action) :
    session.Performs allocator action (session.perform allocator action).1
      (session.perform allocator action).2 := by
  cases action with
  | allocate code size usage =>
      have hends := allocator.allocate_allocates code size usage session.client
      rw [perform]
      generalize allocator.allocate code size usage session.client = ended at hends
      obtain ⟨result, client⟩ := ended
      cases result with
      | error failure => exact .failed hends
      | ok buffer => exact .allocated hends
  | drop slot =>
      rw [perform]
      cases hslot : session.buffer? slot with
      | none => exact .notDropped hslot
      | some buffer =>
          simp only [Allocator.drop_eq session.client rfl]
          exact .dropped hslot rfl
  | keep slot =>
      rw [perform]
      cases hslot : session.buffer? slot with
      | none => exact .notCloned hslot
      | some buffer =>
          simp only [changePlatform, Client.inWorld_changePlatform]
          exact .cloned hslot
  | forget =>
      simp only [perform, changePlatform, Client.inWorld_changePlatform]
      exact .forgotten

/-- What an action adds to the log and to the calls replays. -/
theorem Performs.replayed {allocator : Allocator σ} {session after : Session σ} {action : Action}
    {outcome : Outcome} (h : session.Performs allocator action outcome after) :
    session.client.Replayed allocator.service after.client := by
  cases h with
  | allocated ends => exact ends.replayed
  | failed ends => exact ends.replayed
  | dropped _ returned => exact .later (Allocator.replays_returned returned) _
  | notDropped => exact .refl _ _
  | cloned => exact .later (.nil _) _
  | notCloned => exact .refl _ _
  | forgotten => exact .later (.nil _) _

/-- What any actions add to the log and to the calls replays. -/
theorem performAll_replayed (allocator : Allocator σ) (session : Session σ)
    (actions : List Action) :
    session.client.Replayed allocator.service (session.performAll allocator actions).2.client := by
  induction actions generalizing session with
  | nil => exact .refl _ _
  | cons action rest ih =>
      have hfirst := (session.perform_performs allocator action).replayed
      exact hfirst.trans (ih (session.perform allocator action).2)

/-- What the end of a session adds to the log and to the calls replays. -/
theorem close_replayed (allocator : Allocator σ) (session : Session σ) :
    session.client.Replayed allocator.service (session.close allocator).client :=
  performAll_replayed allocator session _

end Session

end PixelBuffer
