import PixelBuffer.Allocator

/-!
# Sessions

A session uses one allocator for a while. It keeps the buffers it allocated in slots that are never
used twice, and a list of planes that it cloned; a cloned plane stays usable after its buffer is
dropped.
-/

namespace PixelBuffer

/-- Something that changes a session. -/
inductive Action where
  /-- Allocates a buffer into a new slot. -/
  | allocate (code : Int32) (size : Size) (usage : Usage)
  /-- Drops the buffer in a slot. -/
  | drop (slot : Nat)
  /-- Clones the planes of the buffer in a slot. -/
  | keep (slot : Nat)
  /-- Drops all cloned planes. -/
  | forget

/-- What an action answers. -/
inductive Outcome where
  /-- A buffer was allocated into a slot. -/
  | allocated (slot : Nat) (buffer : Buffer)
  /-- No buffer was allocated. -/
  | failed (failure : Failure)
  /-- A buffer was dropped. -/
  | dropped
  /-- Planes were cloned; so many are kept now. -/
  | kept (count : Nat)
  /-- The cloned planes were dropped. -/
  | forgotten
  /-- The slot is empty. -/
  | noSlot
deriving DecidableEq

/-- The state of a session. -/
structure Session (σ : Type) where
  client : Client σ
  buffers : Array (Option Buffer) := #[]
  kept : List Plane := []

namespace Session

variable {σ : Type}

/-- The buffer in a slot. -/
def buffer? (session : Session σ) (slot : Nat) : Option Buffer :=
  (session.buffers[slot]?).join

/-- The buffers that are still held, in order of their slots. -/
def held (session : Session σ) : List Buffer :=
  session.buffers.toList.filterMap id

/-- Changes the platform of a session. -/
def changePlatform (session : Session σ) (change : Platform → Platform) : Session σ :=
  { session with client := (Client.inWorld (Act.changePlatform change) session.client).2 }

/-- Performs one action. -/
def perform (allocator : Allocator σ) (session : Session σ) : Action → Outcome × Session σ
  | .allocate code size usage =>
      match allocator.allocate code size usage session.client with
      | (.error failure, client) => (.failed failure, { session with client := client })
      | (.ok buffer, client) =>
          (.allocated session.buffers.size buffer,
            { session with client := client, buffers := session.buffers.push (some buffer) })
  | .drop slot =>
      match session.buffer? slot with
      | none => (.noSlot, session)
      | some buffer =>
          (.dropped,
            { session with
              client := (allocator.drop buffer session.client).2
              buffers := session.buffers.setIfInBounds slot none })
  | .keep slot =>
      match session.buffer? slot with
      | none => (.noSlot, session)
      | some buffer =>
          let kept := session.kept ++ buffer.planes
          (.kept kept.length,
            { session.changePlatform (·.retainPlanes buffer.planes) with kept := kept })
  | .forget =>
      (.forgotten, { session.changePlatform (·.releasePlanes session.kept) with kept := [] })

/-- Performs actions in order and lists their outcomes. -/
def performAll (allocator : Allocator σ) (session : Session σ) :
    List Action → List Outcome × Session σ
  | [] => ([], session)
  | action :: rest =>
      let (outcome, session) := session.perform allocator action
      let (outcomes, session) := session.performAll allocator rest
      (outcome :: outcomes, session)

/-- Drops every buffer that is still held, in order of the slots. -/
def close (allocator : Allocator σ) (session : Session σ) : Session σ :=
  (session.performAll allocator ((List.range session.buffers.size).map Action.drop)).2

end Session

end PixelBuffer
