import PixelBuffer.Service
import PixelBuffer.World

/-!
# Clients of a service

A `Client` is whoever uses a service, seen as a state: the world it acts in, the state of the
service, and the record of what passed between the two. `Client.request` asks for a buffer and opens
the handle that is granted; `Client.free` gives a handle back and closes it.
-/

namespace PixelBuffer

/-- Something that passed between a service and its client. -/
inductive Call where
  /-- A request was made. -/
  | request (request : Request)
  /-- A handle was granted and opened. -/
  | issue (handle : Handle)
  /-- A handle was given back, with the answer of the service. -/
  | free (handle : Handle) (answer : Except Status Unit)

/-- The world, the state of a service, and what passed between the service and its client, oldest
first. -/
structure Client (σ : Type) where
  world : World := {}
  service : σ
  calls : Array Call := #[]

namespace Client

variable {σ : Type}

/-- Does something in the world. -/
def inWorld {α : Type} (act : Act α) : StateM (Client σ) α := fun client =>
  let (answer, world) := act client.world
  (answer, { client with world := world })

/-- Asks the service something and logs what it reports. -/
def ask {α : Type} (question : σ → α × σ × List Event) : StateM (Client σ) α := fun client =>
  let (answer, service, events) := question client.service
  (answer,
    { client with
      service := service
      world := { client.world with log := client.world.log ++ events.toArray } })

/-- Records what passed between the service and its client. -/
def record (call : Call) : StateM (Client σ) Unit := fun client =>
  ((), { client with calls := client.calls.push call })

/-- Makes a request and opens the handle that is granted. Answers the handle, if there is one, and
the pixels between its rows. -/
def request (service : Service σ) (request : Request) :
    StateM (Client σ) (Except Status (Option Handle × UInt32)) := do
  record (.request request)
  match ← ask (service.allocate request) with
  | .error status => pure (.error status)
  | .ok grant =>
      match grant.handle? with
      | none => pure (.ok (none, grant.stride))
      | some offer =>
          let handle ← inWorld (Act.onPlatform (·.accept offer))
          record (.issue handle)
          pure (.ok (some handle, grant.stride))

/-- Gives a handle back to the service, which then closes it. -/
def free (service : Service σ) (handle : Handle) : StateM (Client σ) (Except Status Unit) := do
  let answer ← ask (service.free handle)
  record (.free handle answer)
  inWorld (Act.changePlatform (·.closeHandle handle))
  pure answer

end Client

end PixelBuffer
