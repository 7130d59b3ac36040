import PixelBuffer.Service

/-!
# Services that follow a script

A `Script` lists the answers of a service in advance: one for each request and one for each handle
that comes back. When a list runs out, its last answer is repeated; an empty list of replies grants
handles without descriptors and integers, and an empty list of frees takes every handle back.
-/

namespace PixelBuffer

/-- A prepared answer to a request. -/
inductive Reply where
  | refuse (status : Status)
  /-- A grant; without a stride of its own it has the width of the request. -/
  | grant (handle? : Option Offer) (stride? : Option UInt32)

/-- The answers that a service has still to give. -/
structure Script where
  replies : List Reply := []
  frees : List (Except Status Unit) := []

namespace Script

/-- The first of the answers that are left, or `default` when there never was one, and what is left
after it; the last answer stays. -/
def next {α : Type} (default : α) : List α → α × List α
  | [] => (default, [])
  | [last] => (last, [last])
  | first :: rest => (first, rest)

/-- Answers a request from the script. -/
def allocate (request : Request) (script : Script) : Except Status Grant × Script × List Event :=
  let (reply, replies) := next (.grant (some ⟨[], []⟩) none) script.replies
  let script := { script with replies := replies }
  match reply with
  | .refuse status => (.error status, script, [])
  | .grant handle? stride? => (.ok ⟨handle?, stride?.getD request.width⟩, script, [])

/-- Takes a handle back as the script says. -/
def free (_handle : Handle) (script : Script) : Except Status Unit × Script × List Event :=
  let (answer, frees) := next (.ok ()) script.frees
  (answer, { script with frees := frees }, [])

end Script

/-- The service that follows a script. -/
def scriptedService : Service Script where
  allocate := Script.allocate
  free := Script.free

end PixelBuffer
