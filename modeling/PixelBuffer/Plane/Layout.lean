import PixelBuffer.Handle.Vendor
import PixelBuffer.Plane

/-!
# Finding the planes of a handle

`Handle.findPlanes` turns a handle into planes. If the handle carries a vendor block, the block
decides: it must report as many planes as the format has, and each plane lies where it says, in the
file behind its descriptor. A handle without a block is taken to hold the planes of the format one
after another, with tight rows, from the start of its first descriptor. Either way no plane may end
behind the end of its file.

Each descriptor is duplicated once and measured once; planes of one descriptor share the duplicate.
When no planes can be found, every duplicate made on the way is closed again.
-/

namespace PixelBuffer

/-- A descriptor that was duplicated and measured. -/
structure Measured where
  descriptor : Descriptor
  share : Share
  bytes : UInt64

/-- A search for planes: the descriptors measured so far, and the planes found so far. -/
structure Search where
  measured : List Measured := []
  planes : List Plane := []

/-- Refuses a plane that ends behind the end of its backing. -/
def checkBounds (index : Nat) (offset length backing : UInt64) : Except Failure Unit :=
  let stop := saturatingAdd offset length
  if backing < stop then .error (.layout (.overrun index stop backing)) else .ok ()

namespace Search

/-- A share of the duplicate of a descriptor, and the length of its file. The first use of a
descriptor duplicates and measures it; the search itself keeps one share of each duplicate. -/
def measure (search : Search) (descriptor : Descriptor) :
    Act (Except Failure Measured × Search) := do
  match search.measured.find? (·.descriptor = descriptor) with
  | some known =>
      Act.changePlatform (·.retain known.share)
      pure (.ok known, search)
  | none =>
      match ← Act.onPlatform (·.shareDuplicate descriptor) with
      | .error fault => pure (.error (.io fault), search)
      | .ok share =>
          match ← Act.onPlatform (·.measureShare share) with
          | .error fault =>
              Act.changePlatform (·.release share)
              pure (.error (.io fault), search)
          | .ok bytes =>
              Act.log (.measured descriptor bytes)
              Act.changePlatform (·.retain share)
              let known : Measured := ⟨descriptor, share, bytes⟩
              pure (.ok known, { search with measured := known :: search.measured })

/-- Adds a plane in a measured file, or lets go of the share when the plane ends behind the file. -/
def place (search : Search) (index : Nat) (file : Measured) (offset length : UInt64) :
    Act (Except Failure Unit × Search) := do
  match checkBounds index offset length file.bytes with
  | .error failure =>
      Act.changePlatform (·.release file.share)
      pure (.error failure, search)
  | .ok () =>
      pure (.ok (), { search with planes := search.planes ++ [⟨file.share, offset, length⟩] })

/-- Finds the reported planes from `index` on. -/
def reportedPlanes (handle : Handle) (report : VendorReport) (expected : Nat) :
    (remaining index : Nat) → Search → Act (Except Failure Unit × Search)
  | 0, _, search => pure (.ok (), search)
  | remaining + 1, index, search => do
      match report.plane? index with
      | none =>
          pure (.error (.layout (.planeCount report.planeCount.toNat expected)), search)
      | some record =>
          Act.log (.reportedPlane index record.size record.offset record.stride)
          match handle.planeDescriptor? report index with
          | none => pure (.error (.layout (.missingDescriptor index)), search)
          | some descriptor =>
              match ← search.measure descriptor with
              | (.error failure, search) => pure (.error failure, search)
              | (.ok file, search) =>
                  match ← search.place index file record.offset.toUInt64 record.size.toUInt64 with
                  | (.error failure, search) => pure (.error failure, search)
                  | (.ok (), search) =>
                      reportedPlanes handle report expected remaining (index + 1) search

/-- Finds planes one after another in a measured file, from byte `offset` on. -/
def consecutivePlanes (geometry : FormatGeometry) (size : Size) (file : Measured) :
    List PlaneGeometry → (index : Nat) → (offset : UInt64) → Search →
      Act (Except Failure Unit × Search)
  | [], _, _, search => pure (.ok (), search)
  | plane :: rest, index, offset, search => do
      match plane.tightBytes? geometry.pixelsPerGroup size with
      | none => pure (.error size.invalid, search)
      | some length =>
          Act.changePlatform (·.retain file.share)
          match ← search.place index file offset length with
          | (.error failure, search) => pure (.error failure, search)
          | (.ok (), search) =>
              match word64? (offset.toNat + length.toNat) with
              | none => pure (.error size.invalid, search)
              | some next => consecutivePlanes geometry size file rest (index + 1) next search

/-- Lets go of the duplicates that the search keeps. -/
def forget (search : Search) : Act Unit :=
  Act.changePlatform fun platform =>
    search.measured.foldl (fun platform known => platform.release known.share) platform

/-- Ends a search: its planes, or nothing when it failed. -/
def finish : Except Failure Unit × Search → Act (Except Failure (List Plane))
  | (.error failure, search) => do
      Act.changePlatform (·.releasePlanes search.planes)
      search.forget
      pure (.error failure)
  | (.ok (), search) => do
      search.forget
      pure (.ok search.planes)

end Search

namespace Handle

/-- The planes that a vendor block reports. -/
def findReported (handle : Handle) (report : VendorReport) (geometry : FormatGeometry) :
    Act (Except Failure (List Plane)) := do
  let expected := geometry.planeCount
  let count := report.planeCount.toNat
  if count ≠ expected then
    pure (.error (.layout (.planeCount count expected)))
  else
    Act.log (.reported report.id report.width report.height count)
    Search.finish (← Search.reportedPlanes handle report expected count 0 {})

/-- The planes of a format one after another from the start of the first descriptor. -/
def findConsecutive (handle : Handle) (geometry : FormatGeometry) (size : Size) :
    Act (Except Failure (List Plane)) := do
  Act.log .unreported
  match handle.descriptors[0]? with
  | none => pure (.error (.layout (.missingDescriptor 0)))
  | some descriptor =>
      match ← Search.measure {} descriptor with
      | (.error failure, search) => Search.finish (.error failure, search)
      | (.ok file, search) =>
          let outcome ← Search.consecutivePlanes geometry size file geometry.planes 0 0 search
          Act.changePlatform (·.release file.share)
          Search.finish outcome

/-- Logs where planes were found, from `index` on. -/
def logFound : List Plane → (index : Nat) → Act Unit
  | [], _ => pure ()
  | plane :: rest, index => do
      let descriptor? ← Act.onPlatform fun platform =>
        (platform.descriptorOf? plane.share, platform)
      Act.log (.found index descriptor? plane.offset plane.length)
      logFound rest (index + 1)

/-- The planes of a handle whose buffer has the given format and size. -/
def findPlanes (handle : Handle) (geometry : FormatGeometry) (size : Size) :
    Act (Except Failure (List Plane)) := do
  let result ← match handle.vendor? with
    | some report => handle.findReported report geometry
    | none => handle.findConsecutive geometry size
  match result with
  | .error failure => pure (.error failure)
  | .ok planes =>
      logFound planes 0
      pure (.ok planes)

end Handle

end PixelBuffer
