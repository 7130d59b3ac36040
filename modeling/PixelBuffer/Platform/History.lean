import PixelBuffer.Platform

/-!
# Histories of raw and shared descriptors

A `Desk` keeps two lists of slots, one for descriptors that are owned alone and one for shares. Each
`DeskStep` fills a new slot, empties one, or looks at one; slots are never used twice. A desk
history is a list of steps performed from the empty desk.
-/

namespace PixelBuffer

/-- Descriptors owned alone and shares, each in a slot of its own. -/
structure Desk where
  platform : Platform := {}
  raw : Array (Option Descriptor) := #[]
  shared : Array (Option Share) := #[]

/-- One thing to do with the slots of a desk. -/
inductive DeskStep where
  /-- Opens a source in a new raw slot. -/
  | create (source : Source)
  /-- Shares a duplicate of a raw descriptor in a new shared slot. -/
  | shareDuplicate (raw : Nat)
  /-- Moves a raw descriptor into a new shared slot. -/
  | adopt (raw : Nat)
  /-- Adds an owner, in a new shared slot. -/
  | retain (shared : Nat)
  /-- Duplicates the descriptor of a share into a new raw slot. -/
  | duplicateShare (shared : Nat)
  /-- Compares two shares. -/
  | compare (shared other : Nat)
  /-- Measures the file behind a share. -/
  | measureShare (shared : Nat)
  /-- Measures the file behind a raw descriptor. -/
  | measureRaw (raw : Nat)
  /-- Looks at the position behind a share. -/
  | position (shared : Nat)
  /-- Moves the position of a raw descriptor. -/
  | seek (raw : Nat) (position : Int)
  /-- Changes the length of the file behind a raw descriptor. -/
  | truncate (raw : Nat) (length : Int)
  /-- Closes a raw descriptor and empties its slot. -/
  | close (raw : Nat)
  /-- Removes an owner and empties its slot. -/
  | release (shared : Nat)

/-- What a step answers. -/
inductive DeskAnswer where
  /-- The number of the slot that was filled. -/
  | slot (number : Nat)
  /-- Whether two shares are one holding, one descriptor, and refer to one file. -/
  | comparison (sameHolding sameDescriptor sameFile : Bool)
  /-- A length that was measured. -/
  | length (bytes : UInt64)
  /-- A position, if the file has positions. -/
  | position (position? : Option Nat)
  /-- A step that succeeded with nothing to tell. -/
  | done
  /-- Whether the slot to empty was full. -/
  | emptied (wasFull : Bool)
  /-- A call that the operating system refused. -/
  | fault (fault : IoFault)
  /-- The step names an empty slot. -/
  | noSlot
deriving DecidableEq

namespace Desk

/-- The descriptor in a raw slot. -/
def raw? (desk : Desk) (slot : Nat) : Option Descriptor :=
  (desk.raw[slot]?).join

/-- The share in a shared slot. -/
def shared? (desk : Desk) (slot : Nat) : Option Share :=
  (desk.shared[slot]?).join

/-- Fills a new raw slot. -/
def pushRaw (desk : Desk) (platform : Platform) (descriptor : Descriptor) : DeskAnswer × Desk :=
  (.slot desk.raw.size, { desk with platform := platform, raw := desk.raw.push (some descriptor) })

/-- Fills a new shared slot. -/
def pushShared (desk : Desk) (platform : Platform) (share : Share) : DeskAnswer × Desk :=
  (.slot desk.shared.size,
    { desk with platform := platform, shared := desk.shared.push (some share) })

/-- The answer to a measurement. -/
def measured (desk : Desk) : Except IoFault UInt64 × Platform → DeskAnswer × Desk
  | (.ok bytes, platform) => (.length bytes, { desk with platform := platform })
  | (.error fault, platform) => (.fault fault, { desk with platform := platform })

/-- Compares two shares. -/
def compare (platform : Platform) (share other : Share) : DeskAnswer :=
  let descriptor := platform.descriptorOf? share
  let otherDescriptor := platform.descriptorOf? other
  .comparison (share = other) (descriptor = otherDescriptor)
    (descriptor.bind platform.fileNumber? = otherDescriptor.bind platform.fileNumber?)

/-- Performs one step. -/
def perform (desk : Desk) : DeskStep → DeskAnswer × Desk
  | .create source =>
      match desk.platform.openSource [] source with
      | ([descriptor], platform) => desk.pushRaw platform descriptor
      | _ => (.noSlot, desk)
  | .shareDuplicate raw =>
      match desk.raw? raw with
      | none => (.noSlot, desk)
      | some descriptor =>
          match desk.platform.shareDuplicate descriptor with
          | (.ok share, platform) => desk.pushShared platform share
          | (.error fault, platform) => (.fault fault, { desk with platform := platform })
  | .adopt raw =>
      match desk.raw? raw with
      | none => (.noSlot, desk)
      | some descriptor =>
          let (share, platform) := desk.platform.adopt descriptor
          { desk with raw := desk.raw.setIfInBounds raw none }.pushShared platform share
  | .retain shared =>
      match desk.shared? shared with
      | none => (.noSlot, desk)
      | some share => desk.pushShared (desk.platform.retain share) share
  | .duplicateShare shared =>
      match desk.shared? shared with
      | none => (.noSlot, desk)
      | some share =>
          match desk.platform.duplicateShare share with
          | (.ok descriptor, platform) => desk.pushRaw platform descriptor
          | (.error fault, platform) => (.fault fault, { desk with platform := platform })
  | .compare shared other =>
      match desk.shared? shared, desk.shared? other with
      | some share, some other => (compare desk.platform share other, desk)
      | _, _ => (.noSlot, desk)
  | .measureShare shared =>
      match desk.shared? shared with
      | none => (.noSlot, desk)
      | some share => desk.measured (desk.platform.measureShare share)
  | .measureRaw raw =>
      match desk.raw? raw with
      | none => (.noSlot, desk)
      | some descriptor => desk.measured (desk.platform.measure descriptor)
  | .position shared =>
      match desk.shared? shared with
      | none => (.noSlot, desk)
      | some share => (.position (desk.platform.sharePosition? share), desk)
  | .seek raw position =>
      match desk.raw? raw with
      | none => (.noSlot, desk)
      | some descriptor =>
          match desk.platform.seek descriptor position with
          | (.ok position, platform) =>
              (.position (some position), { desk with platform := platform })
          | (.error fault, platform) => (.fault fault, { desk with platform := platform })
  | .truncate raw length =>
      match desk.raw? raw with
      | none => (.noSlot, desk)
      | some descriptor =>
          match desk.platform.truncate descriptor length with
          | (.ok (), platform) => (.done, { desk with platform := platform })
          | (.error fault, platform) => (.fault fault, { desk with platform := platform })
  | .close raw =>
      match desk.raw? raw with
      | none => (.emptied false, desk)
      | some descriptor =>
          (.emptied true,
            { desk with
              platform := desk.platform.close descriptor
              raw := desk.raw.setIfInBounds raw none })
  | .release shared =>
      match desk.shared? shared with
      | none => (.emptied false, desk)
      | some share =>
          (.emptied true,
            { desk with
              platform := desk.platform.release share
              shared := desk.shared.setIfInBounds shared none })

/-- Performs steps in order and lists their answers. -/
def performAll (desk : Desk) : List DeskStep → List DeskAnswer × Desk
  | [] => ([], desk)
  | step :: rest =>
      let (answer, desk) := desk.perform step
      let (answers, desk) := desk.performAll rest
      (answer :: answers, desk)

end Desk

end PixelBuffer
