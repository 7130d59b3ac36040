import PixelBuffer.Failure
import PixelBuffer.Word

/-!
# Files, open files and descriptors

Memory and pipes are files. An open file refers to a file and has a position; a descriptor refers to
an open file, and duplicates of a descriptor refer to the same one, so they share its position.
Files, open files and descriptors are named by numbers that are never used twice: a closed
descriptor keeps its number and refers to nothing.

`Platform.measure` finds the length of a file through a descriptor by seeking to its end and back to
its start, so it leaves the position at zero for everyone who shares the open file.
-/

namespace PixelBuffer

/-- The length of a memory file, which is below 2^63. -/
abbrev FileLength := Fin 0x8000000000000000

/-- Something that descriptors can refer to. -/
inductive File where
  /-- Anonymous memory of a given length. -/
  | memory (length : FileLength)
  /-- A pipe, which has neither length nor positions. -/
  | pipe
deriving DecidableEq

/-- A file as opened once, with the position that its users share. -/
structure OpenFile where
  file : Nat
  position : Nat
deriving DecidableEq

/-- The number by which the operating system knows an open file. -/
structure Descriptor where
  number : Nat
deriving DecidableEq

/-- Several owners of one descriptor. It is closed when the last of them lets go. -/
structure Holding where
  descriptor : Descriptor
  owners : Nat
deriving DecidableEq

/-- One owner's part in a descriptor held by several. -/
structure Share where
  holding : Nat
deriving DecidableEq

/-- All files, open files, descriptors and shares so far, and the closings among them. -/
structure Platform where
  files : Array File := #[]
  openFiles : Array OpenFile := #[]
  /-- The open file that each descriptor refers to, if it is open. -/
  descriptors : Array (Option Nat) := #[]
  holdings : Array Holding := #[]
  /-- The descriptors that were closed, in order. -/
  closed : Array Descriptor := #[]

/-- How a descriptor comes to be. -/
inductive Source where
  /-- New memory, with the position placed after it is created. -/
  | memory (length : FileLength) (position : Nat)
  /-- A new pipe. -/
  | pipe
  /-- A duplicate of an earlier descriptor of the same list. -/
  | duplicate (index : Nat)

namespace Platform

/-! ## Looking things up -/

/-- The open file that a descriptor refers to. -/
def openFile? (platform : Platform) (descriptor : Descriptor) : Option Nat :=
  (platform.descriptors[descriptor.number]?).join

/-- The file that a descriptor refers to, by number. -/
def fileNumber? (platform : Platform) (descriptor : Descriptor) : Option Nat := do
  let number ← platform.openFile? descriptor
  let opened ← platform.openFiles[number]?
  pure opened.file

/-- The file that a descriptor refers to. -/
def file? (platform : Platform) (descriptor : Descriptor) : Option File := do
  let number ← platform.fileNumber? descriptor
  platform.files[number]?

/-- The position of a descriptor whose file has positions. -/
def position? (platform : Platform) (descriptor : Descriptor) : Option Nat := do
  let number ← platform.openFile? descriptor
  let opened ← platform.openFiles[number]?
  match ← platform.files[opened.file]? with
  | .memory _ => some opened.position
  | .pipe => none

/-- Number of descriptors that are open. -/
def openCount (platform : Platform) : Nat :=
  platform.descriptors.countP Option.isSome

/-- The descriptor behind a share. -/
def descriptorOf? (platform : Platform) (share : Share) : Option Descriptor :=
  platform.holdings[share.holding]?.map Holding.descriptor

/-! ## Descriptors -/

/-- Creates a file, opens it at a position and gives it a descriptor. -/
def create (platform : Platform) (file : File) (position : Nat) : Descriptor × Platform :=
  (⟨platform.descriptors.size⟩,
    { platform with
      files := platform.files.push file
      openFiles := platform.openFiles.push ⟨platform.files.size, position⟩
      descriptors := platform.descriptors.push (some platform.openFiles.size) })

/-- A new descriptor for the open file that `descriptor` refers to. -/
def duplicate (platform : Platform) (descriptor : Descriptor) :
    Except IoFault Descriptor × Platform :=
  match platform.openFile? descriptor with
  | none => (.error (.system Errno.badDescriptor), platform)
  | some opened =>
      (.ok ⟨platform.descriptors.size⟩,
        { platform with descriptors := platform.descriptors.push (some opened) })

/-- Closes a descriptor. -/
def close (platform : Platform) (descriptor : Descriptor) : Platform :=
  { platform with
    descriptors := platform.descriptors.setIfInBounds descriptor.number none
    closed := platform.closed.push descriptor }

/-- Moves the position that the users of an open file share. -/
def setPosition (platform : Platform) (opened position : Nat) : Platform :=
  { platform with
    openFiles := platform.openFiles.modify opened fun file => { file with position := position } }

/-- Moves the position of a descriptor; a negative position is refused. -/
def seek (platform : Platform) (descriptor : Descriptor) (position : Int) :
    Except IoFault Nat × Platform :=
  match platform.openFile? descriptor, platform.file? descriptor with
  | some opened, some (.memory _) =>
      if position < 0 then (.error (.system Errno.invalidArgument), platform)
      else (.ok position.toNat, platform.setPosition opened position.toNat)
  | some _, some .pipe => (.error (.system Errno.illegalSeek), platform)
  | _, _ => (.error (.system Errno.badDescriptor), platform)

/-- Changes the length of a memory file; a length below zero or above 2^63 - 1 is refused. -/
def truncate (platform : Platform) (descriptor : Descriptor) (length : Int) :
    Except IoFault Unit × Platform :=
  match platform.fileNumber? descriptor, platform.file? descriptor with
  | some number, some (.memory _) =>
      if h : 0 ≤ length ∧ length < 0x8000000000000000 then
        let file := File.memory ⟨length.toNat, by omega⟩
        (.ok (), { platform with files := platform.files.setIfInBounds number file })
      else (.error (.system Errno.invalidArgument), platform)
  | some _, some .pipe => (.error (.system Errno.invalidArgument), platform)
  | _, _ => (.error (.system Errno.badDescriptor), platform)

/-- The length of the file behind a descriptor. Finding it rewinds the open file. -/
def measure (platform : Platform) (descriptor : Descriptor) : Except IoFault UInt64 × Platform :=
  match platform.openFile? descriptor, platform.file? descriptor with
  | some opened, some (.memory length) =>
      (.ok (UInt64.ofNat length.val), platform.setPosition opened 0)
  | some _, some .pipe => (.error (.system Errno.illegalSeek), platform)
  | _, _ => (.error (.system Errno.badDescriptor), platform)

/-! ## New memory -/

/-- Bytes that the name of a memory file may have. -/
def maxNameBytes : Nat := 249

/-- The length of a new memory file of the given name, unless the name or the length is refused. -/
def memoryLength (name : String) (length : Nat) : Except IoFault FileLength :=
  if name.toList.contains '\x00' then .error .nulInName
  else if maxNameBytes < name.utf8ByteSize then .error (.system Errno.invalidArgument)
  else if h : length < 0x8000000000000000 then .ok ⟨length, h⟩
  else .error (.system Errno.invalidArgument)

/-- Creates memory of the given name and length. -/
def createMemory (platform : Platform) (name : String) (length : Nat) :
    Except IoFault Descriptor × Platform :=
  match memoryLength name length with
  | .error fault => (.error fault, platform)
  | .ok length =>
      let (descriptor, platform) := platform.create (.memory length) 0
      (.ok descriptor, platform)

/-- Opens one source, given the descriptors opened before it. A duplicate of a descriptor that is
not among them opens nothing. -/
def openSource (platform : Platform) (opened : List Descriptor) :
    Source → List Descriptor × Platform
  | .memory length position =>
      let (descriptor, platform) := platform.create (.memory length) position
      (opened ++ [descriptor], platform)
  | .pipe =>
      let (descriptor, platform) := platform.create .pipe 0
      (opened ++ [descriptor], platform)
  | .duplicate index =>
      match opened[index]? with
      | none => (opened, platform)
      | some descriptor =>
          match platform.duplicate descriptor with
          | (.ok descriptor, platform) => (opened ++ [descriptor], platform)
          | (.error _, platform) => (opened, platform)

/-- Opens sources in order. -/
def openSources (platform : Platform) (sources : List Source) : List Descriptor × Platform :=
  sources.foldl (fun (opened, platform) source => platform.openSource opened source) ([], platform)

/-! ## Shared descriptors -/

/-- Puts a descriptor under shared ownership with one owner. -/
def adopt (platform : Platform) (descriptor : Descriptor) : Share × Platform :=
  (⟨platform.holdings.size⟩,
    { platform with holdings := platform.holdings.push ⟨descriptor, 1⟩ })

/-- Duplicates a descriptor and puts the duplicate under shared ownership. -/
def shareDuplicate (platform : Platform) (descriptor : Descriptor) :
    Except IoFault Share × Platform :=
  match platform.duplicate descriptor with
  | (.error fault, platform) => (.error fault, platform)
  | (.ok duplicate, platform) =>
      let (share, platform) := platform.adopt duplicate
      (.ok share, platform)

/-- Adds an owner. -/
def retain (platform : Platform) (share : Share) : Platform :=
  { platform with
    holdings := platform.holdings.modify share.holding fun holding =>
      { holding with owners := holding.owners + 1 } }

/-- Removes an owner, and closes the descriptor when it was the last. -/
def release (platform : Platform) (share : Share) : Platform :=
  match platform.holdings[share.holding]? with
  | none => platform
  | some holding =>
      let released :=
        { platform with
          holdings := platform.holdings.setIfInBounds share.holding
            { holding with owners := holding.owners - 1 } }
      if holding.owners = 1 then released.close holding.descriptor else released

/-- The length of the file behind a share. -/
def measureShare (platform : Platform) (share : Share) : Except IoFault UInt64 × Platform :=
  match platform.descriptorOf? share with
  | none => (.error (.system Errno.badDescriptor), platform)
  | some descriptor => platform.measure descriptor

/-- A new descriptor, owned alone, for the open file behind a share. -/
def duplicateShare (platform : Platform) (share : Share) : Except IoFault Descriptor × Platform :=
  match platform.descriptorOf? share with
  | none => (.error (.system Errno.badDescriptor), platform)
  | some descriptor => platform.duplicate descriptor

/-- The position behind a share, if its file has positions. -/
def sharePosition? (platform : Platform) (share : Share) : Option Nat := do
  platform.position? (← platform.descriptorOf? share)

end Platform

end PixelBuffer
