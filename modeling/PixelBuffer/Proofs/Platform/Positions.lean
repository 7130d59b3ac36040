import PixelBuffer.Proofs.Platform.Growth
import PixelBuffer.World

/-!
# Positions decide nothing

Two platforms that differ in the positions of their open files answer every question of a search
alike, and whatever is done on both leaves them so (`Platform.SameButPositions`). `Act.Alike` states
this of two acts, which may log different events; acts in sequence keep it (`Act.Alike.bind`).
-/

namespace PixelBuffer

namespace Platform

/-- Two platforms that differ in the positions of open files at most. -/
structure SameButPositions (platform other : Platform) : Prop where
  files : platform.files = other.files
  openFiles : platform.openFiles.map OpenFile.file = other.openFiles.map OpenFile.file
  descriptors : platform.descriptors = other.descriptors
  holdings : platform.holdings = other.holdings
  closed : platform.closed = other.closed

namespace SameButPositions

variable {platform other : Platform}

/-! ## Answers -/

/-- The same open file is behind a descriptor. -/
theorem openFile?_eq (h : platform.SameButPositions other) (descriptor : Descriptor) :
    platform.openFile? descriptor = other.openFile? descriptor := by
  unfold openFile?
  rw [h.descriptors]

/-- The same file is behind a descriptor. -/
theorem file?_eq (h : platform.SameButPositions other) (descriptor : Descriptor) :
    platform.file? descriptor = other.file? descriptor := by
  have hfile : ∀ number : Nat, platform.openFiles[number]?.map OpenFile.file =
      other.openFiles[number]?.map OpenFile.file := fun number => by
    rw [← Array.getElem?_map, ← Array.getElem?_map, h.openFiles]
  unfold file?
  simp only [fileNumber?_eq_bind, h.openFile?_eq, hfile, h.files]

/-- The same descriptor is behind a share. -/
theorem descriptorOf?_eq (h : platform.SameButPositions other) (share : Share) :
    platform.descriptorOf? share = other.descriptorOf? share := by
  unfold descriptorOf?
  rw [h.holdings]

/-! ## Changes -/

/-- Moving a position changes positions only. -/
theorem setPosition (platform : Platform) (number position : Nat) :
    (platform.setPosition number position).SameButPositions platform := by
  refine ⟨rfl, Array.ext_getElem? fun index => ?_, rfl, rfl, rfl⟩
  unfold Platform.setPosition
  rw [Array.getElem?_map, Array.getElem?_map, Array.getElem?_modify]
  split
  · rw [Option.map_map]
    rfl
  · rfl

/-- What differs in positions only does so in either direction. -/
theorem symm (h : platform.SameButPositions other) : other.SameButPositions platform :=
  ⟨h.files.symm, h.openFiles.symm, h.descriptors.symm, h.holdings.symm, h.closed.symm⟩

/-- Differing in positions only twice is doing so once. -/
theorem trans {third : Platform} (h : platform.SameButPositions other)
    (hother : other.SameButPositions third) : platform.SameButPositions third :=
  ⟨h.files.trans hother.files, h.openFiles.trans hother.openFiles,
    h.descriptors.trans hother.descriptors, h.holdings.trans hother.holdings,
    h.closed.trans hother.closed⟩

/-- Duplicating a descriptor under shared ownership. -/
theorem shareDuplicate (h : platform.SameButPositions other) (descriptor : Descriptor) :
    (platform.shareDuplicate descriptor).1 = (other.shareDuplicate descriptor).1 ∧
      (platform.shareDuplicate descriptor).2.SameButPositions
        (other.shareDuplicate descriptor).2 := by
  unfold Platform.shareDuplicate duplicate
  rw [h.openFile?_eq]
  cases other.openFile? descriptor with
  | none => exact ⟨rfl, h⟩
  | some number =>
      simp only [adopt, h.holdings, h.descriptors, true_and]
      exact ⟨h.files, h.openFiles, rfl, rfl, h.closed⟩

/-- Measuring the file behind a descriptor rewinds at most. -/
theorem measure (h : platform.SameButPositions other) (descriptor : Descriptor) :
    (platform.measure descriptor).1 = (other.measure descriptor).1 ∧
      (platform.measure descriptor).2.SameButPositions (other.measure descriptor).2 := by
  unfold Platform.measure
  rw [h.openFile?_eq, h.file?_eq]
  cases other.openFile? descriptor with
  | none => exact ⟨rfl, h⟩
  | some number =>
      cases other.file? descriptor with
      | none => exact ⟨rfl, h⟩
      | some file =>
          cases file with
          | pipe => exact ⟨rfl, h⟩
          | memory length =>
              exact ⟨rfl, (setPosition _ _ _).trans (h.trans (setPosition _ _ _).symm)⟩

/-- Measuring the file behind a share rewinds at most. -/
theorem measureShare (h : platform.SameButPositions other) (share : Share) :
    (platform.measureShare share).1 = (other.measureShare share).1 ∧
      (platform.measureShare share).2.SameButPositions (other.measureShare share).2 := by
  unfold Platform.measureShare
  rw [h.descriptorOf?_eq]
  cases other.descriptorOf? share with
  | none => exact ⟨rfl, h⟩
  | some descriptor => exact h.measure descriptor

/-- Adding an owner. -/
theorem retain (h : platform.SameButPositions other) (share : Share) :
    (platform.retain share).SameButPositions (other.retain share) :=
  ⟨h.files, h.openFiles, h.descriptors, by simp only [Platform.retain, h.holdings], h.closed⟩

/-- Removing an owner. -/
theorem release (h : platform.SameButPositions other) (share : Share) :
    (platform.release share).SameButPositions (other.release share) := by
  cases hholding : other.holdings[share.holding]? with
  | none =>
      unfold Platform.release
      rw [h.holdings, hholding]
      exact h
  | some holding =>
      rw [release_eq hholding, release_eq (h.holdings ▸ hholding)]
      exact ⟨h.files, h.openFiles, by simp only [h.descriptors], by simp only [h.holdings],
        by simp only [h.closed]⟩

/-- Removing the owners of planes. -/
theorem releasePlanes (h : platform.SameButPositions other) (planes : List Plane) :
    (platform.releasePlanes planes).SameButPositions (other.releasePlanes planes) := by
  unfold Platform.releasePlanes
  induction planes generalizing platform other with
  | nil => exact h
  | cons plane rest ih => exact ih (h.release plane.share)

end SameButPositions

end Platform

/-! ## Acts -/

namespace Act

/-- Two acts answer alike on platforms that differ in positions only, and leave them so. -/
def Alike {α : Type} (act other : Act α) : Prop :=
  ∀ world world' : World, world.platform.SameButPositions world'.platform →
    (act world).1 = (other world').1 ∧
      (act world).2.platform.SameButPositions (other world').2.platform

/-- An answer alone. -/
theorem alike_pure {α : Type} (value : α) : Alike (pure value : Act α) (pure value) :=
  fun _ _ h => ⟨rfl, h⟩

/-- Something done on the platform. -/
theorem alike_onPlatform {α : Type} {action : Platform → α × Platform}
    (h : ∀ {platform other : Platform}, platform.SameButPositions other →
      (action platform).1 = (action other).1 ∧
        (action platform).2.SameButPositions (action other).2) :
    Alike (onPlatform action) (onPlatform action) :=
  fun _ _ hplatform => h hplatform

/-- A change of the platform. -/
theorem alike_changePlatform {change : Platform → Platform}
    (h : ∀ {platform other : Platform}, platform.SameButPositions other →
      (change platform).SameButPositions (change other)) :
    Alike (changePlatform change) (changePlatform change) :=
  fun _ _ hplatform => ⟨rfl, h hplatform⟩

/-- Two events, which need not be the same. -/
theorem alike_log (event event' : Event) : Alike (log event) (log event') :=
  fun _ _ h => ⟨rfl, h⟩

/-- Acts in sequence. -/
theorem Alike.bind {α β : Type} {act other : Act α} {next next' : α → Act β}
    (h : act.Alike other) (hnext : ∀ value, (next value).Alike (next' value)) :
    (act >>= next).Alike (other >>= next') := by
  intro world world' hworld
  obtain ⟨hanswer, hplatform⟩ := h world world' hworld
  rw [bind_apply, bind_apply, hanswer]
  exact hnext _ _ _ hplatform

end Act

end PixelBuffer
