import PixelBuffer.Proofs.Platform.Growth
import PixelBuffer.Proofs.Platform.Opening

/-!
# What lasts on a platform

A file keeps its length and an open file its file, a descriptor refers to what it referred to until
it is closed, and a holding keeps its descriptor. `Platform.Precedes` states this of an earlier and
a later platform, and each thing that a search or a session does to a platform keeps it. So the same
length is measured behind a share for as long as its descriptor is open
(`Platform.Precedes.measureShare_eq`).
-/

namespace PixelBuffer

namespace Platform

/-- What was there before is there now, except that positions and owners may have changed and
descriptors may have been closed. -/
structure Precedes (before now : Platform) : Prop where
  files : ∀ (number : Nat) file, before.files[number]? = some file →
    now.files[number]? = some file
  openFiles : ∀ (number : Nat) opened, before.openFiles[number]? = some opened →
    now.openFiles[number]?.map OpenFile.file = some opened.file
  descriptors : ∀ (number : Nat) opened?, before.descriptors[number]? = some opened? →
    now.descriptors[number]? = some opened? ∨ now.descriptors[number]? = some none
  holdings : ∀ (number : Nat) holding, before.holdings[number]? = some holding →
    now.holdings[number]?.map Holding.descriptor = some holding.descriptor

namespace Precedes

variable {before now later : Platform}

/-- Nothing happened. -/
theorem refl (platform : Platform) : platform.Precedes platform where
  files _ _ h := h
  openFiles _ _ h := by rw [h]; rfl
  descriptors _ _ h := .inl h
  holdings _ _ h := by rw [h]; rfl

/-- What lasts twice lasts. -/
theorem trans (h : before.Precedes now) (hlater : now.Precedes later) : before.Precedes later := by
  constructor
  case files => exact fun number file hfile => hlater.files number file (h.files number file hfile)
  case openFiles =>
    intro number opened hopened
    obtain ⟨same, hsame, heq⟩ := Option.map_eq_some_iff.mp (h.openFiles number opened hopened)
    rw [hlater.openFiles number same hsame, heq]
  case descriptors =>
    intro number opened? hopened
    rcases h.descriptors number opened? hopened with hnow | hnow
    · exact hlater.descriptors number opened? hnow
    · exact .inr ((hlater.descriptors number none hnow).elim id id)
  case holdings =>
    intro number holding hholding
    obtain ⟨same, hsame, heq⟩ := Option.map_eq_some_iff.mp (h.holdings number holding hholding)
    rw [hlater.holdings number same hsame, heq]

/-- The descriptor behind a share stays the same. -/
theorem descriptorOf?_eq (h : before.Precedes now) {share : Share} {descriptor : Descriptor}
    (hdescriptor : before.descriptorOf? share = some descriptor) :
    now.descriptorOf? share = some descriptor := by
  obtain ⟨holding, hholding, heq⟩ := Option.map_eq_some_iff.mp hdescriptor
  unfold descriptorOf?
  rw [h.holdings _ holding hholding, heq]

/-- An open file refers to the same file for ever. -/
theorem fileAt?_eq (h : before.Precedes now) {number : Nat} {file : File}
    (hfile : before.fileAt? number = some file) : now.fileAt? number = some file := by
  obtain ⟨opened, hopened, hbefore⟩ := Option.bind_eq_some_iff.mp hfile
  obtain ⟨same, hsame, heq⟩ := Option.map_eq_some_iff.mp (h.openFiles number opened hopened)
  refine Option.bind_eq_some_iff.mpr ⟨same, hsame, ?_⟩
  rw [heq]
  exact h.files _ file hbefore

/-- A descriptor that is still open refers to the open file that it referred to. -/
theorem openFile?_eq (h : before.Precedes now) {descriptor : Descriptor} {number : Nat}
    (hopened : before.openFile? descriptor = some number)
    (hopen : (now.openFile? descriptor).isSome) : now.openFile? descriptor = some number := by
  have hbefore := Option.join_eq_some_iff.mp hopened
  unfold openFile? at hopen ⊢
  rcases h.descriptors _ _ hbefore with hnow | hnow
  · rw [hnow]
    rfl
  · rw [hnow] at hopen
    cases hopen

/-- A descriptor that is still open refers to the file that it referred to. -/
theorem file?_eq (h : before.Precedes now) {descriptor : Descriptor} {file : File}
    (hfile : before.file? descriptor = some file)
    (hopen : (now.openFile? descriptor).isSome) : now.file? descriptor = some file := by
  rw [file?_eq_bind] at hfile ⊢
  obtain ⟨number, hopened, hnumber⟩ := Option.bind_eq_some_iff.mp hfile
  rw [h.openFile?_eq hopened hopen]
  exact h.fileAt?_eq hnumber

/-- A descriptor that is still open refers to the file of the number that it referred to. -/
theorem fileNumber?_eq (h : before.Precedes now) {descriptor : Descriptor} {file : Nat}
    (hfile : before.fileNumber? descriptor = some file)
    (hopen : (now.openFile? descriptor).isSome) : now.fileNumber? descriptor = some file := by
  rw [fileNumber?_eq_bind] at hfile ⊢
  obtain ⟨number, hopened, hnumber⟩ := Option.bind_eq_some_iff.mp hfile
  obtain ⟨opened, hopenFile, rfl⟩ := Option.map_eq_some_iff.mp hnumber
  rw [h.openFile?_eq hopened hopen]
  exact h.openFiles number opened hopenFile

/-- Behind a descriptor that is still open, the same length is measured. -/
theorem backing_eq (h : before.Precedes now) {descriptor : Descriptor} {bytes : UInt64}
    (hbytes : before.backing descriptor = .ok bytes)
    (hopen : (now.openFile? descriptor).isSome) : now.backing descriptor = .ok bytes := by
  obtain ⟨length, hfile, hlength⟩ := backing_eq_ok_iff.mp hbytes
  exact backing_eq_ok_iff.mpr ⟨length, h.file?_eq hfile hopen, hlength⟩

/-- Behind a share whose descriptor is still open, the same length is measured. -/
theorem measureShare_eq (h : before.Precedes now) {share : Share} {descriptor : Descriptor}
    {bytes : UInt64} (hdescriptor : before.descriptorOf? share = some descriptor)
    (hbytes : (before.measureShare share).1 = .ok bytes)
    (hopen : (now.openFile? descriptor).isSome) : (now.measureShare share).1 = .ok bytes := by
  unfold measureShare at hbytes ⊢
  rw [hdescriptor] at hbytes
  rw [h.descriptorOf?_eq hdescriptor]
  exact h.backing_eq hbytes hopen

end Precedes

/-! ## Steps -/

variable {before now : Platform}

/-- Opening descriptors changes nothing that was there. -/
theorem Opened.precedes {opened : List Descriptor} (h : before.Opened now opened) :
    before.Precedes now where
  files := h.files
  openFiles number file hfile := by rw [h.openFiles number file hfile]; rfl
  descriptors number opened? hopened := by
    obtain ⟨hnumber, -⟩ := Array.getElem?_eq_some_iff.mp hopened
    exact .inl ((h.old number hnumber).trans hopened)
  holdings number holding hholding := by rw [h.holdings, hholding]; rfl

/-- Growing by shared duplicates changes positions at most. -/
theorem Grown.precedes {opened rewound : List Nat} {held : List Share}
    (h : before.Grown now opened rewound held) : before.Precedes now where
  files number file hfile := by rw [h.files, hfile]
  openFiles number file hfile := by
    rw [h.openFiles, hfile]
    by_cases hm : number ∈ rewound <;> simp [hm]
  descriptors number opened? hopened := by
    obtain ⟨hnumber, -⟩ := Array.getElem?_eq_some_iff.mp hopened
    exact .inl ((h.descriptors number hnumber).trans hopened)
  holdings number holding hholding := by
    obtain ⟨hnumber, -⟩ := Array.getElem?_eq_some_iff.mp hholding
    rw [h.holdings number hnumber, hholding]
    rfl

/-- A descriptor that is closed refers to nothing, and every other one to what it did. -/
theorem descriptors_close (platform : Platform) (descriptor : Descriptor) (number : Nat) :
    (platform.close descriptor).descriptors[number]? =
      if descriptor.number = number then
        if descriptor.number < platform.descriptors.size then some none else none
      else platform.descriptors[number]? :=
  Array.getElem?_setIfInBounds

/-- Closing a descriptor changes nothing else. -/
theorem close_precedes (platform : Platform) (descriptor : Descriptor) :
    platform.Precedes (platform.close descriptor) where
  files _ _ h := h
  openFiles _ _ h := by
    show platform.openFiles[_]?.map _ = _
    rw [h]
    rfl
  descriptors number opened? hopened := by
    obtain ⟨hnumber, -⟩ := Array.getElem?_eq_some_iff.mp hopened
    rw [descriptors_close]
    by_cases heq : descriptor.number = number
    · exact .inr (by rw [if_pos heq, if_pos (heq ▸ hnumber)])
    · exact .inl (by rw [if_neg heq, hopened])
  holdings _ _ h := by
    show platform.holdings[_]?.map _ = _
    rw [h]
    rfl

/-- Adding an owner changes nothing else. -/
theorem retain_precedes (platform : Platform) (share : Share) :
    platform.Precedes (platform.retain share) where
  files _ _ h := h
  openFiles number opened h := by
    show platform.openFiles[number]?.map _ = _
    rw [h]
    rfl
  descriptors _ _ h := .inl h
  holdings number holding h := by
    show (platform.holdings.modify _ _)[number]?.map _ = _
    rw [Array.getElem?_modify, h]
    by_cases heq : share.holding = number <;> simp [heq]

/-- Removing an owner changes the owners, and may close a descriptor. -/
theorem release_precedes (platform : Platform) (share : Share) :
    platform.Precedes (platform.release share) := by
  cases hshare : platform.holdings[share.holding]? with
  | none =>
      unfold release
      rw [hshare]
      exact .refl platform
  | some holding =>
      have hreleased : platform.Precedes
          { platform with
            holdings := platform.holdings.setIfInBounds share.holding
              { holding with owners := holding.owners - 1 } } := by
        refine { Precedes.refl platform with holdings := fun number other hother => ?_ }
        show (platform.holdings.setIfInBounds _ _)[number]?.map _ = _
        rw [Array.getElem?_setIfInBounds]
        by_cases heq : share.holding = number
        · subst heq
          obtain ⟨hnumber, -⟩ := Array.getElem?_eq_some_iff.mp hother
          cases hshare.symm.trans hother
          simp [hnumber]
        · simp [heq, hother]
      unfold release
      rw [hshare]
      by_cases hlast : holding.owners = 1
      · simpa [hlast] using hreleased.trans (close_precedes _ holding.descriptor)
      · simpa [hlast] using hreleased

/-- Closing the descriptors of a handle changes nothing else. -/
theorem closeHandle_precedes (platform : Platform) (handle : Handle) :
    platform.Precedes (platform.closeHandle handle) := by
  unfold closeHandle
  induction handle.descriptors generalizing platform with
  | nil => exact .refl platform
  | cons descriptor rest ih => exact (close_precedes platform descriptor).trans (ih _)

/-- Adding owners for planes changes nothing else. -/
theorem retainPlanes_precedes (platform : Platform) (planes : List Plane) :
    platform.Precedes (platform.retainPlanes planes) := by
  unfold retainPlanes
  induction planes generalizing platform with
  | nil => exact .refl platform
  | cons plane rest ih => exact (retain_precedes platform plane.share).trans (ih _)

/-- Removing owners for planes changes the owners, and may close descriptors. -/
theorem releasePlanes_precedes (platform : Platform) (planes : List Plane) :
    platform.Precedes (platform.releasePlanes planes) := by
  unfold releasePlanes
  induction planes generalizing platform with
  | nil => exact .refl platform
  | cons plane rest ih => exact (release_precedes platform plane.share).trans (ih _)

end Platform

end PixelBuffer
