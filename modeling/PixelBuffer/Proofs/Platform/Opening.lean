import Mathlib.Data.List.Nodup
import PixelBuffer.Handle
import PixelBuffer.Plane

/-!
# Numbers of descriptors

A descriptor is never given a number that was given before, and a closed one keeps its number. So
the descriptors of a handle that is opened follow all earlier ones (`Platform.accept_opened`), and
neither closing a handle nor sharing descriptors takes a number back. Opening a handle only adds: it
opens its descriptors, and what was there before stays as it was.
-/

namespace PixelBuffer

namespace Platform

/-- One descriptor more, for the open file `opened`, and perhaps new files; what was there stays. -/
structure Adds (before now : Platform) (opened : Nat) : Prop where
  descriptors : now.descriptors = before.descriptors.push (some opened)
  holdings : now.holdings = before.holdings
  closed : now.closed = before.closed
  files : ∀ (number : Nat) file, before.files[number]? = some file →
    now.files[number]? = some file
  openFiles : ∀ (number : Nat) file, before.openFiles[number]? = some file →
    now.openFiles[number]? = some file

/-- `opened` are the descriptors that came to be between two platforms, and only these did. They are
open, and what was there before stays. -/
structure Opened (before now : Platform) (opened : List Descriptor) : Prop where
  descriptors_size : now.descriptors.size = before.descriptors.size + opened.length
  numbers : opened.map Descriptor.number = List.range' before.descriptors.size opened.length
  old : ∀ number < before.descriptors.size, now.descriptors[number]? = before.descriptors[number]?
  isOpen : ∀ descriptor ∈ opened, (now.openFile? descriptor).isSome
  holdings : now.holdings = before.holdings
  closed : now.closed = before.closed
  files : ∀ (number : Nat) file, before.files[number]? = some file →
    now.files[number]? = some file
  openFiles : ∀ (number : Nat) file, before.openFiles[number]? = some file →
    now.openFiles[number]? = some file

namespace Opened

variable {before now : Platform} {opened : List Descriptor}

/-- Nothing was opened yet. -/
theorem refl (platform : Platform) : Opened platform platform [] where
  descriptors_size := rfl
  numbers := rfl
  old _ _ := rfl
  isOpen _ h := absurd h List.not_mem_nil
  holdings := rfl
  closed := rfl
  files _ _ h := h
  openFiles _ _ h := h

/-- One more descriptor takes the next number. -/
theorem push (h : Opened before now opened) {later : Platform} {number : Nat}
    (hlater : now.Adds later number) :
    Opened before later (opened ++ [⟨now.descriptors.size⟩]) := by
  have hsize := h.descriptors_size
  constructor
  case descriptors_size =>
    rw [hlater.descriptors, Array.size_push, hsize, List.length_append, List.length_singleton,
      Nat.add_assoc]
  case numbers =>
    rw [List.map_append, h.numbers, List.length_append, List.length_singleton,
      List.range'_1_concat, hsize]
    rfl
  case old =>
    intro old hold
    rw [hlater.descriptors, Array.getElem?_push, if_neg (by omega), h.old old hold]
  case isOpen =>
    intro descriptor hm
    unfold openFile?
    rw [hlater.descriptors, Array.getElem?_push]
    by_cases heq : descriptor.number = now.descriptors.size
    · simp [heq]
    · rw [if_neg heq]
      rcases List.mem_append.mp hm with hm | hm
      · exact h.isOpen descriptor hm
      · rw [List.mem_singleton.mp hm] at heq
        exact absurd rfl heq
  case holdings => exact hlater.holdings.trans h.holdings
  case closed => exact hlater.closed.trans h.closed
  case files => exact fun index file hfile => hlater.files index file (h.files index file hfile)
  case openFiles =>
    exact fun index file hfile => hlater.openFiles index file (h.openFiles index file hfile)

/-- A descriptor that was opened has a number that none had before. -/
theorem number_bounds (h : Opened before now opened) {descriptor : Descriptor}
    (hm : descriptor ∈ opened) :
    before.descriptors.size ≤ descriptor.number ∧
      descriptor.number < now.descriptors.size := by
  have hnumber : descriptor.number ∈ opened.map Descriptor.number := List.mem_map_of_mem hm
  rw [h.numbers, List.mem_range'_1] at hnumber
  rw [h.descriptors_size]
  exact hnumber

/-- No descriptor is opened twice. -/
theorem nodup (h : Opened before now opened) : opened.Nodup := by
  have hnumbers : (opened.map Descriptor.number).Nodup := by
    rw [h.numbers]
    exact List.nodup_range'
  exact List.Nodup.of_map _ hnumbers

end Opened

/-- What is pushed onto an array changes no earlier entry. -/
theorem getElem?_push_of_some {α : Type} {entries : Array α} {index : Nat} {entry next : α}
    (h : entries[index]? = some entry) : (entries.push next)[index]? = some entry := by
  obtain ⟨hindex, -⟩ := Array.getElem?_eq_some_iff.mp h
  rw [Array.getElem?_push, if_neg (by omega), h]

/-- Emptying a full slot takes its content out of the list. -/
theorem filterMap_set_none {α : Type} {slots : List (Option α)} {slot : Nat} {content : α}
    (h : slots[slot]? = some (some content)) :
    (slots.filterMap id).Perm (content :: (slots.set slot none).filterMap id) := by
  induction slots generalizing slot with
  | nil => simp at h
  | cons first rest ih =>
      cases slot with
      | zero =>
          simp only [List.getElem?_cons_zero, Option.some.injEq] at h
          subst h
          exact .refl _
      | succ slot =>
          have hrest := ih (by simpa using h)
          cases first with
          | none => exact hrest
          | some other => exact (hrest.cons other).trans (.swap content other _)

/-- Creating a file adds it and one descriptor for it. -/
theorem create_adds (platform : Platform) (file : File) (position : Nat) :
    platform.Adds (platform.create file position).2 platform.openFiles.size where
  descriptors := rfl
  holdings := rfl
  closed := rfl
  files _ _ h := getElem?_push_of_some h
  openFiles _ _ h := getElem?_push_of_some h

/-- A source opens nothing, or one descriptor with the next number. -/
theorem openSource_cases (platform : Platform) (opened : List Descriptor) (source : Source) :
    platform.openSource opened source = (opened, platform) ∨
      ∃ later number,
        platform.openSource opened source = (opened ++ [⟨platform.descriptors.size⟩], later) ∧
          platform.Adds later number := by
  cases source with
  | memory length position => exact .inr ⟨_, _, rfl, platform.create_adds _ _⟩
  | pipe => exact .inr ⟨_, _, rfl, platform.create_adds _ _⟩
  | duplicate index =>
      cases hindex : opened[index]? with
      | none => exact .inl (by simp [openSource, hindex])
      | some descriptor =>
          cases hopen : platform.openFile? descriptor with
          | none => exact .inl (by simp [openSource, hindex, duplicate, hopen])
          | some number =>
              refine .inr ⟨(platform.duplicate descriptor).2, number, ?_, ?_⟩
              · simp only [openSource, hindex, duplicate, hopen]
              · simp only [duplicate, hopen]
                exact ⟨rfl, rfl, rfl, fun _ _ h => h, fun _ _ h => h⟩

/-- Sources are opened in order, each with the next number. -/
theorem openSources_opened (platform : Platform) (sources : List Source) :
    Opened platform (platform.openSources sources).2 (platform.openSources sources).1 := by
  unfold openSources
  refine List.foldlRecOn (motive := fun (state : List Descriptor × Platform) =>
    Opened platform state.2 state.1) sources _ (.refl platform) ?_
  intro state h source _
  rcases openSource_cases state.2 state.1 source with heq | ⟨later, number, heq, hlater⟩
  · simpa only [heq] using h
  · simpa only [heq] using h.push hlater

/-- The descriptors of an offer that is opened are new. -/
theorem accept_opened (platform : Platform) (offer : Offer) :
    Opened platform (platform.accept offer).2 (platform.accept offer).1.descriptors :=
  platform.openSources_opened offer.sources

@[simp] theorem closeHandle_descriptors_size (platform : Platform) (handle : Handle) :
    (platform.closeHandle handle).descriptors.size = platform.descriptors.size := by
  unfold closeHandle
  induction handle.descriptors generalizing platform with
  | nil => rfl
  | cons descriptor rest ih =>
      rw [List.foldl_cons, ih]
      exact Array.size_setIfInBounds

@[simp] theorem release_descriptors_size (platform : Platform) (share : Share) :
    (platform.release share).descriptors.size = platform.descriptors.size := by
  cases hshare : platform.holdings[share.holding]? with
  | none => simp [release, hshare]
  | some holding => by_cases hlast : holding.owners = 1 <;> simp [release, hshare, hlast, close]

@[simp] theorem releasePlanes_descriptors_size (platform : Platform) (planes : List Plane) :
    (platform.releasePlanes planes).descriptors.size = platform.descriptors.size := by
  unfold releasePlanes
  induction planes generalizing platform with
  | nil => rfl
  | cons plane rest ih => rw [List.foldl_cons, ih, release_descriptors_size]

@[simp] theorem retainPlanes_descriptors_size (platform : Platform) (planes : List Plane) :
    (platform.retainPlanes planes).descriptors.size = platform.descriptors.size := by
  unfold retainPlanes
  induction planes generalizing platform with
  | nil => rfl
  | cons plane rest ih => exact ih (platform.retain plane.share)

end Platform

end PixelBuffer
