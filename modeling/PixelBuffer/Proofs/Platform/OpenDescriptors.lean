import Mathlib.Data.List.Perm.Lattice
import PixelBuffer.Proofs.Platform.Entries

/-!
# Which descriptors are open

`Platform.openDescriptors` lists the descriptors that are open, in the order of their numbers. An
account of a platform names each of them once (`Platform.Accounted.openDescriptors_perm`).
-/

namespace PixelBuffer

namespace Platform

/-- The descriptors that are open, in the order of their numbers. -/
def openDescriptors (platform : Platform) : List Descriptor :=
  ((List.range platform.descriptors.size).map Descriptor.mk).filter fun descriptor =>
    (platform.openFile? descriptor).isSome

/-- The descriptors that are listed are those that refer to something. -/
theorem mem_openDescriptors {platform : Platform} {descriptor : Descriptor} :
    descriptor ∈ platform.openDescriptors ↔ (platform.openFile? descriptor).isSome := by
  unfold openDescriptors
  rw [List.mem_filter, and_iff_right_of_imp]
  intro hopen
  exact List.mem_map.mpr ⟨_, List.mem_range.mpr (number_lt_of_isOpen hopen), rfl⟩

/-- The descriptors are listed in the order of their numbers. -/
theorem pairwise_openDescriptors (platform : Platform) :
    platform.openDescriptors.Pairwise fun descriptor other =>
      descriptor.number < other.number := by
  unfold openDescriptors
  refine List.Pairwise.filter _ ?_
  rw [List.pairwise_map]
  exact List.pairwise_lt_range

/-- No descriptor is listed twice. -/
theorem nodup_openDescriptors (platform : Platform) : platform.openDescriptors.Nodup := by
  refine platform.pairwise_openDescriptors.imp ?_
  rintro descriptor _ hlt rfl
  exact Nat.lt_irrefl _ hlt

/-- As many descriptors are listed as are open. -/
theorem length_openDescriptors (platform : Platform) :
    platform.openDescriptors.length = platform.openCount := by
  have hentries : platform.descriptors.toList =
      (List.range platform.descriptors.size).map fun number =>
        platform.openFile? ⟨number⟩ := by
    refine List.ext_getElem (by simp) fun number hlt _ => ?_
    have hnumber : number < platform.descriptors.size := by simpa using hlt
    simp [openFile?, hnumber]
  unfold openCount
  rw [← Array.countP_toList, hentries, List.countP_map, List.countP_eq_length_filter]
  unfold openDescriptors
  rw [List.filter_map, List.length_map]
  rfl

/-- Platforms with the same open descriptors list them alike. -/
theorem openDescriptors_eq_of_perm {platform other : Platform}
    (h : platform.openDescriptors.Perm other.openDescriptors) :
    platform.openDescriptors = other.openDescriptors := by
  refine List.Perm.eq_of_pairwise ?_ platform.pairwise_openDescriptors
    other.pairwise_openDescriptors h
  intro descriptor other _ _ hlt hgt
  exact absurd hgt (Nat.lt_asymm hlt)

namespace Accounted

variable {start now : Platform} {own : List Descriptor} {owners shares : List Share}

/-- Shares that have owners have as many duplicates. -/
theorem length_duplicates (h : start.Accounted now own owners)
    (hshares : ∀ share ∈ shares, share ∈ owners) :
    (shares.filterMap now.descriptorOf?).length = shares.length := by
  induction shares with
  | nil => rfl
  | cons share rest ih =>
      obtain ⟨descriptor, hdescriptor, -⟩ := h.duplicate share (hshares share List.mem_cons_self)
      have hrest := ih fun other hother => hshares other (List.mem_cons_of_mem _ hother)
      rw [List.filterMap_cons_some hdescriptor, List.length_cons, List.length_cons, hrest]

/-- Different shares that have owners have different duplicates. -/
theorem nodup_duplicates (h : start.Accounted now own owners) (hnodup : shares.Nodup)
    (hshares : ∀ share ∈ shares, share ∈ owners) :
    (shares.filterMap now.descriptorOf?).Nodup := by
  induction shares with
  | nil => exact List.nodup_nil
  | cons share rest ih =>
      obtain ⟨hfresh, hnodup⟩ := List.nodup_cons.mp hnodup
      have hshare := hshares share List.mem_cons_self
      have hall : ∀ other ∈ rest, other ∈ owners := fun other hother =>
        hshares other (List.mem_cons_of_mem _ hother)
      obtain ⟨descriptor, hdescriptor, -⟩ := h.duplicate share hshare
      rw [List.filterMap_cons_some hdescriptor]
      refine List.nodup_cons.mpr ⟨fun hm => ?_, ih hnodup hall⟩
      obtain ⟨other, hother, heq⟩ := List.mem_filterMap.mp hm
      rw [h.distinct share hshare other (hall other hother) (hdescriptor.trans heq.symm)] at hfresh
      exact hfresh hother

/-- What is open now is what was open at the start, what is owned alone, and one duplicate for each
share that has owners. -/
theorem openDescriptors_perm (h : start.Accounted now own owners) (hnodup : shares.Nodup)
    (hshares : ∀ share, share ∈ shares ↔ share ∈ owners) :
    now.openDescriptors.Perm
      (start.openDescriptors ++ (own ++ shares.filterMap now.descriptorOf?)) := by
  have hduplicates := h.nodup_duplicates hnodup fun share => (hshares share).mp
  have hnew : ∀ descriptor ∈ own ++ shares.filterMap now.descriptorOf?,
      start.descriptors.size ≤ descriptor.number := by
    intro descriptor hm
    rcases List.mem_append.mp hm with hm | hm
    · exact h.own_new descriptor hm
    · obtain ⟨share, hshare, hdescriptor⟩ := List.mem_filterMap.mp hm
      obtain ⟨same, hsame, hnew, -⟩ := h.duplicate share ((hshares share).mp hshare)
      cases hsame.symm.trans hdescriptor
      exact hnew
  refine (List.perm_ext_iff_of_nodup now.nodup_openDescriptors ?_).mpr fun descriptor => ?_
  · refine start.nodup_openDescriptors.append ?_ fun descriptor hold hm => ?_
    · refine h.own_nodup.append hduplicates fun descriptor hown hm => ?_
      obtain ⟨share, hshare, hdescriptor⟩ := List.mem_filterMap.mp hm
      obtain ⟨same, hsame, -, hapart⟩ := h.duplicate share ((hshares share).mp hshare)
      cases hsame.symm.trans hdescriptor
      exact hapart hown
    · have hlt := number_lt_of_isOpen (mem_openDescriptors.mp hold)
      exact absurd (hnew descriptor hm) (Nat.not_le_of_lt hlt)
  · rw [mem_openDescriptors, List.mem_append, mem_openDescriptors]
    by_cases hlt : descriptor.number < start.descriptors.size
    · rw [h.openFile?_old hlt, or_iff_left]
      exact fun hm => absurd (hnew descriptor hm) (Nat.not_le_of_lt hlt)
    · have hclosed : ¬ (start.openFile? descriptor).isSome :=
        fun hopen => hlt (number_lt_of_isOpen hopen)
      rw [h.open_iff descriptor (Nat.le_of_not_lt hlt), or_iff_right hclosed]
      simp only [List.mem_append, List.mem_filterMap, hshares]

/-- When nothing is accounted for, what is open is what was open at the start. -/
theorem openDescriptors_eq (h : start.Accounted now [] []) :
    now.openDescriptors = start.openDescriptors := by
  have hperm := h.openDescriptors_perm List.nodup_nil fun _ => Iff.rfl
  rw [List.filterMap_nil, List.append_nil, List.append_nil] at hperm
  exact openDescriptors_eq_of_perm hperm

end Accounted

end Platform

end PixelBuffer
