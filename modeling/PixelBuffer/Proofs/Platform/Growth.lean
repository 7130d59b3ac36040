import Mathlib.Data.List.Count
import Mathlib.Data.List.Perm.Basic
import PixelBuffer.Plane

/-!
# Platforms that grew by shared duplicates

A search for planes duplicates descriptors, shares the duplicates among several owners, and rewinds
the open files that it measures. `Grown before now opened rewound held` says that nothing else
happened between two platforms: every file, descriptor and holding of `before` is still there, the
open files in `rewound` are at position zero, and each entry of `opened` was given one new
descriptor under one new holding. The owners of a new holding are counted by `held`, which lists one
share for every owner; a new descriptor is open exactly while it has an owner.

Sharing a duplicate, adding an owner, removing one and rewinding each keep the relation. Read
`Grown.release` first: it is where a descriptor is closed.
-/

namespace PixelBuffer

namespace Platform

/-! ## Views -/

/-- The file behind an open file. -/
def fileAt? (platform : Platform) (opened : Nat) : Option File := do
  let file ← platform.openFiles[opened]?
  platform.files[file.file]?

/-- The open file behind a share. -/
def shareOpenFile? (platform : Platform) (share : Share) : Option Nat := do
  platform.openFile? (← platform.descriptorOf? share)

/-- The length behind a descriptor, as measuring it answers. -/
def backing (platform : Platform) (descriptor : Descriptor) : Except IoFault UInt64 :=
  (platform.measure descriptor).1

/-- The file of a descriptor is the file behind its open file. -/
theorem file?_eq_bind (platform : Platform) (descriptor : Descriptor) :
    platform.file? descriptor = (platform.openFile? descriptor).bind platform.fileAt? := by
  unfold file? fileNumber? fileAt?
  cases platform.openFile? descriptor with
  | none => rfl
  | some opened => cases h : platform.openFiles[opened]? <;> simp [h]

/-- The number of the file of a descriptor is that of its open file. -/
theorem fileNumber?_eq_bind (platform : Platform) (descriptor : Descriptor) :
    platform.fileNumber? descriptor = (platform.openFile? descriptor).bind fun opened =>
      platform.openFiles[opened]?.map OpenFile.file := by
  unfold fileNumber?
  cases platform.openFile? descriptor with
  | none => rfl
  | some opened => cases h : platform.openFiles[opened]? <;> simp [h]

/-- The file of a descriptor has a number, and the descriptor is open. -/
theorem file?_eq_some {platform : Platform} {descriptor : Descriptor} {file : File}
    (h : platform.file? descriptor = some file) :
    ∃ number, platform.fileNumber? descriptor = some number ∧
      platform.files[number]? = some file :=
  Option.bind_eq_some_iff.mp h

/-- A length can be measured exactly behind a memory file, and then it is the length of the file. -/
theorem backing_eq_ok_iff {platform : Platform} {descriptor : Descriptor} {bytes : UInt64} :
    platform.backing descriptor = .ok bytes ↔
      ∃ length, platform.file? descriptor = some (.memory length) ∧
        bytes = UInt64.ofNat length.val := by
  have hfile := platform.file?_eq_bind descriptor
  unfold backing measure
  cases ho : platform.openFile? descriptor with
  | none => simp [hfile, ho]
  | some opened =>
      cases hf : platform.file? descriptor with
      | none => simp
      | some file => cases file <;> simp [eq_comm]

/-- Measuring leaves the platform alone, or rewinds the open file of the descriptor. -/
theorem measure_eq (platform : Platform) (descriptor : Descriptor) :
    platform.measure descriptor = (platform.backing descriptor,
      match platform.backing descriptor, platform.openFile? descriptor with
      | .ok _, some opened => platform.setPosition opened 0
      | _, _ => platform) := by
  unfold backing measure
  cases platform.openFile? descriptor with
  | none => rfl
  | some opened =>
      cases platform.file? descriptor with
      | none => rfl
      | some file => cases file <;> rfl

/-- The length behind a descriptor depends on its open file and the file of that alone. -/
theorem backing_congr {platform other : Platform} {descriptor duplicate : Descriptor}
    (hopened : other.openFile? duplicate = platform.openFile? descriptor)
    (hfile : other.file? duplicate = platform.file? descriptor) :
    other.backing duplicate = platform.backing descriptor := by
  unfold backing measure
  rw [hopened, hfile]
  split <;> rfl

/-- Sharing a duplicate of an open descriptor adds one descriptor under one holding. -/
theorem shareDuplicate_eq {platform : Platform} {descriptor : Descriptor} {number : Nat}
    (h : platform.openFile? descriptor = some number) :
    platform.shareDuplicate descriptor = (.ok ⟨platform.holdings.size⟩,
      { platform with
        descriptors := platform.descriptors.push (some number)
        holdings := platform.holdings.push ⟨⟨platform.descriptors.size⟩, 1⟩ }) := by
  simp [shareDuplicate, duplicate, h, adopt]

/-- Letting go of a share counts one owner less, and closes the descriptor of the last one. -/
theorem release_eq {platform : Platform} {share : Share} {holding : Holding}
    (h : platform.holdings[share.holding]? = some holding) :
    platform.release share =
      { platform with
        descriptors :=
          if holding.owners = 1 then
            platform.descriptors.setIfInBounds holding.descriptor.number none
          else platform.descriptors
        holdings := platform.holdings.setIfInBounds share.holding
          { holding with owners := holding.owners - 1 }
        closed :=
          if holding.owners = 1 then platform.closed.push holding.descriptor
          else platform.closed } := by
  unfold release
  rw [h]
  by_cases hlast : holding.owners = 1 <;> simp [hlast, close]

/-! ## Growth -/

/-- `now` is `before` with the open files in `rewound` at position zero and a new shared duplicate
for each entry of `opened`, whose owners are listed in `held`. -/
structure Grown (before now : Platform) (opened rewound : List Nat) (held : List Share) :
    Prop where
  files : now.files = before.files
  openFiles : ∀ number, now.openFiles[number]? =
    before.openFiles[number]?.map fun file =>
      if number ∈ rewound then { file with position := 0 } else file
  descriptors : ∀ number < before.descriptors.size,
    now.descriptors[number]? = before.descriptors[number]?
  holdings : ∀ number < before.holdings.size, now.holdings[number]? = before.holdings[number]?
  descriptors_size : now.descriptors.size = before.descriptors.size + opened.length
  holdings_size : now.holdings.size = before.holdings.size + opened.length
  /-- The holdings and the descriptors of the duplicates stand in the same order. -/
  holding : ∀ index < opened.length, now.holdings[before.holdings.size + index]? =
    some ⟨⟨before.descriptors.size + index⟩, held.count ⟨before.holdings.size + index⟩⟩
  /-- A duplicate is open exactly while it has an owner. -/
  descriptor : ∀ index number, opened[index]? = some number →
    now.descriptors[before.descriptors.size + index]? =
      some (if held.count ⟨before.holdings.size + index⟩ = 0 then none else some number)
  held_new : ∀ share ∈ held, ∃ index < opened.length, share = ⟨before.holdings.size + index⟩
  /-- Only duplicates without an owner were closed. -/
  closed : ∃ gone : List Descriptor, now.closed = before.closed ++ gone.toArray ∧
    ∀ descriptor, descriptor ∈ gone ↔ ∃ index < opened.length,
      descriptor = ⟨before.descriptors.size + index⟩ ∧
        held.count ⟨before.holdings.size + index⟩ = 0

namespace Grown

variable {before now : Platform} {opened rewound : List Nat} {held : List Share}

/-- Nothing happened yet. -/
theorem refl (platform : Platform) : Grown platform platform [] [] [] where
  files := rfl
  openFiles number := by simp
  descriptors _ _ := rfl
  holdings _ _ := rfl
  descriptors_size := rfl
  holdings_size := rfl
  holding _ h := absurd h (Nat.not_lt_zero _)
  descriptor _ _ h := by simp at h
  held_new _ h := absurd h List.not_mem_nil
  closed := ⟨[], by simp, by simp⟩

/-- The order of the owners does not matter. -/
theorem perm {other : List Share} (h : Grown before now opened rewound held)
    (hperm : held.Perm other) : Grown before now opened rewound other where
  files := h.files
  openFiles := h.openFiles
  descriptors := h.descriptors
  holdings := h.holdings
  descriptors_size := h.descriptors_size
  holdings_size := h.holdings_size
  holding index hindex := by rw [h.holding index hindex, hperm.count_eq]
  descriptor index number hnumber := by rw [h.descriptor index number hnumber, hperm.count_eq]
  held_new share hshare := h.held_new share (hperm.mem_iff.mpr hshare)
  closed := by
    obtain ⟨gone, hclosed, hgone⟩ := h.closed
    exact ⟨gone, hclosed, by simpa only [hperm.count_eq] using hgone⟩

/-- A descriptor from before refers to what it referred to. -/
theorem openFile?_old (h : Grown before now opened rewound held) {descriptor : Descriptor}
    (hold : descriptor.number < before.descriptors.size) :
    now.openFile? descriptor = before.openFile? descriptor := by
  unfold openFile?
  rw [h.descriptors _ hold]

/-- An open file refers to the file that it referred to. -/
theorem fileAt?_eq (h : Grown before now opened rewound held) (number : Nat) :
    now.fileAt? number = before.fileAt? number := by
  unfold fileAt?
  rw [h.openFiles, h.files]
  cases before.openFiles[number]? with
  | none => rfl
  | some file => by_cases hm : number ∈ rewound <;> simp [hm]

/-- A descriptor that refers to an open file from before refers to the file that it did. -/
theorem fileNumber?_congr (h : Grown before now opened rewound held)
    {descriptor other : Descriptor}
    (hopened : now.openFile? descriptor = before.openFile? other) :
    now.fileNumber? descriptor = before.fileNumber? other := by
  rw [fileNumber?_eq_bind, fileNumber?_eq_bind, hopened]
  congr 1
  funext number
  rw [h.openFiles, Option.map_map]
  congr 1
  funext file
  show (if number ∈ rewound then { file with position := 0 } else file).file = file.file
  split <;> rfl

/-- The descriptor behind a share that is held is the duplicate under its holding. -/
theorem descriptorOf?_held (h : Grown before now opened rewound held) {index : Nat}
    (hindex : index < opened.length) :
    now.descriptorOf? ⟨before.holdings.size + index⟩ =
      some ⟨before.descriptors.size + index⟩ := by
  simp [descriptorOf?, h.holding index hindex]

/-- The duplicate under a share that is held is open. -/
theorem openFile?_held (h : Grown before now opened rewound held) {index number : Nat}
    (hnumber : opened[index]? = some number)
    (hheld : ⟨before.holdings.size + index⟩ ∈ held) :
    now.openFile? ⟨before.descriptors.size + index⟩ = some number := by
  have hcount : held.count ⟨before.holdings.size + index⟩ ≠ 0 :=
    Nat.ne_of_gt (List.count_pos_iff.mpr hheld)
  simp [openFile?, h.descriptor index number hnumber, hcount]

/-- A share that is held leads to the open file that was duplicated for it. -/
theorem shareOpenFile?_held (h : Grown before now opened rewound held) {index number : Nat}
    (hnumber : opened[index]? = some number)
    (hheld : ⟨before.holdings.size + index⟩ ∈ held) :
    now.shareOpenFile? ⟨before.holdings.size + index⟩ = some number := by
  have hindex : index < opened.length := (List.getElem?_eq_some_iff.mp hnumber).1
  simp [shareOpenFile?, h.descriptorOf?_held hindex, h.openFile?_held hnumber hheld]

/-- Through a duplicate the same length is measured as through the descriptor that was
duplicated. -/
theorem backing_duplicate (h : Grown before now opened rewound held) {descriptor : Descriptor}
    {index number : Nat} (hnumber : opened[index]? = some number)
    (hheld : ⟨before.holdings.size + index⟩ ∈ held)
    (hopened : before.openFile? descriptor = some number) :
    now.backing ⟨before.descriptors.size + index⟩ = before.backing descriptor := by
  have hduplicate := h.openFile?_held hnumber hheld
  apply backing_congr (hduplicate.trans hopened.symm)
  simp [file?_eq_bind, hduplicate, hopened, h.fileAt?_eq]

/-! ## Steps -/

/-- Sharing a duplicate adds an entry and its first owner. -/
theorem share_duplicate (h : Grown before now opened rewound held) {descriptor : Descriptor}
    {number : Nat} (hnumber : now.openFile? descriptor = some number) :
    (now.shareDuplicate descriptor).1 = .ok ⟨before.holdings.size + opened.length⟩ ∧
      Grown before (now.shareDuplicate descriptor).2 (opened ++ [number]) rewound
        (⟨before.holdings.size + opened.length⟩ :: held) := by
  have hfresh : (⟨before.holdings.size + opened.length⟩ : Share) ∉ held := by
    intro hm
    obtain ⟨index, hindex, heq⟩ := h.held_new _ hm
    simp only [Share.mk.injEq] at heq
    omega
  have hdescriptors := h.descriptors_size
  have hholdings := h.holdings_size
  -- the new descriptor and the new holding both take the place behind the earlier duplicates
  rw [shareDuplicate_eq hnumber]
  refine ⟨by rw [hholdings], ?_⟩
  constructor
  case files => exact h.files
  case openFiles => exact h.openFiles
  case descriptors =>
    intro index hindex
    rw [Array.getElem?_push, if_neg (by omega), h.descriptors _ hindex]
  case holdings =>
    intro index hindex
    rw [Array.getElem?_push, if_neg (by omega), h.holdings _ hindex]
  case descriptors_size => simp [hdescriptors, Nat.add_assoc]
  case holdings_size => simp [hholdings, Nat.add_assoc]
  case holding =>
    intro index hindex
    rw [List.length_append, List.length_singleton] at hindex
    rw [Array.getElem?_push, hholdings, hdescriptors]
    by_cases heq : index = opened.length
    · subst heq
      simp [List.count_eq_zero_of_not_mem hfresh]
    · rw [if_neg (by omega), h.holding index (by omega), List.count_cons_of_ne (by simp; omega)]
  case descriptor =>
    intro index other hother
    rw [Array.getElem?_push, hdescriptors]
    by_cases heq : index = opened.length
    · subst heq
      rw [List.getElem?_concat_length, Option.some.injEq] at hother
      simp [hother]
    · have hindex : index < opened.length := by
        have := (List.getElem?_eq_some_iff.mp hother).1
        simp only [List.length_append, List.length_singleton] at this
        omega
      rw [List.getElem?_append_left hindex] at hother
      rw [if_neg (by omega), h.descriptor index other hother,
        List.count_cons_of_ne (by simp; omega)]
  case held_new =>
    intro share hshare
    rw [List.length_append, List.length_singleton]
    rcases List.mem_cons.mp hshare with rfl | hm
    · exact ⟨opened.length, by omega, rfl⟩
    · obtain ⟨index, hindex, rfl⟩ := h.held_new _ hm
      exact ⟨index, by omega, rfl⟩
  case closed =>
    obtain ⟨gone, hclosed, hgone⟩ := h.closed
    refine ⟨gone, hclosed, fun descriptor => (hgone descriptor).trans ?_⟩
    rw [List.length_append, List.length_singleton]
    constructor
    · rintro ⟨index, hindex, hdescriptor, hcount⟩
      refine ⟨index, by omega, hdescriptor, ?_⟩
      rwa [List.count_cons_of_ne (by simp; omega)]
    · rintro ⟨index, hindex, hdescriptor, hcount⟩
      by_cases heq : index = opened.length
      · subst heq
        simp at hcount
      · rw [List.count_cons_of_ne (by simp; omega)] at hcount
        exact ⟨index, by omega, hdescriptor, hcount⟩

/-- A further owner is counted. -/
theorem retain {share : Share} (h : Grown before now opened rewound held) (hshare : share ∈ held) :
    Grown before (now.retain share) opened rewound (share :: held) := by
  obtain ⟨kept, hkept, rfl⟩ := h.held_new _ hshare
  unfold Platform.retain
  constructor
  case files => exact h.files
  case openFiles => exact h.openFiles
  case descriptors => exact h.descriptors
  case holdings =>
    intro index hindex
    rw [Array.getElem?_modify, if_neg (by simp; omega), h.holdings _ hindex]
  case descriptors_size => exact h.descriptors_size
  case holdings_size => simp [h.holdings_size]
  case holding =>
    intro index hindex
    rw [Array.getElem?_modify, h.holding index hindex]
    by_cases heq : index = kept
    · subst heq
      simp
    · rw [if_neg (by simp; omega), List.count_cons_of_ne (by simp; omega)]
  case descriptor =>
    intro index number hnumber
    rw [h.descriptor index number hnumber]
    by_cases heq : index = kept
    · subst heq
      have hpos := List.count_pos_iff.mpr hshare
      rw [if_neg (by omega), if_neg (by simp)]
    · rw [List.count_cons_of_ne (by simp; omega)]
  case held_new =>
    intro share hm
    rcases List.mem_cons.mp hm with rfl | hm
    · exact ⟨kept, hkept, rfl⟩
    · exact h.held_new share hm
  case closed =>
    obtain ⟨gone, hclosed, hgone⟩ := h.closed
    refine ⟨gone, hclosed, fun descriptor => (hgone descriptor).trans ?_⟩
    have hpos := List.count_pos_iff.mpr hshare
    -- a duplicate that gets an owner more had one before
    refine exists_congr fun index => and_congr_right fun _ => and_congr_right fun _ => ?_
    by_cases heq : index = kept
    · subst heq
      rw [List.count_cons_self]
      omega
    · rw [List.count_cons_of_ne (by simp; omega)]

/-- An owner less is counted, and the duplicate of the last one is closed. -/
theorem release {share : Share} (h : Grown before now opened rewound held)
    (hshare : share ∈ held) :
    Grown before (now.release share) opened rewound (held.erase share) := by
  obtain ⟨gone, hgone, rfl⟩ := h.held_new _ hshare
  have hpos := List.count_pos_iff.mpr hshare
  have hholdings := h.holdings_size
  have hdescriptors := h.descriptors_size
  -- only the duplicate of this holding can change, and only when its last owner lets go
  rw [release_eq (h.holding gone hgone)]
  constructor
  case files => exact h.files
  case openFiles => exact h.openFiles
  case descriptors =>
    intro index hindex
    dsimp only
    split
    · rw [Array.getElem?_setIfInBounds, if_neg (by omega), h.descriptors _ hindex]
    · exact h.descriptors _ hindex
  case holdings =>
    intro index hindex
    rw [Array.getElem?_setIfInBounds, if_neg (by dsimp only; omega), h.holdings _ hindex]
  case descriptors_size =>
    dsimp only
    split <;> simp [hdescriptors]
  case holdings_size => simp [hholdings]
  case holding =>
    intro index hindex
    rw [Array.getElem?_setIfInBounds]
    by_cases heq : index = gone
    · subst heq
      rw [if_pos rfl, if_pos (by dsimp only; omega), List.count_erase_self]
    · rw [if_neg (by dsimp only; omega), h.holding index hindex,
        List.count_erase_of_ne (by simp; omega)]
  case descriptor =>
    intro index number hnumber
    have hindex : index < opened.length := (List.getElem?_eq_some_iff.mp hnumber).1
    by_cases heq : index = gone
    · subst heq
      rw [List.count_erase_self]
      by_cases hlast : held.count ⟨before.holdings.size + index⟩ = 1
      · simp only [hlast, if_true, Nat.sub_self]
        rw [Array.getElem?_setIfInBounds, if_pos rfl, if_pos (by omega)]
      · dsimp only
        rw [if_neg hlast, if_neg (by omega), h.descriptor index number hnumber,
          if_neg (by omega)]
    · rw [List.count_erase_of_ne (by simp; omega), ← h.descriptor index number hnumber]
      dsimp only
      split
      · rw [Array.getElem?_setIfInBounds, if_neg (by omega)]
      · rfl
  case held_new => exact fun share hm => h.held_new share (List.mem_of_mem_erase hm)
  case closed =>
    obtain ⟨closed, hclosed, hmem⟩ := h.closed
    have hcount : ∀ index, (held.erase ⟨before.holdings.size + gone⟩).count
        ⟨before.holdings.size + index⟩ = 0 ↔ held.count ⟨before.holdings.size + index⟩ = 0 ∨
          index = gone ∧ held.count ⟨before.holdings.size + gone⟩ = 1 := by
      intro index
      by_cases heq : index = gone
      · subst heq
        rw [List.count_erase_self]
        omega
      · rw [List.count_erase_of_ne (by simp; omega)]
        simp [heq]
    by_cases hlast : held.count ⟨before.holdings.size + gone⟩ = 1
    · refine ⟨closed ++ [⟨before.descriptors.size + gone⟩], by simp [hlast, hclosed], ?_⟩
      intro descriptor
      rw [List.mem_append, List.mem_singleton, hmem]
      constructor
      · rintro (⟨index, hindex, hdescriptor, hnone⟩ | rfl)
        · exact ⟨index, hindex, hdescriptor, (hcount index).mpr (.inl hnone)⟩
        · exact ⟨gone, hgone, rfl, (hcount gone).mpr (.inr ⟨rfl, hlast⟩)⟩
      · rintro ⟨index, hindex, hdescriptor, hnone⟩
        rcases (hcount index).mp hnone with hnone | ⟨rfl, -⟩
        · exact .inl ⟨index, hindex, hdescriptor, hnone⟩
        · exact .inr hdescriptor
    · refine ⟨closed, by simp [hlast, hclosed], fun descriptor => (hmem descriptor).trans ?_⟩
      simp only [hcount, hlast, and_false, or_false]

/-- Letting go of owners in order leaves the others. -/
theorem release_all {rest : List Share} (shares : List Share)
    (h : Grown before now opened rewound (shares ++ rest)) :
    Grown before (shares.foldl Platform.release now) opened rewound rest := by
  induction shares generalizing now with
  | nil => exact h
  | cons share shares ih =>
      have hfirst := h.release (List.mem_append_left rest List.mem_cons_self)
      rw [List.cons_append, List.erase_cons_head] at hfirst
      exact ih hfirst

/-- Rewinding an open file is noted. -/
theorem rewind (h : Grown before now opened rewound held) (number : Nat) :
    Grown before (now.setPosition number 0) opened (number :: rewound) held := by
  refine { h with openFiles := ?_ }
  intro index
  simp only [setPosition]
  rw [Array.getElem?_modify, h.openFiles]
  by_cases heq : number = index
  · subst heq
    cases before.openFiles[number]? with
    | none => simp
    | some file => by_cases hm : number ∈ rewound <;> simp [hm]
  · simp [heq, Ne.symm heq]

end Grown
end Platform
end PixelBuffer
