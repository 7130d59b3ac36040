import Mathlib.Data.List.Dedup
import PixelBuffer.Proofs.Platform.Desk
import PixelBuffer.Proofs.Platform.OpenDescriptors

/-!
# What is known of a desk after its history

`Desk.Traced` collects four invariants of a desk and its history, each kept by every step: the
descriptors that are open are accounted for (`Desk.Accounted`), every open file has a file of its
own (`Platform.OwnFiles`), shared slots are named by their holdings (`Desk.Clones`), and entries by
their open files (`Desk.Links`). Read `Desk.Performs.openFile?_filled` and
`Desk.Performs.shared?_filled` first: they say from where an entry that is filled has its name.
-/

namespace PixelBuffer

namespace Desk

variable {desk after : Desk} {step : DeskStep} {answer : DeskAnswer} {history : DeskHistory}

/-- A new raw slot is full. -/
theorem raw?_pushRaw {platform : Platform} {descriptor : Descriptor} :
    (desk.pushRaw platform descriptor).2.raw? desk.raw.size = some descriptor := by
  simp [raw?, pushRaw]

/-- A new shared slot is full. -/
theorem shared?_pushShared {platform : Platform} {share : Share} :
    (desk.pushShared platform share).2.shared? desk.shared.size = some share := by
  simp [shared?, pushShared]

/-! ## The account of a desk -/

/-- A descriptor that is owned alone is listed. -/
theorem mem_owned {raw : Nat} {descriptor : Descriptor} (h : desk.raw? raw = some descriptor) :
    descriptor ∈ desk.owned := by
  have hslot : desk.raw[raw]? = some (some descriptor) := Option.join_eq_some_iff.mp h
  exact List.mem_filterMap.mpr
    ⟨_, Array.mem_toList_iff.mpr (Array.mem_of_getElem? hslot), rfl⟩

/-- A share in a slot is listed. -/
theorem mem_shares {shared : Nat} {share : Share} (h : desk.shared? shared = some share) :
    share ∈ desk.shares := by
  have hslot : desk.shared[shared]? = some (some share) := Option.join_eq_some_iff.mp h
  exact List.mem_filterMap.mpr
    ⟨_, Array.mem_toList_iff.mpr (Array.mem_of_getElem? hslot), rfl⟩

/-- A descriptor in a new slot is listed last. -/
theorem owned_pushRaw (platform : Platform) (descriptor : Descriptor) :
    (desk.pushRaw platform descriptor).2.owned = desk.owned ++ [descriptor] := by
  simp [owned, pushRaw]

/-- A share in a new slot is listed last. -/
theorem shares_pushShared (platform : Platform) (share : Share) :
    (desk.pushShared platform share).2.shares = desk.shares ++ [share] := by
  simp [shares, pushShared]

/-- The descriptor in a slot that is emptied is listed no more. -/
theorem owned_emptyRaw {raw : Nat} {descriptor : Descriptor}
    (h : desk.raw? raw = some descriptor) :
    desk.owned.Perm (descriptor :: (desk.emptyRaw raw).owned) := by
  have hslot : desk.raw.toList[raw]? = some (some descriptor) := by
    rw [Array.getElem?_toList]
    exact Option.join_eq_some_iff.mp h
  unfold owned emptyRaw
  rw [Array.toList_setIfInBounds]
  exact Platform.filterMap_set_none hslot

/-- The share in a slot that is emptied is listed once less. -/
theorem shares_emptyShared {shared : Nat} {share : Share}
    (h : desk.shared? shared = some share) :
    desk.shares.Perm (share :: (desk.emptyShared shared).shares) := by
  have hslot : desk.shared.toList[shared]? = some (some share) := by
    rw [Array.getElem?_toList]
    exact Option.join_eq_some_iff.mp h
  unfold shares emptyShared
  rw [Array.toList_setIfInBounds]
  exact Platform.filterMap_set_none hslot

/-- All that is open is what is owned alone and one descriptor for each share. -/
def Accounted (desk : Desk) : Prop :=
  Platform.Accounted {} desk.platform desk.owned desk.shares

/-- The empty desk is accounted for. -/
theorem accounted_empty : Accounted {} :=
  (Platform.Opened.refl {}).accounted

/-- A step is accounted for. -/
theorem Performs.accounted (h : desk.Performs step answer after) (haccounted : desk.Accounted) :
    after.Accounted := by
  unfold Accounted at haccounted ⊢
  cases h with
  | still => exact haccounted
  | @created _ file position =>
      have hnow := haccounted.trans (desk.platform.create_adds file position).opened.accounted
      rw [List.append_nil] at hnow
      rw [owned_pushRaw]
      exact hnow
  | duplicated _ isOpen =>
      have hnow := haccounted.trans (Platform.shareDuplicate_grown isOpen).accounted
      rw [List.append_nil] at hnow
      rw [shares_pushShared]
      exact hnow
  | adopted present =>
      have hnow := (haccounted.perm (owned_emptyRaw present) (.refl _)).adopt
      rw [shares_pushShared]
      exact hnow.perm (.refl _) (List.perm_append_singleton _ _).symm
  | retained present =>
      have hnow := haccounted.retain (mem_shares present)
      rw [shares_pushShared]
      exact hnow.perm (.refl _) (List.perm_append_singleton _ _).symm
  | unshared _ _ isOpen =>
      have hnow := haccounted.trans (Platform.duplicate_adds isOpen).opened.accounted
      rw [List.append_nil] at hnow
      rw [owned_pushRaw]
      exact hnow
  | measured => exact haccounted.withFiles _ _
  | sought => exact haccounted.withFiles _ _
  | truncated => exact haccounted.withFiles _ _
  | closed present => exact (haccounted.perm (owned_emptyRaw present) (.refl _)).close
  | @released _ share present =>
      have hnow := haccounted.release (mem_shares present)
      have hleft := (shares_emptyShared present).erase share
      rw [List.erase_cons_head] at hleft
      exact hnow.perm (.refl _) hleft

/-- What is in an entry leads to a descriptor that is open. -/
theorem Accounted.isOpen (h : desk.Accounted) {entry : Entry} {content : Descriptor ⊕ Share}
    (hcontent : desk.content? entry = some content) :
    ∃ descriptor, desk.platform.behind? content = some descriptor ∧
      (desk.platform.openFile? descriptor).isSome := by
  cases entry with
  | raw slot =>
      obtain ⟨descriptor, hraw, rfl⟩ := Option.map_eq_some_iff.mp hcontent
      refine ⟨descriptor, rfl, (h.open_iff descriptor (Nat.zero_le _)).mpr ?_⟩
      exact .inl (mem_owned hraw)
  | shared slot =>
      obtain ⟨share, hshared, rfl⟩ := Option.map_eq_some_iff.mp hcontent
      obtain ⟨descriptor, hleads, -, -, hopen⟩ := h.duplicate_isOpen (mem_shares hshared)
      exact ⟨descriptor, hleads, hopen⟩

/-- There are as many descriptors open as are owned alone, and as there are different shares. -/
theorem Accounted.openCount_eq (h : desk.Accounted) :
    desk.platform.openCount = desk.owned.length + desk.shares.dedup.length := by
  have hperm := h.openDescriptors_perm desk.shares.nodup_dedup fun share => List.mem_dedup
  have hlength := hperm.length_eq
  have hshares := h.length_duplicates fun share => (List.mem_dedup (l := desk.shares)).mp
  rw [Platform.length_openDescriptors, List.length_append, List.length_append, hshares] at hlength
  exact hlength.trans (Nat.zero_add _)

/-! ## Files of their own -/

end Desk

namespace Platform

/-- Every open file has a file of its own, which has the same number. -/
structure OwnFiles (platform : Platform) : Prop where
  size_eq : platform.files.size = platform.openFiles.size
  file_eq : ∀ (number : Nat) opened, platform.openFiles[number]? = some opened →
    opened.file = number

/-- Removing an owner leaves the files alone. -/
theorem release_files (platform : Platform) (share : Share) :
    (platform.release share).files = platform.files ∧
      (platform.release share).openFiles = platform.openFiles := by
  unfold release
  split
  · exact ⟨rfl, rfl⟩
  · split <;> exact ⟨rfl, rfl⟩

namespace OwnFiles

variable {platform : Platform}

/-- A new file comes with an open file of its own. -/
theorem create (h : platform.OwnFiles) (file : File) (position : Nat) :
    (platform.create file position).2.OwnFiles where
  size_eq := by simp [Platform.create, h.size_eq]
  file_eq number opened hopened := by
    simp only [Platform.create, Array.getElem?_push] at hopened
    split at hopened
    · cases hopened
      rename_i heq
      rw [heq, h.size_eq]
    · exact h.file_eq _ opened hopened

/-- Positions do not matter. -/
theorem setPosition (h : platform.OwnFiles) (number position : Nat) :
    (platform.setPosition number position).OwnFiles where
  size_eq := by simp [Platform.setPosition, h.size_eq]
  file_eq index opened hopened := by
    simp only [Platform.setPosition, Array.getElem?_modify] at hopened
    split at hopened
    · obtain ⟨same, hsame, heq⟩ := Option.map_eq_some_iff.mp hopened
      rw [← heq]
      exact h.file_eq index same hsame
    · exact h.file_eq _ opened hopened

/-- Lengths do not matter. -/
theorem setFile (h : platform.OwnFiles) (number : Nat) (file : File) :
    Platform.OwnFiles { platform with files := platform.files.setIfInBounds number file } where
  size_eq := by simp [h.size_eq]
  file_eq := h.file_eq

/-- The file of an open file has its number. -/
theorem fileAt?_eq (h : platform.OwnFiles) {number : Nat}
    (hlt : number < platform.openFiles.size) :
    platform.fileAt? number = platform.files[number]? := by
  have hopened := Array.getElem?_eq_getElem hlt
  unfold fileAt?
  rw [hopened]
  exact congrArg (platform.files[·]?) (h.file_eq number _ hopened)

/-- The file of a descriptor has the number of its open file. -/
theorem fileNumber?_eq (h : platform.OwnFiles) {descriptor : Descriptor} {number : Nat}
    (hopen : platform.openFile? descriptor = some number)
    (hlt : number < platform.openFiles.size) : platform.fileNumber? descriptor = some number := by
  have hopened := Array.getElem?_eq_getElem hlt
  rw [fileNumber?_eq_bind, hopen, Option.bind_some, hopened, Option.map_some]
  exact congrArg some (h.file_eq number _ hopened)

/-- Nothing else matters. -/
theorem congr {other : Platform} (h : platform.OwnFiles) (hfiles : other.files = platform.files)
    (hopenFiles : other.openFiles = platform.openFiles) : other.OwnFiles where
  size_eq := by rw [hfiles, hopenFiles, h.size_eq]
  file_eq := by
    rw [hopenFiles]
    exact h.file_eq

end OwnFiles

end Platform

namespace Desk

variable {desk after : Desk} {step : DeskStep} {answer : DeskAnswer} {history : DeskHistory}

/-- A step leaves every open file with a file of its own. -/
theorem Performs.ownFiles (h : desk.Performs step answer after)
    (hown : desk.platform.OwnFiles) : after.platform.OwnFiles := by
  cases h with
  | still => exact hown
  | created => exact hown.create _ _
  | duplicated _ isOpen =>
      rw [Platform.shareDuplicate_eq isOpen]
      exact hown.congr rfl rfl
  | adopted => exact hown.congr rfl rfl
  | retained => exact hown.congr rfl rfl
  | unshared _ _ isOpen =>
      simp only [Platform.duplicate, isOpen]
      exact hown.congr rfl rfl
  | measured => exact hown.setPosition _ _
  | sought => exact hown.setPosition _ _
  | truncated => exact hown.setFile _ _
  | closed => exact hown.congr rfl rfl
  | @released _ share =>
      obtain ⟨hfiles, hopenFiles⟩ := desk.platform.release_files share
      exact hown.congr hfiles hopenFiles

/-! ## Shared slots and their holdings -/

/-- What is in a shared slot is a share. -/
theorem content?_shared {slot : Nat} {content : Descriptor ⊕ Share} :
    desk.content? (.shared slot) = some content ↔
      ∃ share, desk.shared? slot = some share ∧ .inr share = content :=
  Option.map_eq_some_iff

/-- A new share is a clone of that of the slot that was cloned, or has a new holding. -/
theorem Performs.shared?_filled (h : desk.Performs step answer after) {slot : Nat}
    (hfilled : step.filled? answer = some (.shared slot)) :
    (∃ source, (step, answer) = (.retain source, .slot slot) ∧ desk.Live (.shared source) ∧
        after.shared? slot = desk.shared? source) ∨
      (∀ source, step ≠ .retain source) ∧
        after.shared? slot = some ⟨desk.platform.holdings.size⟩ ∧
        desk.platform.holdings.size < after.platform.holdings.size := by
  cases h with
  | still still =>
      rw [filled?_of_still still] at hfilled
      cases hfilled
  | @duplicated raw number descriptor _ isOpen =>
      cases hfilled
      refine .inr ⟨by simp, shared?_pushShared, ?_⟩
      rw [Platform.shareDuplicate_eq isOpen]
      simp [pushShared]
  | adopted =>
      cases hfilled
      exact .inr ⟨by simp, shared?_pushShared, by simp [pushShared, Platform.adopt]⟩
  | @retained source share present =>
      cases hfilled
      exact .inl ⟨source, rfl, by simp [Live, content?, present],
        shared?_pushShared.trans present.symm⟩
  | created => cases hfilled
  | unshared => cases hfilled
  | @measured _ entry _ _ _ measures =>
      subst measures
      cases entry <;> cases hfilled
  | sought => cases hfilled
  | truncated => cases hfilled
  | closed => cases hfilled
  | released => cases hfilled

/-- Shared slots are named by their holdings, which they share exactly with their clones. -/
structure Clones (history : DeskHistory) (desk : Desk) (holder : Nat → Nat) : Prop where
  holder_eq : ∀ {slot share}, desk.shared? slot = some share → share.holding = holder slot
  classes : Classifies
    (fun source new => (DeskStep.retain source, DeskAnswer.slot new) ∈ history)
    (· < desk.shared.size) holder desk.platform.holdings.size

/-- A share that was in its slot before a step keeps its name. -/
theorem Clones.holder_kept {holder : Nat → Nat} (hclones : Clones history desk holder)
    (h : desk.Performs step answer after) {slot : Nat}
    (hold : step.filled? answer ≠ some (.shared slot)) {share : Share}
    (hshared : after.shared? slot = some share) : share.holding = holder slot := by
  obtain ⟨same, hbefore, heq⟩ := content?_shared.mp
    (h.becomes.content hold (content?_shared.mpr ⟨share, hshared, rfl⟩))
  cases heq
  exact hclones.holder_eq hbefore

/-- A step keeps names for the holdings of shared slots. -/
theorem Performs.clones (h : desk.Performs step answer after) {holder : Nat → Nat}
    (hclones : Clones history desk holder) :
    ∃ holder', Clones (history ++ [(step, answer)]) after holder' := by
  have hgrows := h.keeps.holdings_size
  have hknown : ∀ slot, slot < after.shared.size ↔
      slot < desk.shared.size ∨ step.filled? answer = some (.shared slot) := fun slot =>
    h.becomes.known (.shared slot)
  by_cases hfills : ∃ new, step.filled? answer = some (.shared new)
  · obtain ⟨new, hfilled⟩ := hfills
    have hnew : ¬ new < desk.shared.size := h.becomes.fresh hfilled
    have hother : ∀ {slot}, slot ≠ new → step.filled? answer ≠ some (.shared slot) := by
      intro slot hne heq
      cases hfilled.symm.trans heq
      exact hne rfl
    simp only [hfilled, Option.some.injEq, Entry.shared.injEq, @eq_comm _ new] at hknown
    rcases h.shared?_filled hfilled with ⟨source, hdone, hsource, hclone⟩ | ⟨hno, hshare, hlt⟩
    · -- a clone has the name of its source
      refine ⟨Function.update holder new (holder source), fun {slot share} hshared => ?_, ?_⟩
      · by_cases heq : slot = new
        · subst heq
          rw [Function.update_self]
          exact hclones.holder_eq (hclone.symm.trans hshared)
        · rw [Function.update_of_ne heq]
          exact hclones.holder_kept h (hother heq) hshared
      · refine (hclones.classes.link hnew hsource.known).congr (fun a b => ?_) hknown hgrows
        rw [hdone]
        simp
    · -- a new holding has a name of its own
      refine ⟨Function.update holder new desk.platform.holdings.size,
        fun {slot share} hshared => ?_, ?_⟩
      · by_cases heq : slot = new
        · subst heq
          cases hshare.symm.trans hshared
          rw [Function.update_self]
        · rw [Function.update_of_ne heq]
          exact hclones.holder_kept h (hother heq) hshared
      · refine (hclones.classes.root hnew).congr (fun a b => ?_) hknown hlt
        simp only [List.mem_append, List.mem_singleton, Prod.mk.injEq]
        exact or_iff_left fun hdone => hno a hdone.1.symm
  · -- no shared slot is filled
    have hnone : ∀ slot, step.filled? answer ≠ some (.shared slot) := fun slot heq =>
      hfills ⟨slot, heq⟩
    simp only [hnone, or_false] at hknown
    refine ⟨holder, fun hshared => hclones.holder_kept h (hnone _) hshared, ?_⟩
    refine hclones.classes.congr (fun a b => ?_) hknown hgrows
    simp only [List.mem_append, List.mem_singleton]
    refine or_iff_left fun hdone => hnone b ?_
    cases hdone
    rfl

/-! ## Entries and their open files -/

/-- The open file of an entry. -/
def openFile? (desk : Desk) (entry : Entry) : Option Nat :=
  (desk.descriptor? entry).bind desk.platform.openFile?

/-- The open file of a full entry. -/
theorem openFile?_of_content {entry : Entry} {content : Descriptor ⊕ Share}
    {descriptor : Descriptor} (hcontent : desk.content? entry = some content)
    (hleads : desk.platform.behind? content = some descriptor) :
    desk.openFile? entry = desk.platform.openFile? descriptor := by
  simp [openFile?, descriptor?, hcontent, hleads]

/-- The open file of a full raw slot. -/
theorem openFile?_raw {raw : Nat} {descriptor : Descriptor}
    (h : desk.raw? raw = some descriptor) :
    desk.openFile? (.raw raw) = desk.platform.openFile? descriptor := by
  simp [openFile?, descriptor?, content?, h, Platform.behind?]

/-- The open file of a full shared slot. -/
theorem openFile?_shared {shared : Nat} {share : Share}
    (h : desk.shared? shared = some share) :
    desk.openFile? (.shared shared) = desk.platform.shareOpenFile? share := by
  simp [openFile?, descriptor?, content?, h, Platform.behind?, Platform.shareOpenFile?]

/-- What is in an entry leads to the same descriptor as before. -/
theorem behind?_kept {before now : Platform} (h : before.Keeps now)
    {content : Descriptor ⊕ Share} {descriptor : Descriptor}
    (hleads : before.behind? content = some descriptor) :
    now.behind? content = some descriptor := by
  cases content with
  | inl own => exact hleads
  | inr share => exact h.descriptorOf?_eq hleads

/-- An entry that keeps what is in it keeps its open file. -/
theorem Accounted.openFile?_kept (h : desk.Accounted) (hafter : after.Accounted)
    (hkeeps : desk.platform.Keeps after.platform) {entry : Entry}
    {content : Descriptor ⊕ Share} (hcontent : desk.content? entry = some content)
    (hsame : after.content? entry = some content) :
    after.openFile? entry = desk.openFile? entry := by
  obtain ⟨descriptor, hleads, hopen⟩ := h.isOpen hcontent
  obtain ⟨same, hleads', hopen'⟩ := hafter.isOpen hsame
  cases (behind?_kept hkeeps hleads).symm.trans hleads'
  obtain ⟨number, hnumber⟩ := Option.isSome_iff_exists.mp hopen
  rw [openFile?_of_content hsame hleads', openFile?_of_content hcontent hleads, hnumber]
  exact hkeeps.openFile?_eq hnumber hopen'

/-- An entry that is filled has the open file of its source, or a new one. -/
theorem Performs.openFile?_filled (h : desk.Performs step answer after) {new : Entry}
    (hfilled : step.filled? answer = some new) :
    (∃ source, step.source? = some source ∧ desk.Live source ∧
        after.openFile? new = desk.openFile? source) ∨
      step.source? = none ∧ after.openFile? new = some desk.platform.openFiles.size ∧
        desk.platform.openFiles.size < after.platform.openFiles.size := by
  cases h with
  | still still =>
      rw [filled?_of_still still] at hfilled
      cases hfilled
  | @created _ file position =>
      cases hfilled
      refine .inr ⟨rfl, ?_, by simp [pushRaw, Platform.create]⟩
      rw [openFile?_raw raw?_pushRaw]
      exact (desk.platform.create_adds file position).openFile?_new
  | @duplicated raw number descriptor present isOpen =>
      cases hfilled
      refine .inl ⟨.raw raw, rfl, by simp [Live, content?, present], ?_⟩
      rw [openFile?_shared shared?_pushShared, openFile?_raw present, isOpen]
      have hnumber : [number][0]? = some number := rfl
      exact (Platform.shareDuplicate_grown isOpen).shareOpenFile?_held hnumber List.mem_cons_self
  | @adopted raw descriptor present =>
      cases hfilled
      refine .inl ⟨.raw raw, rfl, by simp [Live, content?, present], ?_⟩
      refine (openFile?_shared shared?_pushShared).trans ?_
      rw [openFile?_raw present]
      show ((desk.platform.adopt descriptor).2.descriptorOf? _).bind _ = _
      rw [desk.platform.descriptorOf?_adopt]
      rfl
  | @retained shared share present =>
      cases hfilled
      refine .inl ⟨.shared shared, rfl, by simp [Live, content?, present], ?_⟩
      rw [openFile?_shared shared?_pushShared, openFile?_shared present]
      show ((desk.platform.retain share).descriptorOf? share).bind _ = _
      rw [desk.platform.descriptorOf?_retain]
      rfl
  | @unshared shared number share descriptor present leads isOpen =>
      cases hfilled
      refine .inl ⟨.shared shared, rfl, by simp [Live, content?, present], ?_⟩
      rw [openFile?_raw raw?_pushRaw, openFile?_shared present]
      show (desk.platform.duplicate descriptor).2.openFile? _ =
        (desk.platform.descriptorOf? share).bind _
      rw [leads, (Platform.duplicate_adds isOpen).openFile?_new]
      exact isOpen.symm
  | @measured _ entry _ _ _ measures =>
      subst measures
      cases entry <;> cases hfilled
  | sought => cases hfilled
  | truncated => cases hfilled
  | closed => cases hfilled
  | released => cases hfilled

/-- Entries are named by their open files, which they share exactly with the entries that they are
linked to. -/
structure Links (history : DeskHistory) (desk : Desk) (origin : Entry → Nat) : Prop where
  origin_eq : ∀ {entry}, desk.Live entry → desk.openFile? entry = some (origin entry)
  classes : Classifies history.Derived desk.Known origin desk.platform.openFiles.size

/-- An entry that is full after a step, and was not filled by it, keeps its name. -/
theorem Links.origin_kept {origin : Entry → Nat} (hlinks : Links history desk origin)
    (h : desk.Performs step answer after) (haccounted : desk.Accounted) {entry : Entry}
    (hold : step.filled? answer ≠ some entry) (hlive : after.Live entry) :
    after.openFile? entry = some (origin entry) := by
  obtain ⟨content, hcontent⟩ := Option.isSome_iff_exists.mp hlive
  have hbefore := h.becomes.content hold hcontent
  have hsame := haccounted.openFile?_kept (h.accounted haccounted) h.keeps hbefore hcontent
  rw [hsame]
  exact hlinks.origin_eq (by simp [Live, hbefore])

/-- A step keeps names for the open files of entries. -/
theorem Performs.links (h : desk.Performs step answer after) (haccounted : desk.Accounted)
    {origin : Entry → Nat} (hlinks : Links history desk origin) :
    ∃ origin', Links (history ++ [(step, answer)]) after origin' := by
  have hgrows := h.keeps.openFiles_size
  have hknown := h.becomes.known
  cases hfilled : step.filled? answer with
  | none =>
      simp only [hfilled, reduceCtorEq, or_false] at hknown
      refine ⟨origin, fun hlive => hlinks.origin_kept h haccounted (by simp [hfilled]) hlive, ?_⟩
      refine hlinks.classes.congr (fun a b => ?_) hknown hgrows
      simp [DeskHistory.derived_append, hfilled]
  | some new =>
      have hnew := h.becomes.fresh hfilled
      simp only [hfilled, Option.some.injEq, @eq_comm _ new] at hknown
      have hother : ∀ {entry}, entry ≠ new → step.filled? answer ≠ some entry := by
        intro entry hne heq
        cases hfilled.symm.trans heq
        exact hne rfl
      rcases h.openFile?_filled hfilled with
        ⟨source, hsource, hlive, hsame⟩ | ⟨hroot, hnumber, hlt⟩
      · -- what is derived has the name of its source
        refine ⟨Function.update origin new (origin source), fun {entry} hentry => ?_, ?_⟩
        · by_cases heq : entry = new
          · subst heq
            rw [Function.update_self, hsame]
            exact hlinks.origin_eq hlive
          · rw [Function.update_of_ne heq]
            exact hlinks.origin_kept h haccounted (hother heq) hentry
        · refine (hlinks.classes.link hnew hlive.known).congr (fun a b => ?_) hknown hgrows
          simp [DeskHistory.derived_append, hfilled, hsource, eq_comm]
      · -- a new open file has a name of its own
        refine ⟨Function.update origin new desk.platform.openFiles.size,
          fun {entry} hentry => ?_, ?_⟩
        · by_cases heq : entry = new
          · subst heq
            rw [Function.update_self]
            exact hnumber
          · rw [Function.update_of_ne heq]
            exact hlinks.origin_kept h haccounted (hother heq) hentry
        · refine (hlinks.classes.root hnew).congr (fun a b => ?_) hknown hlt
          simp [DeskHistory.derived_append, hroot]

/-! ## Any history -/

/-- What is known of a desk after a history. -/
structure Traced (history : DeskHistory) (desk : Desk) (holder : Nat → Nat)
    (origin : Entry → Nat) : Prop where
  accounted : desk.Accounted
  ownFiles : desk.platform.OwnFiles
  clones : Clones history desk holder
  links : Links history desk origin

/-- The empty desk has no history. -/
theorem traced_empty : Traced [] {} (fun _ => 0) (fun _ => 0) where
  accounted := accounted_empty
  ownFiles := ⟨rfl, fun _ _ h => by simp at h⟩
  clones := {
    holder_eq := fun h => by simp [shared?] at h
    classes := .nothing (fun _ _ => List.not_mem_nil) fun _ => Nat.not_lt_zero _ }
  links := {
    origin_eq := fun {entry} h => by
      cases entry <;> simp [Live, content?, raw?, shared?] at h
    classes := .nothing
      (by rintro _ _ ⟨_, _, hm, -⟩; exact List.not_mem_nil hm)
      (by rintro (slot | slot) h <;> exact Nat.not_lt_zero _ h) }

/-- Any steps keep track of a desk. -/
theorem Traced.performAll {holder : Nat → Nat} {origin : Entry → Nat}
    (h : Traced history desk holder origin) (steps : List DeskStep) :
    ∃ holder' origin', Traced (history ++ steps.zip (desk.performAll steps).1)
      (desk.performAll steps).2 holder' origin' := by
  induction steps generalizing history desk holder origin with
  | nil => exact ⟨holder, origin, by simpa [Desk.performAll] using h⟩
  | cons step rest ih =>
      have hperforms := desk.perform_performs step
      obtain ⟨holder', hclones⟩ := hperforms.clones h.clones
      obtain ⟨origin', hlinks⟩ := hperforms.links h.accounted h.links
      have hrest := ih ⟨hperforms.accounted h.accounted, hperforms.ownFiles h.ownFiles, hclones,
        hlinks⟩
      rw [List.append_assoc] at hrest
      exact hrest

end Desk

end PixelBuffer
