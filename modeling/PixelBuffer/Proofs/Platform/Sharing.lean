import PixelBuffer.Proofs.Platform.Traced

/-!
# Sharing of descriptors over any history

Descriptors are shared on three levels. Clones share one holding, and with it one descriptor.
Duplicates, and what becomes of a descriptor, share one open file, and with it a position. All that
share an open file share the length of its file. `Desk.Shares` says for a history and the desk after
it how these follow from what was cloned and derived; `Desk.performAll_shares` shows it for every
history.
-/

namespace PixelBuffer

/-- What measuring a file answers: its length, or that a pipe has none. -/
def File.size : File → DeskAnswer
  | .memory length => .length (UInt64.ofNat length.val)
  | .pipe => .fault (.system 29)

/-- The file that a source creates. -/
def Source.file? : Source → Option File
  | .memory length _ => some (.memory length)
  | .pipe => some .pipe
  | .duplicate _ => none

namespace Desk

variable {desk after : Desk} {step : DeskStep} {answer : DeskAnswer} {history : DeskHistory}
  {entry other : Entry}

/-- The file of an entry. -/
def file? (desk : Desk) (entry : Entry) : Option File :=
  (desk.descriptor? entry).bind desk.platform.file?

/-- The position of an entry, if its file has positions. -/
def position? (desk : Desk) (entry : Entry) : Option Nat :=
  (desk.descriptor? entry).bind desk.platform.position?

/-- What measuring an entry answers. -/
def size (desk : Desk) (entry : Entry) : DeskAnswer :=
  (desk.perform (measuring entry)).1

/-- An entry is measured through its descriptor. -/
theorem perform_measuring {descriptor : Descriptor}
    (h : desk.descriptor? entry = some descriptor) :
    desk.perform (measuring entry) = desk.measured (desk.platform.measure descriptor) := by
  obtain ⟨content, hcontent, hleads⟩ := Option.bind_eq_some_iff.mp h
  cases entry with
  | raw slot =>
      obtain ⟨own, hraw, rfl⟩ := Option.map_eq_some_iff.mp hcontent
      cases hleads
      simp only [measuring, perform, hraw]
  | shared slot =>
      obtain ⟨share, hshared, rfl⟩ := Option.map_eq_some_iff.mp hcontent
      have hleads : desk.platform.descriptorOf? share = some descriptor := hleads
      simp only [measuring, perform, hshared, Platform.measureShare, hleads]

/-- Measuring an entry answers by its file. -/
theorem size_eq {file : File} (h : desk.file? entry = some file) :
    desk.size entry = file.size := by
  obtain ⟨descriptor, hdescriptor, hfile⟩ := Option.bind_eq_some_iff.mp h
  have hopened := hfile
  rw [Platform.file?_eq_bind] at hopened
  obtain ⟨number, hnumber, -⟩ := Option.bind_eq_some_iff.mp hopened
  unfold size
  rw [perform_measuring hdescriptor]
  unfold Platform.measure
  cases file <;> simp [hnumber, hfile, measured, File.size, Errno.illegalSeek]

/-- The file of an entry is that of its open file. -/
theorem file?_eq {number : Nat} (h : desk.openFile? entry = some number) :
    desk.file? entry = desk.platform.fileAt? number := by
  obtain ⟨descriptor, hdescriptor, hnumber⟩ := Option.bind_eq_some_iff.mp h
  simp [file?, hdescriptor, Platform.file?_eq_bind, hnumber]

end Desk

namespace Platform

/-- The position of a descriptor, by its open file. -/
theorem position?_eq {platform : Platform} {descriptor : Descriptor} {number : Nat}
    (h : platform.openFile? descriptor = some number) :
    platform.position? descriptor = platform.openFiles[number]?.bind fun opened =>
      platform.files[opened.file]?.bind fun file =>
        match file with
        | .memory _ => some opened.position
        | .pipe => none := by
  unfold position?
  rw [h]
  rfl

/-- Moving the position of an open file moves that of its users, and of no others. -/
theorem position?_setPosition {platform : Platform} {descriptor : Descriptor} {number : Nat}
    (h : platform.openFile? descriptor = some number) (moved position : Nat) :
    (platform.setPosition moved position).position? descriptor =
      if moved = number then (platform.position? descriptor).map fun _ => position
      else platform.position? descriptor := by
  have hsame : (platform.setPosition moved position).openFile? descriptor = some number := h
  rw [position?_eq hsame, position?_eq h]
  show ((platform.openFiles.modify _ _)[number]?).bind _ = _
  rw [Array.getElem?_modify]
  by_cases heq : moved = number
  · simp only [if_pos heq]
    cases platform.openFiles[number]? with
    | none => rfl
    | some opened =>
        show (platform.files[opened.file]?).bind _ = ((platform.files[opened.file]?).bind _).map _
        cases platform.files[opened.file]? with
        | none => rfl
        | some file => cases file <;> rfl
  · simp only [if_neg heq]
    rfl

/-- A memory file has a position. -/
theorem position?_of_memory {platform : Platform} {descriptor : Descriptor} {number : Nat}
    {length : FileLength} (h : platform.openFile? descriptor = some number)
    (hfile : platform.fileAt? number = some (.memory length)) :
    (platform.position? descriptor).isSome := by
  obtain ⟨opened, hopened, hfile⟩ := Option.bind_eq_some_iff.mp hfile
  simp [position?_eq h, hopened, hfile]

end Platform

namespace Desk

variable {desk after : Desk} {step : DeskStep} {answer : DeskAnswer} {history : DeskHistory}
  {entry other : Entry} {holder : Nat → Nat} {origin : Entry → Nat}

/-- The file of a full entry has the number of its open file. -/
theorem Traced.file?_eq (h : Traced history desk holder origin) (hlive : desk.Live entry) :
    desk.file? entry = desk.platform.files[origin entry]? :=
  (Desk.file?_eq (h.links.origin_eq hlive)).trans
    (h.ownFiles.fileAt?_eq (h.links.classes.lt hlive.known))

/-- A full entry has a file. -/
theorem Traced.exists_file (h : Traced history desk holder origin) (hlive : desk.Live entry) :
    ∃ file, desk.file? entry = some file := by
  have hlt := h.links.classes.lt hlive.known
  rw [← h.ownFiles.size_eq] at hlt
  exact ⟨_, (h.file?_eq hlive).trans (Array.getElem?_eq_getElem hlt)⟩

/-- Two full entries are linked exactly when they have the same open file. -/
theorem Traced.linked_iff (h : Traced history desk holder origin) (hlive : desk.Live entry)
    (hother : desk.Live other) :
    history.Linked entry other ↔ desk.openFile? entry = desk.openFile? other := by
  rw [h.links.origin_eq hlive, h.links.origin_eq hother, Option.some.injEq]
  exact h.links.classes.iff hlive.known hother.known

/-- A full shared slot has a share. -/
theorem live_shared {slot : Nat} :
    desk.Live (.shared slot) ↔ ∃ share, desk.shared? slot = some share := by
  simp [Live, content?, Option.isSome_iff_exists]

/-- A full shared slot leads to the descriptor of its share, whose file is that of its open file. -/
theorem Traced.leads (h : Traced history desk holder origin) {slot : Nat} {share : Share}
    (hshare : desk.shared? slot = some share) :
    ∃ descriptor, desk.platform.descriptorOf? share = some descriptor ∧
      desk.platform.fileNumber? descriptor = some (origin (.shared slot)) := by
  have hlive : desk.Live (.shared slot) := live_shared.mpr ⟨share, hshare⟩
  obtain ⟨descriptor, hleads, -⟩ := h.accounted.duplicate_isOpen (mem_shares hshare)
  refine ⟨descriptor, hleads, h.ownFiles.fileNumber?_eq ?_ (h.links.classes.lt hlive.known)⟩
  rw [← h.links.origin_eq hlive, openFile?_shared hshare, Platform.shareOpenFile?, hleads]
  rfl

/-- Comparing two shares tells whether they are clones, and whether they are linked. -/
theorem Traced.compare_eq (h : Traced history desk holder origin) {slot slot' : Nat}
    (hlive : desk.Live (.shared slot)) (hother : desk.Live (.shared slot')) :
    ∃ same sameFile,
      desk.perform (.compare slot slot') = (.comparison same same sameFile, desk) ∧
      (same = true ↔ history.Cloned slot slot') ∧
      (sameFile = true ↔ history.Linked (.shared slot) (.shared slot')) := by
  have hlinked := h.links.classes.iff hlive.known hother.known
  have hcloned := h.clones.classes.iff hlive.known hother.known
  obtain ⟨share, hshare⟩ := live_shared.mp hlive
  obtain ⟨share', hshare'⟩ := live_shared.mp hother
  obtain ⟨descriptor, hleads, hnumber⟩ := h.leads hshare
  obtain ⟨descriptor', hleads', hnumber'⟩ := h.leads hshare'
  have hsame : share = share' ↔ holder slot = holder slot' := by
    rw [← h.clones.holder_eq hshare, ← h.clones.holder_eq hshare']
    exact ⟨congrArg Share.holding, fun heq => by cases share; cases share'; cases heq; rfl⟩
  have hdescriptor : descriptor = descriptor' ↔ share = share' := by
    constructor
    · rintro rfl
      exact h.accounted.distinct share (mem_shares hshare) share' (mem_shares hshare')
        (hleads.trans hleads'.symm)
    · rintro rfl
      exact Option.some.inj (hleads.symm.trans hleads')
  refine ⟨decide (share = share'),
    decide (origin (.shared slot) = origin (.shared slot')), ?_, ?_, ?_⟩
  · simp [perform, hshare, hshare', compare, hleads, hleads', hnumber, hnumber', hdescriptor]
  · rw [decide_eq_true_iff, hsame]
    exact hcloned.symm
  · rw [decide_eq_true_iff]
    exact hlinked.symm

/-! ## Lengths that last -/

/-- What is in an entry after any steps was in it before, if the entry was known. -/
theorem performAll_content? (steps : List DeskStep) {content : Descriptor ⊕ Share}
    (hknown : desk.Known entry)
    (hcontent : (desk.performAll steps).2.content? entry = some content) :
    desk.content? entry = some content := by
  induction steps generalizing desk with
  | nil => exact hcontent
  | cons step rest ih =>
      have hbecomes := (desk.perform_performs step).becomes
      have hnow := ih ((hbecomes.known entry).mpr (.inl hknown)) hcontent
      exact hbecomes.content (fun hfilled => hbecomes.fresh hfilled hknown) hnow

/-- All that lasts on a platform outlasts any steps that change no length. -/
theorem performAll_precedes (steps : List DeskStep) (hsteps : ∀ step ∈ steps, ¬ step.Truncates) :
    desk.platform.Precedes (desk.performAll steps).2.platform := by
  induction steps generalizing desk with
  | nil => exact .refl _
  | cons step rest ih =>
      have hstep := (desk.perform_performs step).precedes (hsteps step List.mem_cons_self)
      exact hstep.trans (ih fun other hm => hsteps other (List.mem_cons_of_mem _ hm))

/-- An entry that stays full keeps its file through any steps that change no length. -/
theorem Traced.file?_performAll (h : Traced history desk holder origin) {steps : List DeskStep}
    (hsteps : ∀ step ∈ steps, ¬ step.Truncates) (hlive : desk.Live entry)
    (hlater : (desk.performAll steps).2.Live entry) :
    (desk.performAll steps).2.file? entry = desk.file? entry := by
  obtain ⟨content, hcontent⟩ := Option.isSome_iff_exists.mp hlater
  have hbefore := performAll_content? steps hlive.known hcontent
  have hprecedes := desk.performAll_precedes steps hsteps
  obtain ⟨holder', origin', hnow⟩ := h.performAll steps
  have hopened := h.accounted.openFile?_kept hnow.accounted hprecedes.keeps hbefore hcontent
  obtain ⟨file, hfile⟩ := h.exists_file hlive
  rw [h.links.origin_eq hlive] at hopened
  rw [hfile, Desk.file?_eq hopened]
  rw [Desk.file?_eq (h.links.origin_eq hlive)] at hfile
  exact hprecedes.fileAt?_eq hfile

/-- A new file is behind the entry of its slot. -/
theorem file?_create (desk : Desk) {source : Source} {file : File}
    (hsource : source.file? = some file) :
    ∃ slot after, desk.perform (.create source) = (.slot slot, after) ∧
      after.file? (.raw slot) = some file := by
  have hcreated : ∀ position, (desk.pushRaw (desk.platform.create file position).2
      ⟨desk.platform.descriptors.size⟩).2.file? (.raw desk.raw.size) = some file := by
    intro position
    have hopen := (desk.platform.create_adds file position).openFile?_new
    refine (Desk.file?_eq ((openFile?_raw raw?_pushRaw).trans hopen)).trans ?_
    simp [pushRaw, Platform.fileAt?]
  cases source with
  | memory length position =>
      cases hsource
      exact ⟨_, _, rfl, hcreated position⟩
  | pipe =>
      cases hsource
      exact ⟨_, _, rfl, hcreated 0⟩
  | duplicate index => cases hsource

/-- A length that is changed is changed for the entries that are linked, and for no others. -/
theorem Traced.file?_truncate (h : Traced history desk holder origin) {raw : Nat} {length : Int}
    (htruncate : desk.perform (.truncate raw length) = (.done, after)) (hlive : desk.Live entry) :
    (history.Linked (.raw raw) entry → ∃ bounds : length.toNat < 0x8000000000000000,
        after.file? entry = some (.memory ⟨length.toNat, bounds⟩)) ∧
      (¬ history.Linked (.raw raw) entry → after.file? entry = desk.file? entry) := by
  have hperforms := desk.perform_performs (.truncate raw length)
  rw [htruncate] at hperforms
  cases hperforms with
  | still still => exact still.elim
  | @truncated _ number _ descriptor present refers bounds =>
      have hbounds : length.toNat < 0x8000000000000000 := by omega
      have hraw : desk.Live (.raw raw) := by simp [Live, content?, present]
      have hlinked := h.links.classes.iff hraw.known hlive.known
      have hopen := (openFile?_raw present).symm.trans (h.links.origin_eq hraw)
      cases refers.symm.trans (h.ownFiles.fileNumber?_eq hopen (h.links.classes.lt hraw.known))
      let later := desk.onto { desk.platform with
        files := desk.platform.files.setIfInBounds (origin (.raw raw))
          (.memory ⟨length.toNat, hbounds⟩) }
      have hnumber : origin entry < desk.platform.openFiles.size :=
        h.links.classes.lt hlive.known
      have hopened : later.openFile? entry = some (origin entry) := h.links.origin_eq hlive
      have hafter : later.file? entry = (desk.platform.files.setIfInBounds (origin (.raw raw))
          (.memory ⟨length.toNat, hbounds⟩))[origin entry]? :=
        (Desk.file?_eq hopened).trans ((h.ownFiles.setFile _ _).fileAt?_eq hnumber)
      rw [Array.getElem?_setIfInBounds] at hafter
      refine ⟨fun hsame => ⟨hbounds, hafter.trans ?_⟩, fun hapart => hafter.trans ?_⟩
      · have heq := hlinked.mp hsame
        rw [if_pos heq, if_pos (by rw [heq, h.ownFiles.size_eq]; exact hnumber)]
      · rw [if_neg fun heq => hapart (hlinked.mpr heq), h.file?_eq hlive]

/-! ## Measuring -/

/-- An entry whose length is measured refers to an open memory file, which is rewound. -/
theorem perform_measuring_eq_length {bytes : UInt64}
    (h : desk.perform (measuring entry) = (.length bytes, after)) :
    ∃ number length, desk.openFile? entry = some number ∧
      desk.platform.fileAt? number = some (.memory length) ∧
      after = desk.onto (desk.platform.setPosition number 0) := by
  have hperforms := desk.perform_performs (measuring entry)
  rw [h] at hperforms
  generalize hstep : measuring entry = step at hperforms
  cases hperforms with
  | still still => exact still.elim
  | @measured _ same descriptor number length measures leads isOpen memory =>
      obtain rfl : same = entry := by
        cases same <;> cases entry <;> cases hstep.trans measures <;> rfl
      rw [Platform.file?_eq_bind, isOpen] at memory
      exact ⟨number, length, by simp [openFile?, leads, isOpen], memory, rfl⟩

/-- A measurement that fails changes nothing. -/
theorem perform_measuring_eq_fault {fault : IoFault}
    (h : desk.perform (measuring entry) = (.fault fault, after)) : after = desk := by
  have hperforms := desk.perform_performs (measuring entry)
  rw [h] at hperforms
  generalize hstep : measuring entry = step at hperforms
  cases hperforms with
  | still => rfl

/-- Measuring rewinds the entries that are linked, and moves no other position. -/
theorem Traced.position?_measured (h : Traced history desk holder origin) {bytes : UInt64}
    (hmeasured : desk.perform (measuring entry) = (.length bytes, after))
    (hother : desk.Live other) :
    (history.Linked entry other → after.position? other = some 0) ∧
      (¬ history.Linked entry other → after.position? other = desk.position? other) := by
  obtain ⟨number, length, hopen, hfile, rfl⟩ := perform_measuring_eq_length hmeasured
  have hlive : desk.Live entry := by
    obtain ⟨_, hdescriptor, -⟩ := Option.bind_eq_some_iff.mp hopen
    obtain ⟨_, hcontent, -⟩ := Option.bind_eq_some_iff.mp hdescriptor
    exact Option.isSome_iff_exists.mpr ⟨_, hcontent⟩
  cases hopen.symm.trans (h.links.origin_eq hlive)
  obtain ⟨descriptor, hleads, hnumber⟩ := Option.bind_eq_some_iff.mp (h.links.origin_eq hother)
  have hbefore : desk.position? other = desk.platform.position? descriptor := by
    simp [position?, hleads]
  have hafter : (desk.onto (desk.platform.setPosition (origin entry) 0)).position? other =
      (desk.platform.setPosition (origin entry) 0).position? descriptor := by
    have hsame : (desk.onto (desk.platform.setPosition (origin entry) 0)).descriptor? other =
        some descriptor := hleads
    unfold position?
    rw [hsame]
    rfl
  have hlinked := h.links.classes.iff hlive.known hother.known
  rw [hafter, hbefore, Platform.position?_setPosition hnumber]
  refine ⟨fun hsame => ?_, fun hapart => if_neg fun heq => hapart (hlinked.mpr heq)⟩
  have heq := hlinked.mp hsame
  rw [heq] at hfile
  obtain ⟨position, hposition⟩ :=
    Option.isSome_iff_exists.mp (Platform.position?_of_memory hnumber hfile)
  rw [if_pos heq, hposition]
  rfl

/-! ## Classes of clones -/

/-- A share that is listed is in a slot. -/
theorem exists_slot {share : Share} (h : share ∈ desk.shares) :
    ∃ slot, desk.shared? slot = some share := by
  obtain ⟨content, hm, hcontent⟩ := List.mem_filterMap.mp h
  obtain ⟨slot, hslot⟩ := Array.getElem?_of_mem (Array.mem_toList_iff.mp hm)
  exact ⟨slot, Option.join_eq_some_iff.mpr (hslot.trans (congrArg some hcontent))⟩

/-- There are as many descriptors open as full raw slots and classes of clones. -/
theorem Traced.openCount_eq (h : Traced history desk holder origin) :
    ∃ leaders : List Nat,
      leaders.Pairwise (fun slot other => ¬ history.Cloned slot other) ∧
      (∀ leader ∈ leaders, desk.Live (.shared leader)) ∧
      (∀ slot, desk.Live (.shared slot) → ∃ leader ∈ leaders, history.Cloned leader slot) ∧
      desk.platform.openCount = desk.owned.length + leaders.length := by
  -- one slot for each share leads the clones of that share
  have hslots : ∀ share, ∃ slot, share ∈ desk.shares → desk.shared? slot = some share := by
    intro share
    by_cases hm : share ∈ desk.shares
    · obtain ⟨slot, hslot⟩ := exists_slot hm
      exact ⟨slot, fun _ => hslot⟩
    · exact ⟨0, fun hm' => absurd hm' hm⟩
  choose leaderOf hleader using hslots
  have hlive : ∀ share ∈ desk.shares, desk.Live (.shared (leaderOf share)) := fun share hm =>
    live_shared.mpr ⟨share, hleader share hm⟩
  refine ⟨desk.shares.dedup.map leaderOf, ?_, ?_, ?_, ?_⟩
  · rw [List.pairwise_map]
    refine desk.shares.nodup_dedup.imp_of_mem fun {share other} hm hother hne hcloned => ?_
    rw [List.mem_dedup] at hm hother
    have hname := (h.clones.classes.iff (hlive share hm).known (hlive other hother).known).mp
      hcloned
    rw [← h.clones.holder_eq (hleader share hm),
      ← h.clones.holder_eq (hleader other hother)] at hname
    cases share
    cases other
    exact hne (congrArg Share.mk hname)
  · intro leader hm
    obtain ⟨share, hshare, rfl⟩ := List.mem_map.mp hm
    exact hlive share (List.mem_dedup.mp hshare)
  · intro slot hslot
    obtain ⟨share, hshare⟩ := live_shared.mp hslot
    have hm := mem_shares hshare
    refine ⟨leaderOf share, List.mem_map_of_mem (List.mem_dedup.mpr hm), ?_⟩
    refine (h.clones.classes.iff (hlive share hm).known hslot.known).mpr ?_
    rw [← h.clones.holder_eq (hleader share hm), ← h.clones.holder_eq hshare]
  · rw [List.length_map]
    exact h.accounted.openCount_eq

/-! ## What is shared -/

/-- What the full entries of a desk share after a history. -/
structure Shares (history : DeskHistory) (desk : Desk) : Prop where
  /-- Two shares are one exactly when they are clones, exactly then they have one descriptor, and
  they have one file exactly when they are linked. -/
  compare : ∀ slot other, desk.Live (.shared slot) → desk.Live (.shared other) →
    ∃ same sameFile, desk.perform (.compare slot other) = (.comparison same same sameFile, desk) ∧
      (same = true ↔ history.Cloned slot other) ∧
      (sameFile = true ↔ history.Linked (.shared slot) (.shared other))
  /-- Entries share an open file exactly when they are linked. -/
  openFile : ∀ entry other, desk.Live entry → desk.Live other →
    (history.Linked entry other ↔ desk.openFile? entry = desk.openFile? other)
  /-- Measuring answers the length that the memory file of an entry has, or error 29 for a pipe. -/
  size : ∀ entry, desk.Live entry →
    ∃ file, desk.file? entry = some file ∧ desk.size entry = file.size
  /-- A new file has the length that it is created with. -/
  created : ∀ source file, source.file? = some file →
    ∃ slot after, desk.perform (.create source) = (.slot slot, after) ∧
      after.file? (.raw slot) = some file ∧ after.size (.raw slot) = file.size
  /-- Entries that stay full keep their length through any steps but changes of lengths, whatever is
  closed, cloned or let go. -/
  lasting : ∀ steps, (∀ step ∈ steps, ¬ step.Truncates) → ∀ entry, desk.Live entry →
    (desk.performAll steps).2.Live entry →
      (desk.performAll steps).2.file? entry = desk.file? entry ∧
        (desk.performAll steps).2.size entry = desk.size entry
  /-- A length is changed for the entries that are linked, and for no others. -/
  truncated : ∀ raw length after, desk.perform (.truncate raw length) = (.done, after) →
    ∀ entry, desk.Live entry →
      (history.Linked (.raw raw) entry →
        after.size entry = .length (UInt64.ofNat length.toNat)) ∧
      (¬ history.Linked (.raw raw) entry → after.size entry = desk.size entry)
  /-- A measurement leaves the entries that are linked at position zero, and changes no other
  position and no length. -/
  measured : ∀ entry bytes after, desk.perform (measuring entry) = (.length bytes, after) →
    after.platform.files = desk.platform.files ∧ ∀ other, desk.Live other →
      (history.Linked entry other → after.position? other = some 0) ∧
      (¬ history.Linked entry other → after.position? other = desk.position? other)
  /-- A measurement that fails changes nothing. -/
  unmeasured : ∀ entry fault after, desk.perform (measuring entry) = (.fault fault, after) →
    after = desk
  /-- There are as many descriptors open as full raw slots and classes of clones, of each of which
  one slot is listed. -/
  openCount : ∃ leaders : List Nat,
    leaders.Pairwise (fun slot other => ¬ history.Cloned slot other) ∧
    (∀ leader ∈ leaders, desk.Live (.shared leader)) ∧
    (∀ slot, desk.Live (.shared slot) → ∃ leader ∈ leaders, history.Cloned leader slot) ∧
    desk.platform.openCount = desk.owned.length + leaders.length

/-- What is traced is shared as it was derived. -/
theorem Traced.shares (h : Traced history desk holder origin) : Shares history desk where
  compare slot other hlive hother := h.compare_eq hlive hother
  openFile entry other hlive hother := h.linked_iff hlive hother
  size entry hlive := by
    obtain ⟨file, hfile⟩ := h.exists_file hlive
    exact ⟨file, hfile, size_eq hfile⟩
  created source file hsource := by
    obtain ⟨slot, after, hperform, hfile⟩ := desk.file?_create hsource
    exact ⟨slot, after, hperform, hfile, size_eq hfile⟩
  lasting steps hsteps entry hlive hlater := by
    obtain ⟨file, hfile⟩ := h.exists_file hlive
    have hsame := h.file?_performAll hsteps hlive hlater
    exact ⟨hsame, (size_eq (hsame.trans hfile)).trans (size_eq hfile).symm⟩
  truncated raw length after htruncate entry hlive := by
    obtain ⟨hlinked, hapart⟩ := h.file?_truncate htruncate hlive
    obtain ⟨file, hfile⟩ := h.exists_file hlive
    refine ⟨fun hsame => ?_, fun hother => ?_⟩
    · obtain ⟨bounds, hafter⟩ := hlinked hsame
      exact size_eq hafter
    · exact (size_eq ((hapart hother).trans hfile)).trans (size_eq hfile).symm
  measured entry bytes after hmeasured := by
    refine ⟨?_, fun other hother => h.position?_measured hmeasured hother⟩
    obtain ⟨_, _, -, -, rfl⟩ := perform_measuring_eq_length hmeasured
    rfl
  unmeasured entry fault after hfault := perform_measuring_eq_fault hfault
  openCount := h.openCount_eq

/-- After any history from the empty desk, two shares are one exactly when they are connected by
clones; entries share an open file exactly when they are linked; each full entry measures the length
of its file, which only changes of lengths change; a measurement rewinds just the linked entries;
and there are as many descriptors open as full raw slots and classes of clones. -/
theorem performAll_shares (steps : List DeskStep) :
    Shares (steps.zip (({} : Desk).performAll steps).1) (({} : Desk).performAll steps).2 := by
  obtain ⟨holder, origin, htraced⟩ := traced_empty.performAll steps
  exact htraced.shares

end Desk

end PixelBuffer
