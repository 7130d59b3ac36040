import PixelBuffer.Proofs.Platform.Desk

/-!
# Handles whose descriptors are open

A handle owns its descriptors, so that each of them refers to a file for as long as the handle is
held. That is so from the start: a handle is opened with all its descriptors
(`Platform.accept_isOpen`).
-/

namespace PixelBuffer

/-- Every descriptor of the handle refers to a file. -/
def Handle.IsOpen (handle : Handle) (platform : Platform) : Prop :=
  ∀ descriptor ∈ handle.descriptors, ∃ file, platform.file? descriptor = some file

/-- A descriptor that refers to a file is open. -/
theorem Platform.isSome_openFile?_of_file? {platform : Platform} {descriptor : Descriptor}
    {file : File} (h : platform.file? descriptor = some file) :
    (platform.openFile? descriptor).isSome := by
  rw [Platform.file?_eq_bind] at h
  obtain ⟨number, hnumber, -⟩ := Option.bind_eq_some_iff.mp h
  exact Option.isSome_of_eq_some hnumber

/-- The descriptors of an open handle have numbers. -/
theorem Handle.IsOpen.number_lt {handle : Handle} {platform : Platform}
    (h : handle.IsOpen platform) :
    ∀ descriptor ∈ handle.descriptors, descriptor.number < platform.descriptors.size := by
  intro descriptor hmem
  obtain ⟨file, hfile⟩ := h descriptor hmem
  exact Platform.number_lt_of_isOpen (Platform.isSome_openFile?_of_file? hfile)

namespace Platform

/-- A descriptor keeps its file when one more is opened. -/
theorem Adds.file?_eq {platform now : Platform} {number : Nat} (h : platform.Adds now number)
    {descriptor : Descriptor} {file : File} (hfile : platform.file? descriptor = some file) :
    now.file? descriptor = some file := by
  have hlt := number_lt_of_isOpen (isSome_openFile?_of_file? hfile)
  have hopened : now.openFile? descriptor = platform.openFile? descriptor := by
    unfold openFile?
    rw [h.descriptors, Array.getElem?_push, if_neg (Nat.ne_of_lt hlt)]
  rw [file?_eq_bind] at hfile ⊢
  obtain ⟨own, hown, hat⟩ := Option.bind_eq_some_iff.mp hfile
  obtain ⟨opened, hopenFile, hnumber⟩ := Option.bind_eq_some_iff.mp hat
  rw [hopened, hown, Option.bind_some]
  exact Option.bind_eq_some_iff.mpr ⟨opened, h.openFiles own opened hopenFile,
    h.files _ file hnumber⟩

/-- A new file is behind the descriptor that it was created with. -/
theorem file?_create (platform : Platform) (file : File) (position : Nat) :
    (platform.create file position).2.file? ⟨platform.descriptors.size⟩ = some file := by
  simp [file?, fileNumber?, openFile?, create]

/-- A duplicate refers to the file of the descriptor that was duplicated. -/
theorem file?_duplicate {platform : Platform} {descriptor : Descriptor} {number : Nat}
    (h : platform.openFile? descriptor = some number) :
    (platform.duplicate descriptor).2.file? ⟨platform.descriptors.size⟩ =
      platform.file? descriptor := by
  rw [file?_eq_bind, file?_eq_bind, h, (duplicate_adds h).openFile?_new]
  simp only [duplicate, h]
  rfl

/-- A source leaves every descriptor that was opened with a file. -/
theorem openSource_isOpen {platform : Platform} {opened : List Descriptor} (source : Source)
    (h : ∀ descriptor ∈ opened, ∃ file, platform.file? descriptor = some file) :
    ∀ descriptor ∈ (platform.openSource opened source).1,
      ∃ file, (platform.openSource opened source).2.file? descriptor = some file := by
  -- one more descriptor has a file of its own, and the others keep theirs
  have hadded : ∀ {now : Platform} {number : Nat}, platform.Adds now number →
      (∃ file, now.file? ⟨platform.descriptors.size⟩ = some file) →
      ∀ descriptor ∈ opened ++ [⟨platform.descriptors.size⟩],
        ∃ file, now.file? descriptor = some file := by
    intro now number hadds hnew descriptor hmem
    rcases List.mem_append.mp hmem with hold | hlast
    · obtain ⟨file, hfile⟩ := h descriptor hold
      exact ⟨file, hadds.file?_eq hfile⟩
    · rwa [List.mem_singleton.mp hlast]
  cases source with
  | memory length position =>
      exact hadded (platform.create_adds _ _) ⟨_, platform.file?_create _ _⟩
  | pipe => exact hadded (platform.create_adds _ _) ⟨_, platform.file?_create _ _⟩
  | duplicate index =>
      cases hindex : opened[index]? with
      | none => simpa [openSource, hindex] using h
      | some descriptor =>
          obtain ⟨file, hfile⟩ := h descriptor (List.mem_of_getElem? hindex)
          obtain ⟨number, hopen⟩ :=
            Option.isSome_iff_exists.mp (isSome_openFile?_of_file? hfile)
          have hsource : platform.openSource opened (.duplicate index) =
              (opened ++ [⟨platform.descriptors.size⟩], (platform.duplicate descriptor).2) := by
            simp only [openSource, hindex, duplicate, hopen]
          rw [hsource]
          exact hadded (duplicate_adds hopen) ⟨file, (file?_duplicate hopen).trans hfile⟩

/-- A handle is opened with all its descriptors. -/
theorem accept_isOpen (platform : Platform) (offer : Offer) :
    (platform.accept offer).1.IsOpen (platform.accept offer).2 := by
  show ∀ descriptor ∈ (platform.openSources offer.sources).1, ∃ file,
    (platform.openSources offer.sources).2.file? descriptor = some file
  unfold openSources
  refine List.foldlRecOn (motive := fun (state : List Descriptor × Platform) =>
    ∀ descriptor ∈ state.1, ∃ file, state.2.file? descriptor = some file)
    offer.sources _ (by simp) ?_
  exact fun state h source _ => openSource_isOpen source h

end Platform

end PixelBuffer
