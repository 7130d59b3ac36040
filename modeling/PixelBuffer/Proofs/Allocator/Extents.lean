import PixelBuffer.Proofs.Allocator.Descriptors
import PixelBuffer.Proofs.Plane.Reported

/-!
# How long the planes of a buffer are

The block of a handle is authoritative about its planes: it is held against the number of planes of
the format and the ends of the files, and against nothing else. So a plane is as long as the block
reports, also when the format needs more (`Allocator.allocate_short_plane`), and only the planes of
a handle without a block have the lengths of the format. `Allocator.allocate_extents` states this of
every allocation, with the reasons for which a handle that carries a block is given back.
-/

namespace PixelBuffer

namespace Handle

variable {handle : Handle} {geometry : FormatGeometry} {size : Size} {before after : Platform}

/-- A block that reports another number of planes than the format has is refused for it. -/
theorem sites_of_count_ne {backing : Descriptor → Except IoFault UInt64}
    (hblock : handle.HasBlock) (hcount : handle.reportedCount ≠ geometry.planeCount) :
    handle.sites backing geometry size =
      .error (.layout (.planeCount handle.reportedCount geometry.planeCount)) := by
  rw [Handle.sites, vendor?_eq, if_pos hblock]
  exact if_pos hcount

/-- Planes that are found were decided, and the first of them lies in a file. -/
theorem Finds.exists_file {planes : List Plane} (hmem : geometry ∈ FormatGeometry.table)
    (h : handle.Finds geometry size before (.ok planes) after) :
    ∃ descriptor length, handle.descriptors[handle.sourceIndex 0]? = some descriptor ∧
      before.file? descriptor = some (.memory length) := by
  cases h with
  | @found sites _ _ _ _ decided _ _ _ =>
      obtain ⟨hcount, hsites⟩ := sites_eq_ok decided
      have hsome : 0 < sites.length := hcount ▸ (FormatGeometry.planeCount_of_mem_table hmem).1
      obtain ⟨hsource, hfits⟩ := hsites 0 sites[0] (List.getElem?_eq_getElem hsome)
      obtain ⟨length, hfile, -⟩ := hfits.length_le
      exact ⟨_, length, hsource, hfile⟩

/-- A plane that is found is as long as the block of the handle reports. -/
theorem Finds.length_eq_reported {planes : List Plane} (hmem : geometry ∈ FormatGeometry.table)
    (hopen : handle.IsOpen before) (h : handle.Finds geometry size before (.ok planes) after)
    (hblock : handle.HasBlock) {index : Nat} {plane : Plane}
    (hplane : planes[index]? = some plane) :
    plane.length.toNat = handle.reportedSize index := by
  have hcount : handle.reportedCount = geometry.planeCount := by
    by_contra hne
    cases h.eq_error (sites_of_count_ne hblock hne)
  obtain ⟨-, hplanes⟩ := h.reported (sites_reports hmem hblock hopen hcount)
  exact (hplanes index plane hplane).length_eq

/-- A plane that is found without a block has the bytes of the format. -/
theorem Finds.tightBytes?_eq {planes : List Plane} (hmem : geometry ∈ FormatGeometry.table)
    (h : handle.Finds geometry size before (.ok planes) after) (hblock : ¬ handle.HasBlock)
    {index : Nat} {plane : Plane} (hplane : planes[index]? = some plane) :
    geometry.tightBytes? size index = some plane.length := by
  obtain ⟨descriptor, length, hsource, hfile⟩ := h.exists_file hmem
  rw [sourceIndex_eq, if_pos (.inr hblock)] at hsource
  cases h.searchesOut hmem hblock hsource hfile with
  | counted _ planes_eq => exact planes_eq.length_eq index plane hplane

end Handle

namespace Allocator

variable {σ : Type} {allocator : Allocator σ} {code : Int32} {size : Size} {usage : Usage}
  {client after : Client σ} {result : Except Failure Buffer}

namespace Granted

/-- The geometry of a granted request is one of the table. -/
theorem geometry_mem (granted : Granted allocator code size usage client) :
    granted.resolved.geometry ∈ FormatGeometry.table := by
  have hresolves := (check_eq_ok_iff.mp granted.checked).resolves
  exact List.mem_of_find?_eq_some (Resolver.resolve_eq_ok_iff.mp hresolves).2

/-- A granted handle is opened with all its descriptors. -/
theorem isOpen (granted : Granted allocator code size usage client) :
    granted.handle.IsOpen granted.opened := by
  have hopen := client.world.platform.accept_isOpen granted.offer
  rwa [granted.accepted] at hopen

end Granted

/-- A granted handle of which no buffer comes is given back once, in the same call. -/
theorem Allocates.freed_of_error {failure : Failure}
    (h : allocator.Allocates code size usage client (.error failure) after)
    (granted : Granted allocator code size usage client) :
    Call.freed after.calls = Call.freed client.calls ++ [granted.handle] := by
  cases h with
  | rejected checked => cases checked.symm.trans granted.checked
  | refused _ answered => cases answered.symm.trans granted.answered
  | withoutHandle _ answered => cases answered.symm.trans granted.answered
  | unusable other =>
      obtain rfl := other.eq granted
      exact freed_later ..
  | mismatched other =>
      obtain rfl := other.eq granted
      exact freed_later ..

/-- The planes of a buffer are as long as the block of its handle reports, and as long as the format
says when there is no block. A granted handle with a block is refused for the number of its planes,
or else for the first plane with a fault, which does not depend on the lengths of the format, and
for nothing else; a handle that is refused is given back in the same call. -/
theorem allocate_extents (allocator : Allocator σ) (code : Int32) (size : Size) (usage : Usage)
    (client : Client σ) :
    let run := allocator.allocate code size usage client
    (∀ buffer, run.1 = .ok buffer →
        allocator.resolver.resolve code = .ok ⟨buffer.format, buffer.geometry⟩ ∧
          ∀ (index : Nat) plane, buffer.planes[index]? = some plane →
            (buffer.handle.HasBlock → plane.length.toNat = buffer.handle.reportedSize index) ∧
            (¬ buffer.handle.HasBlock →
              buffer.geometry.tightBytes? size index = some plane.length)) ∧
      ∀ granted : Granted allocator code size usage client,
        (granted.handle.descriptors ≠ [] → granted.handle.HasBlock →
          let expected := granted.resolved.geometry.planeCount
          (granted.handle.reportedCount ≠ expected →
            run.1 = .error (.layout (.planeCount granted.handle.reportedCount expected))) ∧
          (granted.handle.reportedCount = expected →
            ∃ outcome, granted.handle.Reports granted.opened expected 0 outcome ∧
              ∀ failure, run.1 = .error failure ↔ outcome = .error failure)) ∧
        ∀ failure, run.1 = .error failure →
          Call.freed run.2.calls = Call.freed client.calls ++ [granted.handle] := by
  intro run
  have hends : allocator.Allocates code size usage client run.1 run.2 :=
    allocator.allocate_allocates code size usage client
  refine ⟨fun buffer hbuffer => ?_, fun granted => ⟨fun husable hblock => ?_, ?_⟩⟩
  · rw [hbuffer] at hends
    generalize run.2 = after at hends
    cases hends with
    | found granted _ finds =>
        refine ⟨(check_eq_ok_iff.mp granted.checked).resolves, fun index plane hplane => ?_⟩
        exact ⟨fun hblock =>
            finds.length_eq_reported granted.geometry_mem granted.isOpen hblock hplane,
          fun hblock => finds.tightBytes?_eq granted.geometry_mem hblock hplane⟩
  · obtain ⟨found, later, hresult, hfinds, -⟩ := hends.finds_of_granted granted husable
    have hfailed : ∀ failure, run.1 = .error failure ↔ granted.handle.sites
        granted.opened.backing granted.resolved.geometry size = .error failure := fun failure => by
      rw [hresult, except_map_eq_error_iff, hfinds.eq_error_iff]
    refine ⟨fun hcount => ?_, fun hcount => ?_⟩
    · exact (hfailed _).mpr (Handle.sites_of_count_ne hblock hcount)
    · refine ⟨_, ?_, hfailed⟩
      rw [← hcount]
      exact Handle.sites_reports granted.geometry_mem hblock granted.isOpen hcount
  · intro failure hfailure
    rw [hfailure] at hends
    exact hends.freed_of_error granted

/-- A client whose service grants an image of four by two pixels in a file that holds it, with a
block that reports a single byte for the eight of the first plane. -/
def shortPlane : Client Script where
  service :=
    { replies := [.grant
        (some ⟨[.memory ⟨12, by decide⟩ 0],
          VendorBlock.encode ⟨1, 4, 2, .nv12, [⟨4, 0, 1⟩, ⟨4, 8, 4⟩]⟩⟩) none] }

/-- A plane that is shorter than the format needs comes with a buffer, and nothing is given back. -/
theorem allocate_short_plane :
    ∃ buffer plane bytes,
      (allocate ⟨scriptedService, .standard⟩ 0x23 ⟨4, 2⟩ .empty shortPlane).1 = .ok buffer ∧
        buffer.handle.HasBlock ∧ buffer.planes[0]? = some plane ∧
        buffer.geometry.tightBytes? ⟨4, 2⟩ 0 = some bytes ∧ plane.length < bytes ∧
        Call.freed (allocate ⟨scriptedService, .standard⟩ 0x23 ⟨4, 2⟩ .empty
          shortPlane).2.calls = [] := by
  have h : (allocate ⟨scriptedService, .standard⟩ 0x23 ⟨4, 2⟩ .empty shortPlane).1 =
      .ok ⟨[⟨⟨0⟩, 0, 1⟩, ⟨⟨0⟩, 8, 4⟩],
        ⟨[⟨0⟩], VendorBlock.encode ⟨1, 4, 2, .nv12, [⟨4, 0, 1⟩, ⟨4, 8, 4⟩]⟩⟩,
        .nv12, ⟨"NV12", .nv12, 2, [⟨2, 1⟩, ⟨2, 2⟩]⟩, ⟨4, 2⟩, 4, .empty⟩ := by
    decide +kernel
  exact ⟨_, ⟨⟨0⟩, 0, 1⟩, 8, h, by decide +kernel, rfl, by decide +kernel, by decide,
    by decide +kernel⟩

end Allocator

end PixelBuffer
