import Mathlib.Data.List.Dedup
import PixelBuffer.Proofs.Allocator.Soundness
import PixelBuffer.Proofs.Packing
import PixelBuffer.Proofs.Platform.OpenDescriptors
import PixelBuffer.Proofs.Resolver

/-!
# What an allocation leaves open

An allocation that returns a buffer leaves its handle open, and one duplicate for each share of its
planes: a single one when all planes lie behind one descriptor, and otherwise one for each plane.
When no buffer comes of a handle, its duplicates are closed first, and then the handle.
`Allocator.Leaves` lists this with the account of the platform, and `Allocator.Allocates.leaves`
shows it.
-/

namespace PixelBuffer

namespace Buffer

/-- The shares of the planes of a buffer, each once. -/
def shares (buffer : Buffer) : List Share :=
  (buffer.planes.map Plane.share).dedup

/-- How many duplicates a buffer needs: one when its handle has one descriptor or carries no block,
and otherwise one for each plane. -/
def duplicates (buffer : Buffer) : Nat :=
  if buffer.handle.descriptors.length = 1 ∨ ¬ buffer.handle.HasBlock then 1
  else buffer.planes.length

end Buffer

namespace Handle

variable {handle : Handle} {geometry : FormatGeometry} {size : Size}
  {backing : Descriptor → Except IoFault UInt64} {sites : List Site} {shareOf : Descriptor → Share}

/-- Sites that all lie behind the first descriptor share one duplicate. -/
theorem dedup_shares_of_first (h : handle.sites backing geometry size = .ok sites)
    (hsome : 0 < geometry.planeCount)
    (hfirst : handle.descriptors.length = 1 ∨ ¬ handle.HasBlock) :
    (sites.map fun site => shareOf site.descriptor).dedup.length = 1 := by
  obtain ⟨hlength, hsites⟩ := sites_eq_ok h
  have hsource : ∀ plane, handle.sourceIndex plane = 0 := by
    intro plane
    rw [sourceIndex_eq, if_pos hfirst]
  obtain ⟨first, hm⟩ := List.exists_mem_of_length_pos (hlength ▸ hsome)
  have hall : ∀ site ∈ sites, site.descriptor = first.descriptor := by
    have hdescriptor : ∀ site ∈ sites, handle.descriptors[0]? = some site.descriptor := by
      intro site hsite
      obtain ⟨plane, hplane⟩ := List.getElem?_of_mem hsite
      have hbehind := (hsites plane site hplane).1
      rwa [hsource] at hbehind
    intro site hsite
    exact Option.some.inj ((hdescriptor site hsite).symm.trans (hdescriptor first hm))
  have hshares : sites.map (fun site => shareOf site.descriptor) =
      List.replicate sites.length (shareOf first.descriptor) := by
    rw [List.eq_replicate_iff, List.length_map]
    refine ⟨rfl, fun share hshare => ?_⟩
    obtain ⟨site, hsite, rfl⟩ := List.mem_map.mp hshare
    rw [hall site hsite]
  rw [hshares, List.replicate_dedup (by omega), List.length_singleton]

/-- Sites that lie behind the descriptors of their planes have a duplicate each. -/
theorem nodup_shares_of_each (h : handle.sites backing geometry size = .ok sites)
    (hdistinct : handle.descriptors.Nodup)
    (heach : ¬ (handle.descriptors.length = 1 ∨ ¬ handle.HasBlock))
    (apart : ∀ site ∈ sites, ∀ other ∈ sites,
      shareOf site.descriptor = shareOf other.descriptor → site.descriptor = other.descriptor) :
    (sites.map fun site => shareOf site.descriptor).Nodup := by
  obtain ⟨-, hsites⟩ := sites_eq_ok h
  have hsource : ∀ plane, handle.sourceIndex plane = plane := by
    intro plane
    rw [sourceIndex_eq, if_neg heach]
  have hbehind : ∀ plane < sites.length,
      (sites.map Site.descriptor)[plane]? = handle.descriptors[plane]? := by
    intro plane hplane
    have hsite := (hsites plane _ (List.getElem?_eq_getElem hplane)).1
    rw [hsource] at hsite
    rw [List.getElem?_map, List.getElem?_eq_getElem hplane, hsite]
    rfl
  have hdescriptors : (sites.map Site.descriptor).Nodup := by
    rw [List.nodup_iff_getElem?_ne_getElem?] at hdistinct ⊢
    intro plane other hlt hother
    rw [List.length_map] at hother
    have hsome := (hbehind other hother).symm
    rw [List.getElem?_map, List.getElem?_eq_getElem hother] at hsome
    rw [hbehind plane (by omega), hbehind other hother]
    exact hdistinct plane other hlt (List.getElem?_eq_some_iff.mp hsome).1
  have hmapped : sites.map (fun site => shareOf site.descriptor) =
      (sites.map Site.descriptor).map shareOf := by
    rw [List.map_map]
    rfl
  rw [hmapped]
  refine hdescriptors.map_on fun descriptor hm descriptor' hm' heq => ?_
  obtain ⟨site, hsite, rfl⟩ := List.mem_map.mp hm
  obtain ⟨other, hother, rfl⟩ := List.mem_map.mp hm'
  exact apart site hsite other hother heq

/-- Through the share of a plane that was found, the length behind its site is measured. -/
theorem measureShare_of_leads {before after : Platform} {opened rewound : List Nat}
    {held : List Share} (grown : before.Grown after opened rewound held) {descriptor : Descriptor}
    {share : Share} {number : Nat} {bytes : UInt64}
    (hopened : before.openFile? descriptor = some number)
    (hshare : after.shareOpenFile? share = some number)
    (hbytes : before.backing descriptor = .ok bytes) :
    (after.measureShare share).1 = .ok bytes := by
  obtain ⟨own, hown, hduplicate⟩ := Option.bind_eq_some_iff.mp hshare
  have hfile : after.file? own = before.file? descriptor := by
    rw [Platform.file?_eq_bind, Platform.file?_eq_bind, hduplicate, hopened]
    exact grown.fileAt?_eq number
  unfold Platform.measureShare
  rw [hown]
  exact (Platform.backing_congr (hduplicate.trans hopened.symm) hfile).trans hbytes

end Handle

namespace Allocator

variable {σ : Type} {allocator : Allocator σ} {code : Int32} {size : Size} {usage : Usage}
  {before after : Client σ} {result : Except Failure Buffer}

/-- What an allocation leaves on the platform, and which handle it gives back. -/
inductive Leaves (before : Client σ) : Except Failure Buffer → Client σ → Prop
  /-- No handle was granted. -/
  | nothing {failure : Failure} {after : Client σ}
      (platform_eq : after.world.platform = before.world.platform)
      (freed_eq : Call.freed after.calls = Call.freed before.calls) :
      Leaves before (.error failure) after
  /-- A handle was granted and given back. When it was closed, nothing else was open. -/
  | returned {failure : Failure} {after : Client σ} {handle : Handle} {found : Platform}
      (accounted : before.world.platform.Accounted found handle.descriptors [])
      (precedes : before.world.platform.Precedes found)
      (platform_eq : after.world.platform = found.closeHandle handle)
      (freed_eq : Call.freed after.calls = Call.freed before.calls ++ [handle]) :
      Leaves before (.error failure) after
  /-- A buffer keeps its handle and the duplicates of its planes, through which lengths can be
  measured. -/
  | kept {buffer : Buffer} {after : Client σ}
      (accounted : before.world.platform.Accounted after.world.platform
        buffer.handle.descriptors (buffer.planes.map Plane.share))
      (precedes : before.world.platform.Precedes after.world.platform)
      (duplicates : buffer.shares.length = buffer.duplicates)
      (measured : ∀ plane ∈ buffer.planes, ∃ bytes,
        (after.world.platform.measureShare plane.share).1 = .ok bytes)
      (freed_eq : Call.freed after.calls = Call.freed before.calls) :
      Leaves before (.ok buffer) after

/-- The handles given back later are those given back before and those of the calls since. -/
theorem freed_later (client : Client σ) (platform : Platform) (service : σ) (events : List Event)
    (calls : List Call) :
    Call.freed (client.later platform service events calls).calls =
      Call.freed client.calls ++ calls.filterMap Call.freed? := by
  simp [Call.freed]

/-- A buffer has as many shares as it needs duplicates. -/
theorem Granted.duplicates_eq (granted : Granted allocator code size usage before)
    {sites : List Site} {shareOf : Descriptor → Share}
    (decided : granted.handle.sites granted.opened.backing granted.resolved.geometry size =
      .ok sites)
    (apart : ∀ site ∈ sites, ∀ other ∈ sites,
      shareOf site.descriptor = shareOf other.descriptor → site.descriptor = other.descriptor) :
    (granted.buffer (sites.map (Site.toPlane shareOf))).shares.length =
      (granted.buffer (sites.map (Site.toPlane shareOf))).duplicates := by
  have hshares : (granted.buffer (sites.map (Site.toPlane shareOf))).planes.map Plane.share =
      sites.map fun site => shareOf site.descriptor := Site.map_share_toPlane shareOf sites
  unfold Buffer.shares Buffer.duplicates
  rw [hshares]
  by_cases hfirst : granted.handle.descriptors.length = 1 ∨ ¬ granted.handle.HasBlock
  · have hgeometry :=
      (Resolver.resolve_eq_ok_iff.mp (check_eq_ok_iff.mp granted.checked).resolves).2
    have hsome := (FormatGeometry.planeCount_of_ofFormat? hgeometry).1
    rw [Handle.dedup_shares_of_first decided hsome hfirst]
    exact (if_pos hfirst).symm
  · have hnodup := Handle.nodup_shares_of_each decided granted.opens.nodup hfirst apart
    rw [hnodup.dedup, List.length_map]
    exact (List.length_map _).symm.trans (if_neg hfirst).symm

/-- An allocation leaves what is listed. -/
theorem Allocates.leaves (h : allocator.Allocates code size usage before result after) :
    Leaves before result after := by
  cases h with
  | rejected => exact .nothing rfl rfl
  | refused => exact .nothing rfl ((freed_later ..).trans (List.append_nil _))
  | withoutHandle => exact .nothing rfl ((freed_later ..).trans (List.append_nil _))
  | unusable granted =>
      exact .returned granted.opens.accounted granted.opens.precedes rfl (freed_later ..)
  | mismatched granted _ finds =>
      cases finds with
      | failed _ grown =>
          have haccounted := granted.opens.accounted.trans grown.accounted
          rw [List.append_nil, List.append_nil] at haccounted
          exact .returned haccounted (granted.opens.precedes.trans grown.precedes) rfl
            (freed_later ..)
  | found granted _ finds =>
      cases finds with
      | @found sites shareOf _ _ _ decided grown leads apart =>
          have haccounted := granted.opens.accounted.trans grown.accounted
          rw [List.append_nil, List.nil_append, ← Site.map_share_toPlane] at haccounted
          refine .kept haccounted (granted.opens.precedes.trans grown.precedes)
            (granted.duplicates_eq decided apart) ?_
            ((freed_later ..).trans (List.append_nil _))
          intro plane hplane
          obtain ⟨site, hsite, rfl⟩ := List.mem_map.mp hplane
          obtain ⟨number, hopened, hshare⟩ := leads site hsite
          obtain ⟨index, hindex⟩ := List.getElem?_of_mem hsite
          obtain ⟨bytes, hbytes, -⟩ := ((Handle.sites_eq_ok decided).2 index site hindex).2
          exact ⟨bytes, Handle.measureShare_of_leads grown hopened hshare hbytes⟩

/-- An allocation that fails leaves open what was open. -/
theorem Leaves.openDescriptors_eq {failure : Failure} (h : Leaves before (.error failure) after) :
    after.world.platform.openDescriptors = before.world.platform.openDescriptors := by
  cases h with
  | nothing platform_eq => rw [platform_eq]
  | returned accounted precedes platform_eq =>
      rw [← List.append_nil (Handle.descriptors _)] at accounted
      rw [platform_eq]
      exact accounted.closeHandle.openDescriptors_eq

end Allocator

end PixelBuffer
