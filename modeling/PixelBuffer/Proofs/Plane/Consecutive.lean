import PixelBuffer.Proofs.Geometry
import PixelBuffer.Proofs.Handle.Open
import PixelBuffer.Proofs.Handle.Vendor
import PixelBuffer.Proofs.Plane.Search

/-!
# Planes that are counted out

A handle without a block holds the planes of its format one after another. Each plane is checked
against the end of the file by a sum that saturates, the running offset is a checked sum, and the
bytes of the frame are another. Over exact naturals the three agree: the planes fit exactly when all
of them end within the file, and else the first one that does not is reported (`Handle.CountsOut`).
`Handle.SearchesOut` lists what a whole search through a file comes to, from which
`Handle.findPlanes_consecutive` reads off the decision.
-/

namespace PixelBuffer

/-! ## One plane -/

/-- Nothing can be measured behind a pipe. -/
theorem Platform.backing_pipe {platform : Platform} {descriptor : Descriptor}
    (h : platform.file? descriptor = some .pipe) :
    platform.backing descriptor = .error (.system Errno.illegalSeek) := by
  obtain ⟨number, hnumber⟩ := Option.isSome_iff_exists.mp (isSome_openFile?_of_file? h)
  unfold backing measure
  simp only [hnumber, h]

/-- The end that is reported for a plane behind the backing is its exact end, cut at the longest
word. -/
theorem checkBounds_eq_error {index : Nat} {offset length bytes : UInt64}
    (hbytes : bytes.toNat < 2 ^ 64 - 1) (hover : bytes.toNat < offset.toNat + length.toNat) :
    checkBounds index offset length bytes =
      .error (.layout (.overrun index
        (UInt64.ofNat (min (offset.toNat + length.toNat) (2 ^ 64 - 1))) bytes)) := by
  have hlt : bytes < saturatingAdd offset length := by
    rw [UInt64.lt_iff_toNat_lt, toNat_saturatingAdd, Nat.lt_min]
    exact ⟨hover, hbytes⟩
  unfold checkBounds
  rw [if_pos hlt]
  rfl

/-- Once the bounds of a plane hold, the offset behind it is a word. -/
theorem word64?_isSome_of_checkBounds {index : Nat} {offset length bytes : UInt64}
    (hbytes : bytes.toNat < 2 ^ 64 - 1) (h : checkBounds index offset length bytes = .ok ()) :
    (word64? (offset.toNat + length.toNat)).isSome := by
  rw [checkBounds_eq_ok_iff hbytes] at h
  exact Option.isSome_iff_exists.mpr ⟨_, if_pos (Nat.lt_of_le_of_lt h bytes.toNat_lt)⟩

namespace FormatGeometry

/-- The byte where the first `count` of some planes end, when they lie one after another from
`start` on with rows that are not padded. -/
def endAfter (geometry : FormatGeometry) (size : Size) (planes : List PlaneGeometry)
    (start count : Nat) : Nat :=
  start +
    ((planes.take count).map
      (·.paddedSize geometry.pixelsPerGroup size.width size.height 1)).sum

variable {geometry : FormatGeometry} {size : Size} {planes : List PlaneGeometry}
  {plane : PlaneGeometry} {start count : Nat}

@[simp] theorem endAfter_nil : geometry.endAfter size [] start count = start := by
  simp [endAfter]

@[simp] theorem endAfter_zero : geometry.endAfter size planes start 0 = start := by
  simp [endAfter]

@[simp] theorem endAfter_cons_succ :
    geometry.endAfter size (plane :: planes) start (count + 1) =
      geometry.endAfter size planes
        (start + plane.paddedSize geometry.pixelsPerGroup size.width size.height 1) count := by
  simp [endAfter, Nat.add_assoc]

/-- From byte zero on, planes end where the next plane begins. -/
theorem endAfter_planes :
    geometry.endAfter size geometry.planes 0 count =
      geometry.paddedBefore size.width size.height 1 count :=
  Nat.zero_add _

end FormatGeometry

namespace Handle

variable {geometry : FormatGeometry} {size : Size}

/-! ## Planes one after another -/

/-- What counting out planes from byte `start` on comes to, in a file of `bytes` bytes: the exact
sites of all planes, or the first plane whose exact end is behind the file. -/
inductive CountsOut (geometry : FormatGeometry) (size : Size) (descriptor : Descriptor)
    (bytes : UInt64) (planes : List PlaneGeometry) (index start : Nat) :
    Except Failure (List Site) → Prop
  | fits {sites : List Site}
      (within : geometry.endAfter size planes start planes.length ≤ bytes.toNat)
      (lengths : sites.map (·.length.toNat) =
        planes.map (·.paddedSize geometry.pixelsPerGroup size.width size.height 1))
      (offsets : ∀ (place : Nat) site, sites[place]? = some site →
        site.descriptor = descriptor ∧
          site.offset.toNat = geometry.endAfter size planes start place) :
      CountsOut geometry size descriptor bytes planes index start (.ok sites)
  | overruns {place : Nat} (place_lt : place < planes.length)
      (before : geometry.endAfter size planes start place ≤ bytes.toNat)
      (behind : bytes.toNat < geometry.endAfter size planes start (place + 1)) :
      CountsOut geometry size descriptor bytes planes index start
        (.error (.layout (.overrun (index + place)
          (UInt64.ofNat (min (geometry.endAfter size planes start (place + 1)) (2 ^ 64 - 1)))
          bytes)))

/-- A plane that fits goes before those that are counted out behind it. -/
theorem CountsOut.cons {descriptor : Descriptor} {bytes : UInt64} {plane : PlaneGeometry}
    {rest : List PlaneGeometry} {index : Nat} {offset length next : UInt64}
    {outcome : Except Failure (List Site)}
    (hlength : length.toNat =
      plane.paddedSize geometry.pixelsPerGroup size.width size.height 1)
    (hnext : next.toNat = offset.toNat + length.toNat)
    (h : CountsOut geometry size descriptor bytes rest (index + 1) next.toNat outcome) :
    CountsOut geometry size descriptor bytes (plane :: rest) index offset.toNat
      (outcome.map (⟨descriptor, offset, length⟩ :: ·)) := by
  rw [hlength] at hnext
  cases h with
  | fits within lengths offsets =>
      refine .fits ?_ ?_ fun place site hsite => ?_
      · rwa [List.length_cons, FormatGeometry.endAfter_cons_succ, ← hnext]
      · rw [List.map_cons, List.map_cons, lengths, hlength]
      · cases place with
        | zero =>
            cases hsite
            exact ⟨rfl, FormatGeometry.endAfter_zero.symm⟩
        | succ place =>
            rw [FormatGeometry.endAfter_cons_succ, ← hnext]
            exact offsets place site hsite
  | @overruns place place_lt before behind =>
      rw [show index + 1 + place = index + (place + 1) by omega, hnext,
        ← FormatGeometry.endAfter_cons_succ]
      rw [hnext, ← FormatGeometry.endAfter_cons_succ] at before behind
      exact .overruns (Nat.succ_lt_succ place_lt) before behind

/-- A first plane that ends behind the file is the one that is reported. -/
theorem CountsOut.first {descriptor : Descriptor} {bytes : UInt64} {plane : PlaneGeometry}
    (rest : List PlaneGeometry) (index : Nat) {start length : Nat}
    (hlength : length = plane.paddedSize geometry.pixelsPerGroup size.width size.height 1)
    (hstart : start ≤ bytes.toNat) (hover : bytes.toNat < start + length) :
    CountsOut geometry size descriptor bytes (plane :: rest) index start
      (.error (.layout (.overrun index
        (UInt64.ofNat (min (start + length) (2 ^ 64 - 1))) bytes))) := by
  have hend : geometry.endAfter size (plane :: rest) start (0 + 1) = start + length := by
    rw [FormatGeometry.endAfter_cons_succ, FormatGeometry.endAfter_zero, hlength]
  have hplace : CountsOut geometry size descriptor bytes (plane :: rest) index start _ :=
    .overruns (Nat.zero_lt_succ rest.length) (by rwa [FormatGeometry.endAfter_zero])
      (by rwa [hend])
  rwa [hend, Nat.add_zero] at hplace

/-- Planes whose rows fit a word are counted out over exact numbers: neither the sum that saturates
nor the checked one decides otherwise. -/
theorem consecutiveSites_countsOut {descriptor : Descriptor} {bytes : UInt64}
    {planes : List PlaneGeometry} {index : Nat} {offset : UInt64}
    (hpixels : 0 < geometry.pixelsPerGroup)
    (hplanes : ∀ plane ∈ planes, plane.bytesPerGroup ≤ 4 ∧ 0 < plane.verticalSubsampling)
    (hrows : ∀ plane ∈ planes,
      plane.paddedBytes geometry.pixelsPerGroup size.width 1 < UInt32.size)
    (hbytes : bytes.toNat < 2 ^ 64 - 1) (hoffset : offset.toNat ≤ bytes.toNat) :
    CountsOut geometry size descriptor bytes planes index offset.toNat
      (consecutiveSites geometry size descriptor bytes planes index offset) := by
  induction planes generalizing index offset with
  | nil => exact .fits (by simpa using hoffset) rfl (by simp)
  | cons plane rest ih =>
      obtain ⟨⟨hgroup, hsub⟩, hrest⟩ := List.forall_mem_cons.mp hplanes
      obtain ⟨hrow, hrows⟩ := List.forall_mem_cons.mp hrows
      obtain ⟨length, hlength⟩ : ∃ length : UInt64,
          plane.tightBytes? geometry.pixelsPerGroup size = some length := by
        refine Option.ne_none_iff_exists'.mp fun hnone => ?_
        rw [PlaneGeometry.tightBytes?_eq_none_iff hpixels hgroup] at hnone
        exact Nat.not_lt.mpr hnone hrow
      have hexact := ((PlaneGeometry.tightBytes?_eq_some_iff hpixels hgroup hsub).mp hlength).2
      rw [consecutiveSites]
      simp only [hlength]
      by_cases hfits : offset.toNat + length.toNat ≤ bytes.toNat
      · have hbounds : checkBounds index offset length bytes = .ok () :=
          (checkBounds_eq_ok_iff hbytes).mpr hfits
        obtain ⟨next, hnext⟩ :=
          Option.isSome_iff_exists.mp (word64?_isSome_of_checkBounds hbytes hbounds)
        rw [hbounds]
        simp only [hnext]
        rw [word64?_eq_some_iff] at hnext
        exact (ih hrest hrows (by omega)).cons hexact hnext
      · rw [checkBounds_eq_error hbytes (Nat.lt_of_not_le hfits)]
        exact .first rest index hexact hoffset (Nat.lt_of_not_le hfits)

/-- In a format of the table, planes are counted out over exact numbers once a row of the first one
fits a word. -/
theorem consecutiveSites_planes {descriptor : Descriptor} {bytes : UInt64}
    (hmem : geometry ∈ FormatGeometry.table)
    (hrow : (geometry.rowBytes? size.width 0 1).isSome) (hbytes : bytes.toNat < 2 ^ 64 - 1) :
    CountsOut geometry size descriptor bytes geometry.planes 0 0
      (consecutiveSites geometry size descriptor bytes geometry.planes 0 0) := by
  obtain ⟨⟨hpixels, -⟩, hunits⟩ := FormatGeometry.units_of_mem_table hmem
  obtain ⟨hgroups, -⟩ := FormatGeometry.groups_of_mem_table hmem
  have hrows := (FormatGeometry.forall_paddedBytes_lt_iff hmem).mpr hrow
  have hstart : (0 : UInt64).toNat ≤ bytes.toNat := Nat.zero_le _
  exact consecutiveSites_countsOut hpixels
    (fun plane hplane => ⟨hgroups plane hplane, (hunits plane hplane).2⟩) hrows hbytes hstart

/-- When a row of the first plane does not fit a word, the size is invalid. -/
theorem consecutiveSites_eq_invalid {descriptor : Descriptor} {bytes offset : UInt64} {index : Nat}
    (hmem : geometry ∈ FormatGeometry.table) (hrow : geometry.rowBytes? size.width 0 1 = none) :
    consecutiveSites geometry size descriptor bytes geometry.planes index offset =
      .error size.invalid := by
  have hsome := (FormatGeometry.planeCount_of_mem_table hmem).1
  unfold FormatGeometry.rowBytes? at hrow
  unfold FormatGeometry.planeCount at hsome
  cases hplanes : geometry.planes with
  | nil => simp [hplanes] at hsome
  | cons first rest =>
      rw [hplanes, List.getElem?_cons_zero, Option.bind_eq_bind, Option.bind_some] at hrow
      have htight : first.tightBytes? geometry.pixelsPerGroup size = none :=
        Option.map_eq_none_iff.mpr hrow
      rw [consecutiveSites]
      simp only [htight]

/-! ## A whole search -/

/-- Planes that were counted out from the start of a descriptor's file: each has the bytes of a
plane with rows that are not padded, begins where those before it end, and is held by the one share
of the descriptor. Together they are the frame. -/
structure CountedOut (geometry : FormatGeometry) (size : Size) (descriptor : Descriptor)
    (before after : Platform) (planes : List Plane) : Prop where
  planes_length : planes.length = geometry.planeCount
  length_eq : ∀ (index : Nat) plane, planes[index]? = some plane →
    geometry.tightBytes? size index = some plane.length
  offset_eq : ∀ (index : Nat) plane, planes[index]? = some plane →
    plane.offset.toNat = ((planes.take index).map (·.length.toNat)).sum
  share : ∃ share, (∀ plane ∈ planes, plane.share = share) ∧
    (before.openFile? descriptor).isSome ∧
    after.shareOpenFile? share = before.openFile? descriptor
  sum_eq : ∃ frame, geometry.frameBytes? size = some frame ∧
    (planes.map (·.length.toNat)).sum = frame.toNat

variable {handle : Handle} {descriptor : Descriptor} {before after : Platform}
  {result : Except Failure (List Plane)}

/-- The sites of a handle without a block are counted out behind its first descriptor. -/
theorem sites_eq_consecutiveSites {backing : Descriptor → Except IoFault UInt64} {bytes : UInt64}
    (hblock : ¬ handle.HasBlock) (hfirst : handle.descriptors[0]? = some descriptor)
    (hbacking : backing descriptor = .ok bytes) :
    handle.sites backing geometry size =
      consecutiveSites geometry size descriptor bytes geometry.planes 0 0 := by
  simp only [Handle.sites, vendor?_eq_none_iff.mpr hblock, hfirst, hbacking]

/-- Planes that a search finds at sites that are counted out are counted out themselves. -/
theorem Finds.countedOut {bytes : UInt64} {planes : List Plane}
    (hmem : geometry ∈ FormatGeometry.table)
    (h : handle.Finds geometry size before (.ok planes) after)
    (hrows : ∀ plane ∈ geometry.planes,
      plane.paddedBytes geometry.pixelsPerGroup size.width 1 < UInt32.size)
    (hsites : CountsOut geometry size descriptor bytes geometry.planes 0 0
      (handle.sites before.backing geometry size)) :
    CountedOut geometry size descriptor before after planes := by
  cases h with
  | @found sites shareOf _ opened rewound decided grown leads apart =>
  rw [decided] at hsites
  cases hsites with
  | fits within lengths offsets =>
  have hlengths : (sites.map (Site.toPlane shareOf)).map (·.length.toNat) =
      geometry.planes.map (·.paddedSize geometry.pixelsPerGroup size.width size.height 1) := by
    rw [← lengths, List.map_map]
    rfl
  have hcount : (sites.map (Site.toPlane shareOf)).length = geometry.planes.length := by
    simpa using congrArg List.length hlengths
  have hdescriptor : ∀ site ∈ sites, site.descriptor = descriptor := by
    intro site hsite
    obtain ⟨place, hplace⟩ := List.getElem?_of_mem hsite
    exact (offsets place site hplace).1
  constructor
  case planes_length => exact hcount
  case length_eq =>
    intro index plane hplane
    have hlt : index < geometry.planes.length :=
      hcount ▸ (List.getElem?_eq_some_iff.mp hplane).1
    have hlength := congrArg (·[index]?) hlengths
    rw [List.getElem?_map, hplane, List.getElem?_map, List.getElem?_eq_getElem hlt] at hlength
    have hmemPlane := List.getElem_mem hlt
    rw [FormatGeometry.tightBytes?_eq_some_iff hmem (List.getElem?_eq_getElem hlt)]
    exact ⟨hrows _ hmemPlane, Option.some.inj hlength⟩
  case offset_eq =>
    intro index plane hplane
    rw [List.getElem?_map, Option.map_eq_some_iff] at hplane
    obtain ⟨site, hsite, rfl⟩ := hplane
    rw [List.map_take, hlengths, ← List.map_take]
    exact (offsets index site hsite).2.trans FormatGeometry.endAfter_planes
  case share =>
    have hsome : 0 < sites.length := by
      rw [← List.length_map (Site.toPlane shareOf), hcount]
      exact (FormatGeometry.planeCount_of_mem_table hmem).1
    have hfirst := List.getElem_mem hsome
    obtain ⟨number, hnumber, hshare⟩ := leads _ hfirst
    rw [hdescriptor _ hfirst] at hnumber hshare
    refine ⟨shareOf descriptor, fun plane hplane => ?_, Option.isSome_of_eq_some hnumber,
      hshare.trans hnumber.symm⟩
    obtain ⟨site, hsite, rfl⟩ := List.mem_map.mp hplane
    exact congrArg shareOf (hdescriptor site hsite)
  case sum_eq =>
    rw [FormatGeometry.endAfter_planes] at within
    obtain ⟨frame, hframe⟩ : ∃ frame : UInt64, frame.toNat =
        geometry.paddedBefore size.width size.height 1 geometry.planeCount :=
      ⟨_, UInt64.toNat_ofNat_of_lt' (Nat.lt_of_le_of_lt within bytes.toNat_lt)⟩
    refine ⟨frame, (FormatGeometry.frameBytes?_eq_some_iff hmem).mpr ⟨hrows, hframe⟩, ?_⟩
    rw [hlengths, hframe, FormatGeometry.paddedBefore_planeCount]

/-- What a search through a file of `length` bytes comes to: the size is invalid, the planes are
counted out and are a frame that the file holds, or the first plane is reported whose exact end is
behind the file. -/
inductive SearchesOut (geometry : FormatGeometry) (size : Size) (descriptor : Descriptor)
    (length : FileLength) (before after : Platform) : Except Failure (List Plane) → Prop
  | invalid (unfit : geometry.rowBytes? size.width 0 1 = none) :
      SearchesOut geometry size descriptor length before after (.error size.invalid)
  | counted {planes : List Plane}
      (within : geometry.paddedBefore size.width size.height 1 geometry.planeCount ≤ length.val)
      (planes_eq : CountedOut geometry size descriptor before after planes) :
      SearchesOut geometry size descriptor length before after (.ok planes)
  | behind {index : Nat} (row : (geometry.rowBytes? size.width 0 1).isSome)
      (index_lt : index < geometry.planeCount)
      (before_le : geometry.paddedBefore size.width size.height 1 index ≤ length.val)
      (lt_stop : length.val < geometry.paddedBefore size.width size.height 1 (index + 1)) :
      SearchesOut geometry size descriptor length before after
        (.error (.layout (.overrun index
          (UInt64.ofNat (min (geometry.paddedBefore size.width size.height 1 (index + 1))
            (2 ^ 64 - 1)))
          (UInt64.ofNat length.val))))

/-- A search behind a file comes to this when the handle has no block. -/
theorem Finds.searchesOut {length : FileLength} (hmem : geometry ∈ FormatGeometry.table)
    (hblock : ¬ handle.HasBlock) (hfirst : handle.descriptors[0]? = some descriptor)
    (hfile : before.file? descriptor = some (.memory length))
    (h : handle.Finds geometry size before result after) :
    SearchesOut geometry size descriptor length before after result := by
  have hlength := length.toNat_ofNat
  have hsites : handle.sites before.backing geometry size = consecutiveSites geometry size
      descriptor (UInt64.ofNat length.val) geometry.planes 0 0 :=
    sites_eq_consecutiveSites hblock hfirst (Platform.backing_eq_ok_iff.mpr ⟨length, hfile, rfl⟩)
  cases hrow : geometry.rowBytes? size.width 0 1 with
  | none =>
      obtain rfl := h.eq_error (hsites.trans (consecutiveSites_eq_invalid hmem hrow))
      exact .invalid hrow
  | some row =>
      have hsome := Option.isSome_of_eq_some hrow
      have hcounted : CountsOut geometry size descriptor (UInt64.ofNat length.val) geometry.planes
          0 0 (handle.sites before.backing geometry size) := by
        rw [hsites]
        exact consecutiveSites_planes hmem hsome length.toNat_ofNat_lt
      have hcounts := hcounted
      generalize hdecided : handle.sites before.backing geometry size = outcome at hcounts
      cases hcounts with
      | fits within =>
          obtain ⟨planes, rfl⟩ := h.eq_ok hdecided
          rw [FormatGeometry.endAfter_planes, hlength] at within
          exact .counted within
            (h.countedOut hmem ((FormatGeometry.forall_paddedBytes_lt_iff hmem).mpr hsome) hcounted)
      | overruns place_lt before_le lt_stop =>
          obtain rfl := h.eq_error hdecided
          rw [FormatGeometry.endAfter_planes, hlength] at before_le lt_stop
          rw [Nat.zero_add, FormatGeometry.endAfter_planes]
          exact .behind hsome place_lt before_le lt_stop

/-- A handle without a block has no planes without a descriptor or behind a pipe. Behind a file it
has them exactly when the frame can be described and is no longer than the file, and they are then
counted out. Else the size is invalid exactly when a row of the first plane does not fit its word,
and otherwise the first plane is reported whose exact end is behind the file. The offset behind a
plane that fits is never refused. -/
theorem findPlanes_consecutive (hmem : geometry ∈ FormatGeometry.table)
    (hblock : ¬ handle.HasBlock) {world : World} (hopen : handle.IsOpen world.platform)
    (size : Size) :
    let run := handle.findPlanes geometry size world
    match handle.descriptors[0]? with
    | none => run.1 = .error (.layout (.missingDescriptor 0))
    | some descriptor =>
        (world.platform.file? descriptor = some .pipe →
          run.1 = .error (.io (.system Errno.illegalSeek))) ∧
        ∀ length, world.platform.file? descriptor = some (.memory length) →
          ((∃ planes, run.1 = .ok planes) ↔
            ∃ frame, geometry.frameBytes? size = some frame ∧ frame.toNat ≤ length.val) ∧
          (∀ planes, run.1 = .ok planes →
            CountedOut geometry size descriptor world.platform run.2.platform planes) ∧
          (∀ failure, run.1 = .error failure →
            (failure = size.invalid ↔ geometry.rowBytes? size.width 0 1 = none) ∧
            (failure ≠ size.invalid → ∃ index < geometry.planeCount,
              let stop := geometry.paddedBefore size.width size.height 1
              length.val < stop (index + 1) ∧
                (∀ earlier < index, stop (earlier + 1) ≤ length.val) ∧
                failure = .layout (.overrun index
                  (UInt64.ofNat (min (stop (index + 1)) (2 ^ 64 - 1)))
                  (UInt64.ofNat length.val)))) ∧
          ∀ index offset bytes,
            checkBounds index offset bytes (UInt64.ofNat length.val) = .ok () →
              (word64? (offset.toNat + bytes.toNat)).isSome := by
  intro run
  have hfinds : handle.Finds geometry size world.platform run.1 run.2.platform :=
    (findPlanes_finds hopen.number_lt).2
  have hvendor := vendor?_eq_none_iff.mpr hblock
  generalize run.1 = result, run.2.platform = after at hfinds
  cases hfirst : handle.descriptors[0]? with
  | none =>
      refine hfinds.eq_error ?_
      simp only [Handle.sites, hvendor, hfirst]
  | some descriptor =>
      refine ⟨fun hpipe => hfinds.eq_error ?_, fun length hfile => ?_⟩
      · simp only [Handle.sites, hvendor, hfirst, Platform.backing_pipe hpipe]
      have hstop : ∀ index offset bytes,
          checkBounds index offset bytes (UInt64.ofNat length.val) = .ok () →
            (word64? (offset.toNat + bytes.toNat)).isSome :=
        fun index offset bytes => word64?_isSome_of_checkBounds length.toNat_ofNat_lt
      have hframe : ∀ {frame}, geometry.frameBytes? size = some frame →
          (geometry.rowBytes? size.width 0 1).isSome ∧ frame.toNat =
            geometry.paddedBefore size.width size.height 1 geometry.planeCount := fun hsome => by
        rwa [FormatGeometry.frameBytes?_eq_some_iff hmem,
          FormatGeometry.forall_paddedBytes_lt_iff hmem] at hsome
      cases hfinds.searchesOut hmem hblock hfirst hfile with
      | invalid unfit =>
          refine ⟨iff_of_false (by rintro ⟨_, ⟨⟩⟩) ?_, by rintro _ ⟨⟩, ?_, hstop⟩
          · rintro ⟨frame, hsome, -⟩
            have hrow := (hframe hsome).1
            rw [unfit] at hrow
            cases hrow
          · rintro _ ⟨⟩
            exact ⟨iff_of_true rfl unfit, fun hne => absurd rfl hne⟩
      | @counted planes within planes_eq =>
          obtain ⟨frame, hsome, -⟩ := planes_eq.sum_eq
          refine ⟨iff_of_true ⟨planes, rfl⟩ ⟨frame, hsome, (hframe hsome).2.trans_le within⟩, ?_,
            by rintro _ ⟨⟩, hstop⟩
          rintro _ ⟨⟩
          exact planes_eq
      | @behind index row index_lt before_le lt_stop =>
          refine ⟨iff_of_false (by rintro ⟨_, ⟨⟩⟩) ?_, by rintro _ ⟨⟩, ?_, hstop⟩
          · rintro ⟨frame, hsome, hle⟩
            have hlast : geometry.paddedBefore size.width size.height 1 (index + 1) ≤
                geometry.paddedBefore size.width size.height 1 geometry.planeCount :=
              FormatGeometry.paddedBefore_mono index_lt
            rw [← (hframe hsome).2] at hlast
            omega
          · rintro _ ⟨⟩
            refine ⟨iff_of_false (by rintro ⟨⟩) fun h => ?_, fun _ =>
              ⟨index, index_lt, lt_stop, fun earlier hearlier => ?_, rfl⟩⟩
            · rw [h] at row
              cases row
            · exact (FormatGeometry.paddedBefore_mono hearlier).trans before_le

/-- In a file of five bytes, an image of two by two pixels in planes of four, one and one bytes has
no planes: the third one ends at byte six. -/
theorem findPlanes_consecutive_third_plane :
    let opened := ({} : Platform).accept ⟨[.memory 5 3], [7]⟩
    let world : World := { platform := opened.2 }
    ∃ geometry ∈ FormatGeometry.table, ¬ opened.1.HasBlock ∧ opened.1.IsOpen world.platform ∧
      (¬ ∃ planes, (opened.1.findPlanes geometry ⟨2, 2⟩ world).1 = .ok planes) ∧
      (opened.1.findPlanes geometry ⟨2, 2⟩ world).1 = .error (.layout (.overrun 2 6 5)) := by
  intro opened world
  have hmem : (⟨"YUV420", .yu12, 2, [⟨2, 1⟩, ⟨1, 2⟩, ⟨1, 2⟩]⟩ : FormatGeometry) ∈
      FormatGeometry.table := by decide
  have hblock : ¬ opened.1.HasBlock := by decide
  have hopen : opened.1.IsOpen world.platform := Platform.accept_isOpen _ _
  refine ⟨_, hmem, hblock, hopen, ?_, by decide +kernel⟩
  obtain ⟨-, hmemory⟩ := findPlanes_consecutive hmem hblock hopen ⟨2, 2⟩
  rw [(hmemory 5 (by decide)).1]
  decide +kernel

end Handle

end PixelBuffer
