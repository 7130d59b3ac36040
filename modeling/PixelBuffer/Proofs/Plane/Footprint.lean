import PixelBuffer.Proofs.Plane.Agreement
import PixelBuffer.Proofs.Plane.Reported
import PixelBuffer.Proofs.Platform.Lasting

/-!
# What a search leaves behind

Finding the length of a file rewinds it, for everyone who shares the open file. That is all that a
search does to what was there before it (`Platform.RewoundThrough`): it rewinds through the
descriptors that it measures, which are the first one of a handle without a block, and with a block
those of the planes up to the first one with a fault (`Handle.Measures`). One plane either ends the
search or is followed by the next (`Search.reportedPlanes_step`), and a run measures what its planes
do by induction on them (`Search.reportedPlanes_measures`).

Since a search reads no position, it decides the same wherever the files stand, and the same again
when it is repeated; `Handle.findPlanes_footprint` puts this together.
-/

namespace PixelBuffer

/-! ## Rewinding -/

namespace Platform

/-- The file of a descriptor has a length that can be sought. -/
def Seekable (platform : Platform) (descriptor : Descriptor) : Prop :=
  ∃ length, platform.file? descriptor = some (.memory length)

/-- Of what was there before, nothing changed but positions: exactly the open files of the measured
descriptors are at position zero, and every other one is as it was. -/
structure RewoundThrough (before after : Platform) (measured : Descriptor → Prop) : Prop where
  files : after.files = before.files
  descriptors : ∀ number < before.descriptors.size,
    after.descriptors[number]? = before.descriptors[number]?
  holdings : ∀ number < before.holdings.size, after.holdings[number]? = before.holdings[number]?
  rewound : ∀ descriptor number, measured descriptor →
    before.openFile? descriptor = some number → ∃ opened,
      before.openFiles[number]? = some opened ∧
        after.openFiles[number]? = some { opened with position := 0 }
  others : ∀ number, (∀ descriptor, measured descriptor →
    before.openFile? descriptor ≠ some number) →
      after.openFiles[number]? = before.openFiles[number]?

variable {before after : Platform} {measured other : Descriptor → Prop}

/-- Nothing is measured. -/
theorem RewoundThrough.refl (platform : Platform) (h : ∀ descriptor, ¬ measured descriptor) :
    platform.RewoundThrough platform measured where
  files := rfl
  descriptors _ _ := rfl
  holdings _ _ := rfl
  rewound descriptor _ hmeasured := absurd hmeasured (h descriptor)
  others _ _ := rfl

/-- The same descriptors are measured. -/
theorem RewoundThrough.congr (h : before.RewoundThrough after measured)
    (hsame : ∀ descriptor, measured descriptor ↔ other descriptor) :
    before.RewoundThrough after other where
  files := h.files
  descriptors := h.descriptors
  holdings := h.holdings
  rewound descriptor number hother := h.rewound descriptor number ((hsame descriptor).mpr hother)
  others number hothers :=
    h.others number fun descriptor hmeasured =>
      hothers descriptor ((hsame descriptor).mp hmeasured)

/-- A descriptor from before leads to the file that it led to. -/
theorem Grown.file?_old {opened rewound : List Nat} {held : List Share}
    (h : before.Grown after opened rewound held) {descriptor : Descriptor}
    (hold : descriptor.number < before.descriptors.size) :
    after.file? descriptor = before.file? descriptor := by
  rw [file?_eq_bind, file?_eq_bind, h.openFile?_old hold]
  exact congrArg _ (funext h.fileAt?_eq)

/-- What grew by duplicates was rewound through the descriptors behind the rewound open files. -/
theorem Grown.rewoundThrough {opened rewound : List Nat} {held : List Share}
    (h : before.Grown after opened rewound held)
    (hrewound : ∀ number, number ∈ rewound ↔
      ∃ descriptor, measured descriptor ∧ before.openFile? descriptor = some number)
    (hseekable : ∀ descriptor, measured descriptor → before.Seekable descriptor) :
    before.RewoundThrough after measured where
  files := h.files
  descriptors := h.descriptors
  holdings := h.holdings
  rewound descriptor number hmeasured hnumber := by
    obtain ⟨length, hfile⟩ := hseekable descriptor hmeasured
    rw [file?_eq_bind, hnumber, Option.bind_some] at hfile
    obtain ⟨file, hopenFile, -⟩ := Option.bind_eq_some_iff.mp hfile
    have hmem : number ∈ rewound := (hrewound number).mpr ⟨descriptor, hmeasured, hnumber⟩
    refine ⟨file, hopenFile, ?_⟩
    rw [h.openFiles, hopenFile, Option.map_some, if_pos hmem]
  others number hothers := by
    have hmem : number ∉ rewound := fun hmem => by
      obtain ⟨descriptor, hmeasured, hnumber⟩ := (hrewound number).mp hmem
      exact hothers descriptor hmeasured hnumber
    rw [h.openFiles]
    simp only [if_neg hmem, Option.map_id']

end Platform

/-! ## Descriptors that are measured -/

namespace Handle

variable {handle : Handle} {platform : Platform} {index remaining : Nat}
  {descriptor : Descriptor}

/-- The descriptor of a reported plane, when its file has a length. -/
structure MeasuresPlane (handle : Handle) (platform : Platform) (index : Nat)
    (descriptor : Descriptor) : Prop where
  source : handle.descriptors[handle.sourceIndex index]? = some descriptor
  seekable : platform.Seekable descriptor

/-- The descriptor of one of the reported planes from `index` on, when no plane before it has a
fault. -/
def MeasuresFrom (handle : Handle) (platform : Platform) (remaining index : Nat)
    (descriptor : Descriptor) : Prop :=
  ∃ place < remaining,
    (∀ earlier < place, ∀ failure, ¬ handle.PlaneFault platform (index + earlier) failure) ∧
      handle.MeasuresPlane platform (index + place) descriptor

/-- A descriptor that a search for the planes of a handle measures: the first one, when the handle
has no block, and with a block that reports as many planes as the format has, the descriptor of a
plane up to the first one with a fault. -/
inductive Measures (handle : Handle) (platform : Platform) (geometry : FormatGeometry)
    (descriptor : Descriptor) : Prop
  | first (unreported : ¬ handle.HasBlock) (source : handle.descriptors[0]? = some descriptor)
      (seekable : platform.Seekable descriptor)
  | reported {index : Nat} (block : handle.HasBlock)
      (count : handle.reportedCount = geometry.planeCount) (index_lt : index < geometry.planeCount)
      (reached : ∀ earlier < index, ∀ failure, ¬ handle.PlaneFault platform earlier failure)
      (source : handle.descriptors[handle.sourceIndex index]? = some descriptor)
      (seekable : platform.Seekable descriptor)

/-- Behind a plane with a fault no plane is reached. -/
theorem measuresFrom_of_fault {failure : Failure}
    (h : handle.PlaneFault platform index failure) :
    handle.MeasuresFrom platform (remaining + 1) index descriptor ↔
      handle.MeasuresPlane platform index descriptor := by
  constructor
  · rintro ⟨place, -, hreached, hplane⟩
    cases place with
    | zero => exact hplane
    | succ place => exact absurd h (hreached 0 (Nat.zero_lt_succ place) failure)
  · intro hplane
    exact ⟨0, Nat.zero_lt_succ _, fun _ hlt => absurd hlt (Nat.not_lt_zero _), hplane⟩

/-- Behind a plane that has a site the next one is reached. -/
theorem measuresFrom_of_site {site : Site} (h : handle.PlaneSite platform index site) :
    handle.MeasuresFrom platform (remaining + 1) index descriptor ↔
      handle.MeasuresPlane platform index descriptor ∨
        handle.MeasuresFrom platform remaining (index + 1) descriptor := by
  have hshift : ∀ place, index + (place + 1) = index + 1 + place := by omega
  constructor
  · rintro ⟨place, hlt, hreached, hplane⟩
    cases place with
    | zero => exact .inl hplane
    | succ place =>
        refine .inr ⟨place, Nat.lt_of_succ_lt_succ hlt, fun earlier hearlier => ?_, ?_⟩
        · rw [← hshift]
          exact hreached (earlier + 1) (Nat.succ_lt_succ hearlier)
        · rwa [← hshift]
  · rintro (hplane | ⟨place, hlt, hreached, hplane⟩)
    · exact ⟨0, Nat.zero_lt_succ _, fun _ hlt => absurd hlt (Nat.not_lt_zero _), hplane⟩
    · refine ⟨place + 1, Nat.succ_lt_succ hlt, fun earlier hearlier failure => ?_, ?_⟩
      · cases earlier with
        | zero => exact h.no_fault
        | succ earlier =>
            rw [hshift]
            exact hreached earlier (Nat.lt_of_succ_lt_succ hearlier) failure
      · rwa [hshift]

/-- With a block that reports as many planes as the format has, the descriptors that are measured
are those of its planes from the first one on. -/
theorem measures_iff_of_block {geometry : FormatGeometry} (hblock : handle.HasBlock)
    (hcount : handle.reportedCount = geometry.planeCount) :
    handle.Measures platform geometry descriptor ↔
      handle.MeasuresFrom platform handle.reportedCount 0 descriptor := by
  unfold MeasuresFrom
  simp only [Nat.zero_add]
  constructor
  · intro h
    cases h with
    | first unreported => exact absurd hblock unreported
    | @reported index _ _ index_lt reached source seekable =>
        exact ⟨index, hcount ▸ index_lt, reached, source, seekable⟩
  · rintro ⟨index, hlt, hreached, hsource, hseekable⟩
    exact .reported hblock hcount (hcount ▸ hlt) hreached hsource hseekable

/-- Without a block, the first descriptor is the one that is measured. -/
theorem measures_iff_of_no_block {geometry : FormatGeometry} (hblock : ¬ handle.HasBlock) :
    handle.Measures platform geometry descriptor ↔
      handle.descriptors[0]? = some descriptor ∧ platform.Seekable descriptor := by
  constructor
  · intro h
    cases h with
    | first _ source seekable => exact ⟨source, seekable⟩
    | reported block => exact absurd block hblock
  · rintro ⟨hsource, hseekable⟩
    exact .first hblock hsource hseekable

/-- A reported plane measures no other descriptor than its own. -/
theorem measuresPlane_iff {other : Descriptor}
    (hsource : handle.descriptors[handle.sourceIndex index]? = some descriptor)
    (hseekable : platform.Seekable descriptor) :
    handle.MeasuresPlane platform index other ↔ descriptor = other := by
  constructor
  · intro hplane
    exact Option.some.inj (hsource.symm.trans hplane.source)
  · rintro rfl
    exact ⟨hsource, hseekable⟩

/-- A reported plane is refused when nothing can be measured behind its descriptor. -/
theorem reportedSite_of_error {backing : Descriptor → Except IoFault UInt64} {fault : IoFault}
    (hsource : handle.descriptors[handle.sourceIndex index]? = some descriptor)
    (hbacking : backing descriptor = .error fault) :
    handle.reportedSite backing index = .error (.io fault) := by
  simp only [reportedSite, hsource, Site.locate, hbacking]

/-- A reported plane whose descriptor is measured is refused when its bounds are. -/
theorem reportedSite_of_ok {backing : Descriptor → Except IoFault UInt64} {bytes : UInt64}
    (hsource : handle.descriptors[handle.sourceIndex index]? = some descriptor)
    (hbacking : backing descriptor = .ok bytes) :
    handle.reportedSite backing index =
      (checkBounds index (wordAt handle.ints (10 + index)).toUInt64
        (wordAt handle.ints (14 + index)).toUInt64 bytes).map fun _ =>
          ⟨descriptor, (wordAt handle.ints (10 + index)).toUInt64,
            (wordAt handle.ints (14 + index)).toUInt64⟩ := by
  simp only [reportedSite, hsource, Site.locate, hbacking]
  cases checkBounds index (wordAt handle.ints (10 + index)).toUInt64
    (wordAt handle.ints (14 + index)).toUInt64 bytes <;> rfl

/-- What a reported plane of an open handle is refused for is its fault. -/
theorem planeFault_of_reportedSite (hopen : handle.IsOpen platform) {failure : Failure}
    (h : handle.reportedSite platform.backing index = .error failure) :
    handle.PlaneFault platform index failure := by
  rcases reportedSite_cases hopen index with ⟨_, hfault, heq⟩ | ⟨_, _, heq⟩
  · cases heq.symm.trans h
    exact hfault
  · cases heq.symm.trans h

/-- Where a reported plane of an open handle is located is its site. -/
theorem planeSite_of_reportedSite (hopen : handle.IsOpen platform) {site : Site}
    (h : handle.reportedSite platform.backing index = .ok site) :
    handle.PlaneSite platform index site := by
  rcases reportedSite_cases hopen index with ⟨_, _, heq⟩ | ⟨_, hsite, heq⟩
  · cases heq.symm.trans h
  · cases heq.symm.trans h
    exact hsite

end Handle

/-! ## Descriptors that a search measured -/

/-- A length can be measured exactly behind a seekable descriptor. -/
theorem Platform.seekable_iff {platform : Platform} {descriptor : Descriptor} :
    platform.Seekable descriptor ↔ ∃ bytes, platform.backing descriptor = .ok bytes := by
  constructor
  · rintro ⟨length, hfile⟩
    exact ⟨_, backing_eq_ok_iff.mpr ⟨length, hfile, rfl⟩⟩
  · rintro ⟨bytes, hbytes⟩
    obtain ⟨length, hfile, -⟩ := backing_eq_ok_iff.mp hbytes
    exact ⟨length, hfile⟩

/-- A descriptor behind which nothing can be measured is not seekable. -/
theorem Platform.not_seekable {platform : Platform} {descriptor : Descriptor} {fault : IoFault}
    (h : platform.backing descriptor = .error fault) : ¬ platform.Seekable descriptor := by
  intro hseekable
  obtain ⟨bytes, hbytes⟩ := seekable_iff.mp hseekable
  cases h.symm.trans hbytes

namespace Search

variable {start now : World} {opened : List Nat} {extra : List Share} {search : Search}

/-- The search measured the descriptor. -/
def HasMeasured (search : Search) (descriptor : Descriptor) : Prop :=
  ∃ known ∈ search.measured, known.descriptor = descriptor

/-- A search that has not begun measured nothing. -/
theorem not_hasMeasured_empty (descriptor : Descriptor) : ¬ HasMeasured {} descriptor :=
  fun ⟨_, hknown, _⟩ => List.not_mem_nil hknown

/-- A search that measured one descriptor more. -/
theorem hasMeasured_cons {found : Search} {file : Measured} {descriptor : Descriptor}
    (hkept : search.measured ⊆ found.measured) (hfile : file ∈ found.measured)
    (honly : ∀ known ∈ found.measured, known = file ∨ known ∈ search.measured) :
    found.HasMeasured descriptor ↔
      search.HasMeasured descriptor ∨ file.descriptor = descriptor := by
  constructor
  · rintro ⟨known, hknown, heq⟩
    rcases honly known hknown with rfl | hold
    · exact .inr heq
    · exact .inl ⟨known, hold, heq⟩
  · rintro (⟨known, hold, heq⟩ | heq)
    · exact ⟨known, hkept hold, heq⟩
    · exact ⟨file, hfile, heq⟩

/-- What a search measured is seekable. -/
theorem Valid.seekable (h : Valid start now opened extra search) {descriptor : Descriptor}
    (hmeasured : search.HasMeasured descriptor) : start.platform.Seekable descriptor := by
  obtain ⟨known, hknown, rfl⟩ := hmeasured
  obtain ⟨_, _, _, _, _, hbytes⟩ := h.knows known hknown
  exact Platform.seekable_iff.mpr ⟨_, hbytes⟩

/-- The end of a search, whatever it comes to, leaves the platform rewound through the descriptors
that were measured. -/
theorem finish_rewoundThrough (h : Valid start now opened [] search)
    (answer : Except Failure Unit) :
    start.platform.RewoundThrough (finish (answer, search) now).2.platform search.HasMeasured := by
  have hgrown : ∃ held, start.platform.Grown (finish (answer, search) now).2.platform opened
      (search.rewound start.platform) held := by
    cases answer with
    | error failure =>
        obtain ⟨platform, heq, hgrown⟩ : ∃ platform, finish (.error failure, search) now =
            (.error failure, { now with platform := platform }) ∧ _ := finish_error h
        rw [heq]
        exact ⟨_, hgrown⟩
    | ok _ =>
        obtain ⟨platform, heq, hgrown⟩ := finish_ok h
        rw [heq]
        exact ⟨_, hgrown⟩
  obtain ⟨held, hgrown⟩ := hgrown
  refine hgrown.rewoundThrough (fun number => ?_) fun descriptor => h.seekable
  unfold rewound HasMeasured
  rw [List.mem_filterMap]
  constructor
  · rintro ⟨known, hknown, hnumber⟩
    exact ⟨known.descriptor, ⟨known, hknown, rfl⟩, hnumber⟩
  · rintro ⟨_, ⟨known, hknown, rfl⟩, hnumber⟩
    exact ⟨known, hknown, hnumber⟩

/-! ## Runs over the planes -/

variable {handle : Handle}

/-- Looking at one reported plane measures its descriptor, and then ends the run with the fault of
the plane or goes on with the next one. -/
theorem reportedPlanes_step (h : Valid start now opened [] search)
    (hopen : handle.IsOpen start.platform) (hblock : handle.HasBlock)
    {expected remaining index : Nat} (hindex : index < handle.reportedCount)
    (hslot : index < vendorSlots) :
    ∃ found later opened', Valid start later opened' [] found ∧
      (∀ descriptor, found.HasMeasured descriptor ↔
        search.HasMeasured descriptor ∨
          handle.MeasuresPlane start.platform index descriptor) ∧
      ((∃ failure, handle.PlaneFault start.platform index failure ∧
          reportedPlanes handle (.atPlaces handle.ints) expected (remaining + 1) index search now =
            ((.error failure, found), later)) ∨
        ∃ site, handle.PlaneSite start.platform index site ∧
          reportedPlanes handle (.atPlaces handle.ints) expected (remaining + 1) index search now =
            reportedPlanes handle (.atPlaces handle.ints) expected remaining (index + 1) found
              later) := by
  have hlogged := h.log (show (Event.reportedPlane index (wordAt handle.ints (14 + index))
    (wordAt handle.ints (10 + index)) (wordAt handle.ints (6 + index))).level = .debug from rfl)
  rw [reportedPlanes, Handle.plane?_atPlaces hindex hslot]
  simp only [Handle.planeDescriptor?_atPlaces hblock hindex, bind_apply, Act.log_apply]
  -- Only a source whose length can be sought is rewound, so the footprint is settled by the first two
  -- splits; a place past the end (the third) ends the search after the rewinding, not before it.
  cases hsource : handle.descriptors[handle.sourceIndex index]? with
  | none =>
      refine ⟨search, _, opened, hlogged, fun descriptor => ?_, .inl ⟨_, .missing hsource, rfl⟩⟩
      refine (or_iff_left fun hplane => ?_).symm
      cases hsource.symm.trans hplane.source
  | some descriptor =>
      have hmeasure := measure_valid hlogged
        (hopen.number_lt _ (List.mem_of_getElem? hsource))
      cases hbacking : start.platform.backing descriptor with
      | error fault =>
          rw [hbacking] at hmeasure
          obtain ⟨later, opened', heq, hvalid⟩ := hmeasure
          have hfault := Handle.planeFault_of_reportedSite hopen
            (Handle.reportedSite_of_error hsource hbacking)
          simp only [bind_apply, heq]
          refine ⟨search, later, opened', hvalid, fun other => ?_, .inl ⟨_, hfault, rfl⟩⟩
          refine (or_iff_left fun hplane => ?_).symm
          cases hsource.symm.trans hplane.source
          exact Platform.not_seekable hbacking hplane.seekable
      | ok bytes =>
          rw [hbacking] at hmeasure
          obtain ⟨file, found, later, opened', heq, hvalid, hkept, hfile, hdescriptor, rfl,
            honly⟩ := hmeasure
          have hmeasured : ∀ other, found.HasMeasured other ↔ search.HasMeasured other ∨
              handle.MeasuresPlane start.platform index other := fun other => by
            rw [hasMeasured_cons hkept.1 hfile honly, hdescriptor,
              Handle.measuresPlane_iff hsource (Platform.seekable_iff.mpr ⟨_, hbacking⟩)]
          have hsite := Handle.reportedSite_of_ok hsource hbacking
          simp only [bind_apply, heq]
          cases hbounds : checkBounds index (wordAt handle.ints (10 + index)).toUInt64
              (wordAt handle.ints (14 + index)).toUInt64 file.bytes with
          | error failure =>
              rw [hbounds] at hsite
              obtain ⟨hplace, hreleased⟩ := place_error hvalid hbounds
              simp only [hplace]
              exact ⟨found, _, opened', hreleased, hmeasured,
                .inl ⟨failure, Handle.planeFault_of_reportedSite hopen hsite, rfl⟩⟩
          | ok _ =>
              rw [hbounds] at hsite
              obtain ⟨hplace, hadded⟩ := place_ok hvalid hfile hbounds
              simp only [hplace]
              exact ⟨_, later, opened', hadded, hmeasured,
                .inr ⟨_, Handle.planeSite_of_reportedSite hopen hsite, rfl⟩⟩

/-- A run over reported planes measures the descriptors of the planes up to the first one with a
fault. -/
theorem reportedPlanes_measures (h : Valid start now opened [] search)
    (hopen : handle.IsOpen start.platform) (hblock : handle.HasBlock)
    {expected remaining index : Nat} (hcount : index + remaining ≤ handle.reportedCount)
    (hslots : index + remaining ≤ vendorSlots) (descriptor : Descriptor) :
    (reportedPlanes handle (.atPlaces handle.ints) expected remaining index search
        now).1.2.HasMeasured descriptor ↔
      search.HasMeasured descriptor ∨
        handle.MeasuresFrom start.platform remaining index descriptor := by
  induction remaining generalizing index search now opened with
  | zero =>
      refine (or_iff_left ?_).symm
      rintro ⟨place, hlt, -⟩
      exact Nat.not_lt_zero place hlt
  | succ remaining ih =>
      obtain ⟨found, later, opened', hvalid, hfound, hstep⟩ :=
        @reportedPlanes_step start now opened search handle h hopen hblock expected remaining index
          (by omega) (by omega)
      rcases hstep with ⟨failure, hfault, heq⟩ | ⟨site, hsite, heq⟩
      · rw [heq, Handle.measuresFrom_of_fault hfault]
        exact hfound descriptor
      · rw [heq, ih hvalid (by omega) (by omega), hfound, Handle.measuresFrom_of_site hsite,
          or_assoc]

/-- Counting out planes measures nothing more. -/
theorem consecutivePlanes_measures (geometry : FormatGeometry) (size : Size) (file : Measured)
    (planes : List PlaneGeometry) (index : Nat) (offset : UInt64) (search : Search) (now : World)
    (descriptor : Descriptor) :
    (consecutivePlanes geometry size file planes index offset search now).1.2.HasMeasured
      descriptor ↔ search.HasMeasured descriptor := by
  induction planes generalizing index offset search now with
  | nil => rfl
  | cons plane rest ih =>
      rw [consecutivePlanes]
      cases plane.tightBytes? geometry.pixelsPerGroup size with
      | none => rfl
      | some length =>
          simp only [bind_apply, Act.changePlatform_apply, place]
          cases checkBounds index offset length file.bytes with
          | error failure => rfl
          | ok _ =>
              simp only [pure_apply]
              cases word64? (offset.toNat + length.toNat) with
              | none => rfl
              | some next => exact ih ..

end Search

/-! ## A whole search -/

namespace Handle

variable {handle : Handle} {geometry : FormatGeometry} {size : Size} {world : World}

/-- A search for reported planes rewinds the descriptors of the planes up to the first one with a
fault. -/
theorem findReported_rewoundThrough (hmem : geometry ∈ FormatGeometry.table)
    (hopen : handle.IsOpen world.platform) (hblock : handle.HasBlock) :
    world.platform.RewoundThrough
      (handle.findReported (.atPlaces handle.ints) geometry world).2.platform
      (handle.Measures world.platform geometry) := by
  unfold findReported
  by_cases hcount : (VendorReport.atPlaces handle.ints).planeCount.toNat ≠ geometry.planeCount
  · simp only [if_pos hcount, pure_apply]
    refine .refl _ fun descriptor hmeasured => ?_
    cases hmeasured with
    | first unreported => exact unreported hblock
    | reported _ count => exact hcount count
  · have hequal : handle.reportedCount = geometry.planeCount := not_not.mp hcount
    have hslots : 0 + handle.reportedCount ≤ vendorSlots := by
      rw [Nat.zero_add, hequal]
      exact Nat.le_succ_of_le (FormatGeometry.planeCount_of_mem_table hmem).2
    have hempty := (Search.valid_empty world).log
      (show (Event.reported (VendorReport.atPlaces handle.ints).id
        (VendorReport.atPlaces handle.ints).width (VendorReport.atPlaces handle.ints).height
        (VendorReport.atPlaces handle.ints).planeCount.toNat).level = .debug from rfl)
    obtain ⟨opened, hvalid⟩ := (@Search.reportedPlanes_places world _ [] {} handle
      (.atPlaces handle.ints) geometry.planeCount handle.reportedCount 0 hempty
      hopen.number_lt).valid
    simp only [if_neg hcount, bind_apply, Act.log_apply]
    refine (Search.finish_rewoundThrough hvalid _).congr fun descriptor => ?_
    rw [measures_iff_of_block hblock hequal, Search.reportedPlanes_measures hempty hopen hblock
      (Nat.le_of_eq (Nat.zero_add _)) hslots]
    exact or_iff_right (Search.not_hasMeasured_empty descriptor)

/-- A search that counts out planes rewinds the first descriptor. -/
theorem findConsecutive_rewoundThrough (hopen : handle.IsOpen world.platform)
    (hblock : ¬ handle.HasBlock) :
    world.platform.RewoundThrough (handle.findConsecutive geometry size world).2.platform
      (handle.Measures world.platform geometry) := by
  have hempty := (Search.valid_empty world).log (show Event.unreported.level = .debug from rfl)
  unfold findConsecutive
  simp only [bind_apply, Act.log_apply]
  cases hfirst : handle.descriptors[0]? with
  | none =>
      refine .refl _ fun descriptor hmeasured => ?_
      cases hfirst.symm.trans (measures_iff_of_no_block hblock |>.mp hmeasured).1
  | some descriptor =>
      have hmeasure := Search.measure_valid hempty
        (hopen.number_lt _ (List.mem_of_getElem? hfirst))
      cases hbacking : world.platform.backing descriptor with
      | error fault =>
          rw [hbacking] at hmeasure
          obtain ⟨later, opened, heq, hvalid⟩ := hmeasure
          simp only [bind_apply, heq]
          refine (Search.finish_rewoundThrough hvalid _).congr fun other => ?_
          refine iff_of_false (Search.not_hasMeasured_empty other) fun hmeasured => ?_
          obtain ⟨hsource, hseekable⟩ := (measures_iff_of_no_block hblock).mp hmeasured
          cases hfirst.symm.trans hsource
          exact Platform.not_seekable hbacking hseekable
      | ok bytes =>
          rw [hbacking] at hmeasure
          obtain ⟨file, found, later, opened, heq, hvalid, hkept, hfile, hdescriptor, rfl,
            honly⟩ := hmeasure
          have hplaces := (@Search.consecutivePlanes_places world later opened found geometry size
            file geometry.planes 0 0 hvalid hfile).release
          obtain ⟨opened', hvalid'⟩ := hplaces.valid
          simp only [bind_apply, heq, Act.changePlatform_apply]
          refine (Search.finish_rewoundThrough hvalid' _).congr fun other => ?_
          rw [Search.consecutivePlanes_measures, Search.hasMeasured_cons hkept.1 hfile honly,
            or_iff_right (Search.not_hasMeasured_empty other), hdescriptor,
            measures_iff_of_no_block hblock, hfirst, Option.some.injEq]
          refine (and_iff_left_of_imp ?_).symm
          rintro rfl
          exact Platform.seekable_iff.mpr ⟨_, hbacking⟩

/-- Logging what a search found, if it found anything, moves no position. -/
theorem found_rewoundThrough {search : Act (Except Failure (List Plane))}
    {measured : Descriptor → Prop}
    (h : world.platform.RewoundThrough (search world).2.platform measured) :
    world.platform.RewoundThrough
      ((do
        match ← search with
        | .error failure => pure (.error failure)
        | .ok planes =>
            logFound planes 0
            pure (.ok planes) : Act (Except Failure (List Plane))) world).2.platform measured := by
  rw [bind_apply]
  generalize search world = reached at h
  obtain ⟨answer, now⟩ := reached
  cases answer with
  | error failure => exact h
  | ok planes => exact (logFound_quiet planes 0 (.refl now)).2.symm ▸ h

/-- A search for the planes of a handle rewinds the descriptors that it measures, and does nothing
else to what was there before. -/
theorem findPlanes_rewoundThrough (hmem : geometry ∈ FormatGeometry.table)
    (hopen : handle.IsOpen world.platform) (size : Size) :
    world.platform.RewoundThrough (handle.findPlanes geometry size world).2.platform
      (handle.Measures world.platform geometry) := by
  unfold findPlanes
  rw [vendor?_eq]
  by_cases hblock : handle.HasBlock
  · rw [if_pos hblock]
    exact found_rewoundThrough (findReported_rewoundThrough hmem hopen hblock)
  · rw [if_neg hblock]
    exact found_rewoundThrough (findConsecutive_rewoundThrough hopen hblock)

/-- A search leaves the descriptors of the handle open. -/
theorem findPlanes_isOpen (hopen : handle.IsOpen world.platform) :
    handle.IsOpen (handle.findPlanes geometry size world).2.platform := by
  obtain ⟨opened, rewound, held, hgrown⟩ :=
    (@findPlanes_finds handle geometry size world hopen.number_lt).2.exists_grown
  intro descriptor hmem
  obtain ⟨file, hfile⟩ := hopen descriptor hmem
  exact ⟨file, (hgrown.file?_old (hopen.number_lt descriptor hmem)).trans hfile⟩

/-- A search that is repeated while the descriptors of the handle are open finds the same, whatever
became of the planes that were found before. -/
theorem findPlanes_again (hopen : handle.IsOpen world.platform) {later : World}
    (hlater : (handle.findPlanes geometry size world).2.platform.Precedes later.platform)
    (hopen' : handle.IsOpen later.platform) :
    SameFound (handle.findPlanes geometry size world).2.platform
      (handle.findPlanes geometry size later).2.platform
      (handle.findPlanes geometry size world).1 (handle.findPlanes geometry size later).1 := by
  have hfinds := (@findPlanes_finds handle geometry size world hopen.number_lt).2
  have hagain := (@findPlanes_finds handle geometry size later hopen'.number_lt).2
  obtain ⟨opened, rewound, held, hgrown⟩ := hfinds.exists_grown
  have hlasts : world.platform.Precedes later.platform := hgrown.precedes.trans hlater
  refine hfinds.same_of_files hagain (sites_congr fun descriptor hmem => ?_)
    fun descriptor hmem => ?_
  · obtain ⟨file, hfile⟩ := hopen descriptor hmem
    obtain ⟨file', hfile'⟩ := hopen' descriptor hmem
    have hstill := Platform.isSome_openFile?_of_file? hfile'
    obtain ⟨number, hnumber⟩ :=
      Option.isSome_iff_exists.mp (Platform.isSome_openFile?_of_file? hfile)
    refine (Platform.backing_congr ?_ ?_).symm
    · rw [hnumber, hlasts.openFile?_eq hnumber hstill]
    · rw [hfile, hlasts.file?_eq hfile hstill]
  · obtain ⟨file, hfile⟩ := hopen descriptor hmem
    obtain ⟨file', hfile'⟩ := hopen' descriptor hmem
    obtain ⟨number, hnumber, -⟩ := Platform.file?_eq_some hfile
    rw [hnumber, hlasts.fileNumber?_eq hnumber (Platform.isSome_openFile?_of_file? hfile')]

/-- A search disturbs only the positions that it measures. The lengths of files and the descriptors
from before stay as they are, and exactly the open files of the measured descriptors are rewound,
whatever the search comes to. It comes to the same wherever the files stood, and to the same again
for as long as the descriptors of the handle are open, as they still are behind it. -/
theorem findPlanes_footprint (hmem : geometry ∈ FormatGeometry.table)
    (hopen : handle.IsOpen world.platform) (size : Size) :
    let run := handle.findPlanes geometry size world
    world.platform.RewoundThrough run.2.platform (handle.Measures world.platform geometry) ∧
      handle.IsOpen run.2.platform ∧
      (∀ world' : World, world.platform.SameButPositions world'.platform →
        run.1 = (handle.findPlanes geometry size world').1 ∧
          run.2.platform.SameButPositions (handle.findPlanes geometry size world').2.platform) ∧
      ∀ later : World, run.2.platform.Precedes later.platform → handle.IsOpen later.platform →
        SameFound run.2.platform (handle.findPlanes geometry size later).2.platform run.1
          (handle.findPlanes geometry size later).1 := by
  intro run
  refine ⟨findPlanes_rewoundThrough hmem hopen size, findPlanes_isOpen hopen, ?_, ?_⟩
  · intro world' hworld
    exact handle.findPlanes_alike_self geometry size world world' hworld
  · intro later hlater hopen'
    exact findPlanes_again hopen hlater hopen'

/-- A file at position seven with two descriptors, a pipe, and another file at position nine; the
planes of the block are behind the first three. The search fails for the pipe, by then the first
file is rewound, and the other one is not reached. It fails in the same way again. -/
theorem findPlanes_footprint_pipe :
    let opened := ({} : Platform).accept ⟨[.memory 16 7, .duplicate 0, .pipe, .memory 16 9],
      VendorBlock.encode ⟨9, 4, 4, .yu12, [⟨4, 0, 16⟩, ⟨2, 0, 4⟩, ⟨2, 0, 4⟩]⟩⟩
    let world : World := { platform := opened.2 }
    ∃ geometry ∈ FormatGeometry.table, opened.1.IsOpen world.platform ∧
      let run := opened.1.findPlanes geometry ⟨4, 4⟩ world
      run.1 = .error (.io (.system Errno.illegalSeek)) ∧
        run.2.platform.openFiles[0]? = some ⟨0, 0⟩ ∧
        run.2.platform.openFiles[2]? = some ⟨2, 9⟩ ∧
        SameFound run.2.platform (opened.1.findPlanes geometry ⟨4, 4⟩ run.2).2.platform run.1
          (opened.1.findPlanes geometry ⟨4, 4⟩ run.2).1 := by
  intro opened world
  have hmem : (⟨"YUV420", .yu12, 2, [⟨2, 1⟩, ⟨1, 2⟩, ⟨1, 2⟩]⟩ : FormatGeometry) ∈
      FormatGeometry.table := by decide
  have hopen : opened.1.IsOpen world.platform := Platform.accept_isOpen _ _
  have hblock : opened.1.HasBlock := by decide
  have hfirst : opened.1.Measures world.platform
      ⟨"YUV420", .yu12, 2, [⟨2, 1⟩, ⟨1, 2⟩, ⟨1, 2⟩]⟩ ⟨0⟩ :=
    .reported hblock (by decide) (show 0 < 3 by decide)
      (fun _ hlt => absurd hlt (Nat.not_lt_zero _)) (by decide) ⟨16, by decide⟩
  have hsources : ∀ index < 3, (opened.1.descriptors[opened.1.sourceIndex index]?).bind
      world.platform.openFile? ≠ some 2 := by decide
  obtain ⟨hrewound, hopen', -, hagain⟩ := findPlanes_footprint hmem hopen ⟨4, 4⟩
  refine ⟨_, hmem, hopen, by decide +kernel, ?_, ?_, hagain _ (.refl _) hopen'⟩
  · obtain ⟨file, hfile, hzero⟩ := hrewound.rewound ⟨0⟩ 0 hfirst (by decide)
    cases (show world.platform.openFiles[0]? = some ⟨0, 7⟩ by decide).symm.trans hfile
    exact hzero
  · rw [hrewound.others 2 fun descriptor hmeasured => ?_]
    · decide
    · cases hmeasured with
      | first unreported => exact absurd hblock unreported
      | @reported index _ _ index_lt _ source _ =>
          have hother := hsources index index_lt
          rwa [source, Option.bind_some] at hother

end Handle

end PixelBuffer
