import Mathlib.Data.List.Nodup
import PixelBuffer.Proofs.Plane.Sites

/-!
# What a search for planes does

A search keeps one share of each duplicate that it made, one share for each plane that it placed,
and measures no descriptor twice. `Search.Valid` states this as an invariant that each step keeps:
`Search.measure_valid` for a descriptor, `Search.place_ok` and `Search.place_error` for a plane.
`Search.Places` says what a run over planes comes to; it follows by induction on the planes, in
`Search.reportedPlanes_places` and `Search.consecutivePlanes_places`.

`Handle.findPlanes_finds` draws the sum: a search decides as `Handle.sites` does, its planes lead to
the files of their sites and share a duplicate exactly when their sites share a descriptor, and
nothing else is left of it; a search that fails leaves every duplicate closed.
-/

namespace PixelBuffer

namespace World

/-- Only events for debugging were logged since. -/
def Quiet (before now : World) : Prop :=
  ∃ events : List Event, now.log = before.log ++ events.toArray ∧
    ∀ event ∈ events, event.level = .debug

/-- Nothing was logged yet. -/
theorem Quiet.refl (world : World) : world.Quiet world :=
  ⟨[], by simp, by simp⟩

/-- One more event for debugging. -/
theorem Quiet.push {before now : World} (h : before.Quiet now) {event : Event}
    (hlevel : event.level = .debug) : before.Quiet { now with log := now.log.push event } := by
  obtain ⟨events, hlog, hlevels⟩ := h
  refine ⟨events ++ [event], by simp [hlog], ?_⟩
  intro other hother
  rcases List.mem_append.mp hother with hm | hm
  · exact hlevels other hm
  · rwa [List.mem_singleton.mp hm]

end World

namespace Search

/-! ## The invariant -/

/-- One share for each duplicate that a search keeps and each plane that it placed. -/
def owners (search : Search) : List Share :=
  search.measured.map Measured.share ++ search.planes.map Plane.share

/-- The open files that a search measured. -/
def rewound (search : Search) (before : Platform) : List Nat :=
  search.measured.filterMap fun known => before.openFile? known.descriptor

/-- A measured descriptor has a duplicate of its own and the length that was behind it. -/
def Knows (before : Platform) (opened : List Nat) (known : Measured) : Prop :=
  ∃ index number, known.share = ⟨before.holdings.size + index⟩ ∧ opened[index]? = some number ∧
    before.openFile? known.descriptor = some number ∧
    before.backing known.descriptor = .ok known.bytes

/-- The state of a search since `start`: the platform grew by its duplicates, whose owners are the
search, its planes and `extra`. -/
structure Valid (start now : World) (opened : List Nat) (extra : List Share) (search : Search) :
    Prop where
  grown : start.platform.Grown now.platform opened (search.rewound start.platform)
    (search.owners ++ extra)
  quiet : start.Quiet now
  knows : ∀ known ∈ search.measured, Knows start.platform opened known
  descriptors_nodup : (search.measured.map Measured.descriptor).Nodup
  shares_nodup : (search.measured.map Measured.share).Nodup
  placed : ∀ plane ∈ search.planes, ∃ known ∈ search.measured, plane.share = known.share

variable {start now : World} {opened : List Nat} {extra : List Share} {search : Search}

/-- A search that has not begun. -/
theorem valid_empty (start : World) : Valid start start [] [] {} where
  grown := Platform.Grown.refl start.platform
  quiet := World.Quiet.refl start
  knows _ h := absurd h List.not_mem_nil
  descriptors_nodup := List.nodup_nil
  shares_nodup := List.nodup_nil
  placed _ h := absurd h List.not_mem_nil

/-- Logging an event for debugging changes nothing else. -/
theorem Valid.log (h : Valid start now opened extra search) {event : Event}
    (hlevel : event.level = .debug) :
    Valid start { now with log := now.log.push event } opened extra search :=
  { h with quiet := h.quiet.push hlevel }

/-- An entry stays true when more descriptors are duplicated. -/
theorem Knows.append {before : Platform} {known : Measured} (h : Knows before opened known)
    (more : List Nat) : Knows before (opened ++ more) known := by
  obtain ⟨index, number, hshare, hnumber, hopened, hbytes⟩ := h
  have hindex : index < opened.length := (List.getElem?_eq_some_iff.mp hnumber).1
  exact ⟨index, number, hshare, by rwa [List.getElem?_append_left hindex], hopened, hbytes⟩

/-! ## Steps -/

/-- A descriptor that was measured before is not duplicated again. -/
theorem measure_known {descriptor : Descriptor} {known : Measured}
    (h : Valid start now opened extra search)
    (hfind : search.measured.find? (·.descriptor = descriptor) = some known) :
    search.measure descriptor now =
        ((.ok known, search), { now with platform := now.platform.retain known.share }) ∧
      Valid start { now with platform := now.platform.retain known.share } opened
        (known.share :: extra) search := by
  have hmem : known ∈ search.measured := List.mem_of_find?_eq_some hfind
  have hheld : known.share ∈ search.owners ++ extra :=
    List.mem_append_left _ (List.mem_append_left _ (List.mem_map_of_mem hmem))
  refine ⟨by simp [measure, hfind], ?_⟩
  refine { h with grown := ?_ }
  exact (h.grown.retain hheld).perm List.perm_middle.symm

/-- The first use of a descriptor duplicates and measures it, and closes the duplicate again when
there is nothing to measure. -/
theorem measure_new {descriptor : Descriptor} {number : Nat}
    (h : Valid start now opened extra search)
    (hfind : search.measured.find? (·.descriptor = descriptor) = none)
    (hold : descriptor.number < start.platform.descriptors.size)
    (hopened : start.platform.openFile? descriptor = some number) :
    match start.platform.backing descriptor with
    | .error fault => ∃ later,
        search.measure descriptor now = ((.error (.io fault), search), later) ∧
          Valid start later (opened ++ [number]) extra search
    | .ok bytes => ∃ known later,
        search.measure descriptor now =
            ((.ok known, { search with measured := known :: search.measured }), later) ∧
          known.descriptor = descriptor ∧ known.bytes = bytes ∧
          Valid start later (opened ++ [number]) (known.share :: extra)
            { search with measured := known :: search.measured } := by
  have hnow : now.platform.openFile? descriptor = some number :=
    (h.grown.openFile?_old hold).trans hopened
  obtain ⟨hshare, hgrown⟩ := h.grown.share_duplicate hnow
  have hlast : (opened ++ [number])[opened.length]? = some number := by simp
  have hduplicate := hgrown.backing_duplicate hlast List.mem_cons_self hopened
  have hdescriptor := hgrown.descriptorOf?_held (List.getElem?_eq_some_iff.mp hlast).1
  have hmeasure : (now.platform.shareDuplicate descriptor).2.measureShare
      ⟨start.platform.holdings.size + opened.length⟩ =
      (start.platform.backing descriptor,
        match start.platform.backing descriptor with
        | .ok _ => (now.platform.shareDuplicate descriptor).2.setPosition number 0
        | .error _ => (now.platform.shareDuplicate descriptor).2) := by
    simp only [Platform.measureShare, hdescriptor, Platform.measure_eq, hduplicate,
      hgrown.openFile?_held hlast List.mem_cons_self]
    cases start.platform.backing descriptor <;> rfl
  -- a duplicate that cannot be measured loses its only owner, and is closed
  cases hbacking : start.platform.backing descriptor with
  | error fault =>
      refine ⟨_, by simp [measure, hfind, hshare, hmeasure, hbacking]; rfl, ?_⟩
      have hreleased := hgrown.release List.mem_cons_self
      rw [List.erase_cons_head] at hreleased
      exact
        { grown := hreleased
          quiet := h.quiet
          knows := fun known hknown => (h.knows known hknown).append [number]
          descriptors_nodup := h.descriptors_nodup
          shares_nodup := h.shares_nodup
          placed := h.placed }
  | ok bytes =>
      refine ⟨⟨descriptor, ⟨start.platform.holdings.size + opened.length⟩, bytes⟩, _,
        by simp [measure, hfind, hshare, hmeasure, hbacking]; rfl, rfl, rfl, ?_⟩
      constructor
      case grown =>
        have hretained := (hgrown.rewind number).retain List.mem_cons_self
        rw [show Search.rewound _ start.platform = number :: search.rewound start.platform by
          simp [rewound, hopened]]
        exact hretained.perm (List.Perm.cons _ List.perm_middle.symm)
      case quiet => exact h.quiet.push rfl
      case knows =>
        intro known hknown
        rcases List.mem_cons.mp hknown with rfl | hm
        · exact ⟨opened.length, number, rfl, hlast, hopened, hbacking⟩
        · exact (h.knows known hm).append [number]
      case descriptors_nodup =>
        refine List.nodup_cons.mpr ⟨fun hm => ?_, h.descriptors_nodup⟩
        obtain ⟨other, hother, heq⟩ := List.mem_map.mp hm
        exact absurd heq (by simpa using List.find?_eq_none.mp hfind other hother)
      case shares_nodup =>
        refine List.nodup_cons.mpr ⟨fun hm => ?_, h.shares_nodup⟩
        -- the new duplicate has a holding behind all earlier ones
        obtain ⟨other, hother, heq⟩ := List.mem_map.mp hm
        obtain ⟨index, _, hshared, hindex, _⟩ := h.knows other hother
        have hlt : index < opened.length := (List.getElem?_eq_some_iff.mp hindex).1
        simp only [hshared, Share.mk.injEq] at heq
        omega
      case placed =>
        intro plane hplane
        obtain ⟨known, hknown, heq⟩ := h.placed plane hplane
        exact ⟨known, List.mem_cons_of_mem _ hknown, heq⟩

/-- Measuring a descriptor answers as measuring it from the start would, and hands out a share of
its duplicate. Nothing but the descriptor is measured. -/
theorem measure_valid {descriptor : Descriptor} (h : Valid start now opened extra search)
    (hold : descriptor.number < start.platform.descriptors.size) :
    match start.platform.backing descriptor with
    | .error fault => ∃ later opened',
        search.measure descriptor now = ((.error (.io fault), search), later) ∧
          Valid start later opened' extra search
    | .ok bytes => ∃ file found later opened',
        search.measure descriptor now = ((.ok file, found), later) ∧
          Valid start later opened' (file.share :: extra) found ∧
          (search.measured ⊆ found.measured ∧ found.planes = search.planes) ∧
          file ∈ found.measured ∧ file.descriptor = descriptor ∧ file.bytes = bytes ∧
          ∀ known ∈ found.measured, known = file ∨ known ∈ search.measured := by
  cases hfind : search.measured.find? (·.descriptor = descriptor) with
  | some known =>
      have hmem : known ∈ search.measured := List.mem_of_find?_eq_some hfind
      have heq : known.descriptor = descriptor := by simpa using List.find?_some hfind
      obtain ⟨_, _, _, _, _, hbytes⟩ := h.knows known hmem
      rw [← heq, hbytes, heq]
      obtain ⟨hmeasure, hvalid⟩ := measure_known h hfind
      exact ⟨known, search, _, opened, hmeasure, hvalid, ⟨List.Subset.refl _, rfl⟩, hmem, heq, rfl,
        fun _ hold => .inr hold⟩
  | none =>
      cases hopened : start.platform.openFile? descriptor with
      | none =>
          have hnow := (h.grown.openFile?_old hold).trans hopened
          have hbacking : start.platform.backing descriptor =
              .error (.system Errno.badDescriptor) := by
            simp [Platform.backing, Platform.measure, hopened]
          rw [hbacking]
          exact ⟨now, opened,
            by simp [measure, hfind, Platform.shareDuplicate, Platform.duplicate, hnow], h⟩
      | some number =>
          have hnew := measure_new h hfind hold hopened
          cases hbacking : start.platform.backing descriptor with
          | error fault =>
              rw [hbacking] at hnew
              obtain ⟨later, hmeasure, hvalid⟩ := hnew
              exact ⟨later, _, hmeasure, hvalid⟩
          | ok bytes =>
              rw [hbacking] at hnew
              obtain ⟨known, later, hmeasure, hdescriptor, hbytes, hvalid⟩ := hnew
              exact ⟨known, _, later, _, hmeasure, hvalid,
                ⟨List.subset_cons_self _ _, rfl⟩, List.mem_cons_self, hdescriptor, hbytes,
                fun _ hmem => List.mem_cons.mp hmem⟩

/-- A plane within its file is placed with the share that was handed out for it. -/
theorem place_ok {index : Nat} {file : Measured} {offset length : UInt64}
    (h : Valid start now opened (file.share :: extra) search) (hfile : file ∈ search.measured)
    (hbounds : checkBounds index offset length file.bytes = .ok ()) :
    search.place index file offset length now =
        ((.ok (), { search with planes := search.planes ++ [⟨file.share, offset, length⟩] }), now) ∧
      Valid start now opened extra
        { search with planes := search.planes ++ [⟨file.share, offset, length⟩] } := by
  refine ⟨by simp [place, hbounds], ?_⟩
  constructor
  case grown =>
    refine h.grown.perm ?_
    simp [owners, List.append_assoc]
  case quiet => exact h.quiet
  case knows => exact h.knows
  case descriptors_nodup => exact h.descriptors_nodup
  case shares_nodup => exact h.shares_nodup
  case placed =>
    intro plane hplane
    rcases List.mem_append.mp hplane with hm | hm
    · exact h.placed plane hm
    · exact ⟨file, hfile, by rw [List.mem_singleton.mp hm]⟩

/-- A plane that ends behind its file is not placed, and its share is let go. -/
theorem place_error {index : Nat} {file : Measured} {offset length : UInt64} {failure : Failure}
    (h : Valid start now opened (file.share :: extra) search)
    (hbounds : checkBounds index offset length file.bytes = .error failure) :
    search.place index file offset length now =
        ((.error failure, search), { now with platform := now.platform.release file.share }) ∧
      Valid start { now with platform := now.platform.release file.share } opened extra search := by
  refine ⟨by simp [place, hbounds], ?_⟩
  have hgrown := (h.grown.perm List.perm_middle).release List.mem_cons_self
  rw [List.erase_cons_head] at hgrown
  exact { h with grown := hgrown }

/-! ## Runs over the planes -/

/-- A plane stands for a site: it has its extent and the share of its descriptor's duplicate. -/
def Placed (search : Search) (site : Site) (plane : Plane) : Prop :=
  plane.offset = site.offset ∧ plane.length = site.length ∧
    ∃ known ∈ search.measured, known.descriptor = site.descriptor ∧ plane.share = known.share

/-- What a run over planes comes to: it answers as `sites` was decided, keeps the invariant, forgets
nothing that was measured, and has placed a plane for each site. -/
structure Places (start : World) (extra : List Share) (before : Search)
    (sites : Except Failure (List Site)) (run : (Except Failure Unit × Search) × World) : Prop where
  answer : run.1.1 = sites.map fun _ => ()
  valid : ∃ opened, Valid start run.2 opened extra run.1.2
  measured : before.measured ⊆ run.1.2.measured
  planes : ∀ decided, sites = .ok decided → ∃ planes, run.1.2.planes = before.planes ++ planes ∧
    List.Forall₂ (Placed run.1.2) decided planes

/-- A run that fails in a valid state. -/
theorem Places.error {failure : Failure} {found : Search} (h : Valid start now opened extra found)
    (hmeasured : search.measured ⊆ found.measured) :
    Places start extra search (.error failure) ((.error failure, found), now) where
  answer := rfl
  valid := ⟨opened, h⟩
  measured := hmeasured
  planes _ h := by cases h

/-- A run over no planes. -/
theorem Places.nil (h : Valid start now opened extra search) :
    Places start extra search (.ok []) ((.ok (), search), now) where
  answer := rfl
  valid := ⟨opened, h⟩
  measured := List.Subset.refl _
  planes decided h := by
    cases h
    exact ⟨[], (List.append_nil _).symm, .nil⟩

/-- A run after one plane was placed. -/
theorem Places.cons {found : Search} {site : Site} {plane : Plane}
    {rest : Except Failure (List Site)} {run : (Except Failure Unit × Search) × World}
    (h : Places start extra { found with planes := found.planes ++ [plane] } rest run)
    (hkept : search.measured ⊆ found.measured ∧ found.planes = search.planes)
    (hplaced : Placed found site plane) :
    Places start extra search (rest.map (site :: ·)) run where
  answer := by
    rw [h.answer]
    cases rest <;> rfl
  valid := h.valid
  measured := List.Subset.trans hkept.1 h.measured
  planes := by
    intro decided hdecided
    obtain ⟨sites, hsites, rfl⟩ := except_map_eq_ok_iff.mp hdecided
    obtain ⟨planes, hplanes, hall⟩ := h.planes sites hsites
    obtain ⟨hoffset, hlength, known, hknown, hdescriptor, hshare⟩ := hplaced
    refine ⟨plane :: planes, by simp [hplanes, hkept.2], .cons ?_ hall⟩
    exact ⟨hoffset, hlength, known, h.measured hknown, hdescriptor, hshare⟩

/-- A descriptor of a plane is one of the handle's. -/
theorem mem_of_planeDescriptor? {handle : Handle} {report : VendorReport} {index : Nat}
    {descriptor : Descriptor} (h : handle.planeDescriptor? report index = some descriptor) :
    descriptor ∈ handle.descriptors := by
  unfold Handle.planeDescriptor? at h
  split at h
  · split at h
    · rename_i only honly
      simpa [honly, eq_comm] using h
    · exact List.mem_of_getElem? h
  · cases h

/-- The planes of a block are placed as its sites are decided. -/
theorem reportedPlanes_places {handle : Handle} {report : VendorReport}
    {expected remaining index : Nat} (h : Valid start now opened [] search)
    (hold : ∀ descriptor ∈ handle.descriptors,
      descriptor.number < start.platform.descriptors.size) :
    Places start [] search
      (handle.reportedSites start.platform.backing report expected remaining index)
      (reportedPlanes handle report expected remaining index search now) := by
  induction remaining generalizing index search now opened with
  | zero => exact .nil h
  | succ remaining ih =>
      rw [reportedPlanes, Handle.reportedSites]
      cases hrecord : report.plane? index with
      | none => exact .error h (List.Subset.refl _)
      | some record =>
          have hlogged := @Valid.log start now opened [] search h
            (.reportedPlane index record.size record.offset record.stride) rfl
          cases hdescriptor : handle.planeDescriptor? report index with
          | none => exact .error hlogged (List.Subset.refl _)
          | some descriptor =>
              have hmeasure := measure_valid hlogged (hold _ (mem_of_planeDescriptor? hdescriptor))
              simp only [bind_apply, Act.log_apply, Site.locate]
              cases hbacking : start.platform.backing descriptor with
              | error fault =>
                  rw [hbacking] at hmeasure
                  obtain ⟨later, opened', heq, hvalid⟩ := hmeasure
                  rw [heq]
                  exact .error hvalid (List.Subset.refl _)
              | ok bytes =>
                  rw [hbacking] at hmeasure
                  obtain ⟨file, found, later, opened', heq, hvalid, hkept, hfile, rfl, rfl, -⟩ :=
                    hmeasure
                  rw [heq]
                  cases hbounds : checkBounds index record.offset.toUInt64 record.size.toUInt64
                      file.bytes with
                  | error failure =>
                      obtain ⟨hplace, hreleased⟩ := place_error hvalid hbounds
                      simp only [bind_apply, hbounds, hplace]
                      exact .error hreleased hkept.1
                  | ok _ =>
                      obtain ⟨hplace, hadded⟩ := place_ok hvalid hfile hbounds
                      simp only [bind_apply, hbounds, hplace]
                      exact (ih hadded).cons hkept ⟨rfl, rfl, file, hfile, rfl, rfl⟩

/-- Planes one after another are placed as their sites are decided. -/
theorem consecutivePlanes_places {geometry : FormatGeometry} {size : Size} {file : Measured}
    {planes : List PlaneGeometry} {index : Nat} {offset : UInt64}
    (h : Valid start now opened [file.share] search) (hfile : file ∈ search.measured) :
    Places start [file.share] search
      (Handle.consecutiveSites geometry size file.descriptor file.bytes planes index offset)
      (consecutivePlanes geometry size file planes index offset search now) := by
  induction planes generalizing index offset search now opened with
  | nil => exact .nil h
  | cons plane planes ih =>
      rw [consecutivePlanes, Handle.consecutiveSites]
      cases plane.tightBytes? geometry.pixelsPerGroup size with
      | none => exact .error h (List.Subset.refl _)
      | some length =>
          -- the run itself owns one share of the file until all planes are placed
          have hheld : file.share ∈ search.owners ++ [file.share] :=
            List.mem_append_right _ List.mem_cons_self
          have hretained : Valid start
              { now with platform := now.platform.retain file.share } opened
              (file.share :: [file.share]) search :=
            { h with grown := (h.grown.retain hheld).perm List.perm_middle.symm }
          simp only [bind_apply, Act.changePlatform_apply]
          cases hbounds : checkBounds index offset length file.bytes with
          | error failure =>
              obtain ⟨hplace, hreleased⟩ := place_error hretained hbounds
              simp only [hplace]
              exact .error hreleased (List.Subset.refl _)
          | ok _ =>
              obtain ⟨hplace, hadded⟩ := place_ok hretained hfile hbounds
              simp only [hplace]
              cases word64? (offset.toNat + length.toNat) with
              | none => exact .error hadded (List.Subset.refl _)
              | some next =>
                  exact (ih hadded hfile).cons ⟨List.Subset.refl _, rfl⟩
                    ⟨rfl, rfl, file, hfile, rfl, rfl⟩

end Search

/-! ## The end of a search -/

namespace Handle

/-- What a search for planes comes to: the platform before it, the answer, and the platform after
it. -/
inductive Finds (handle : Handle) (geometry : FormatGeometry) (size : Size) (before : Platform) :
    Except Failure (List Plane) → Platform → Prop
  /-- No planes are decided, and every duplicate is closed again. -/
  | failed {failure : Failure} {after : Platform} {opened rewound : List Nat}
      (decided : handle.sites before.backing geometry size = .error failure)
      (grown : before.Grown after opened rewound []) :
      Finds handle geometry size before (.error failure) after
  /-- Each decided site is a plane, whose share leads to the open file of the site's descriptor. -/
  | found {sites : List Site} {shareOf : Descriptor → Share} {after : Platform}
      {opened rewound : List Nat}
      (decided : handle.sites before.backing geometry size = .ok sites)
      (grown : before.Grown after opened rewound
        (sites.map fun site => shareOf site.descriptor))
      (leads : ∀ site ∈ sites, ∃ number, before.openFile? site.descriptor = some number ∧
        after.shareOpenFile? (shareOf site.descriptor) = some number)
      (apart : ∀ site ∈ sites, ∀ other ∈ sites,
        shareOf site.descriptor = shareOf other.descriptor → site.descriptor = other.descriptor) :
      Finds handle geometry size before (.ok (sites.map (Site.toPlane shareOf))) after

/-- A search fails as was decided. -/
theorem Finds.eq_error {handle : Handle} {geometry : FormatGeometry} {size : Size}
    {before after : Platform} {result : Except Failure (List Plane)} {failure : Failure}
    (h : handle.Finds geometry size before result after)
    (hsites : handle.sites before.backing geometry size = .error failure) :
    result = .error failure := by
  cases h with
  | failed decided => cases decided.symm.trans hsites; rfl
  | found decided => cases decided.symm.trans hsites

/-- A search fails exactly as was decided. -/
theorem Finds.eq_error_iff {handle : Handle} {geometry : FormatGeometry} {size : Size}
    {before after : Platform} {result : Except Failure (List Plane)} {failure : Failure}
    (h : handle.Finds geometry size before result after) :
    result = .error failure ↔
      handle.sites before.backing geometry size = .error failure := by
  constructor
  · rintro rfl
    cases h with
    | failed decided => exact decided
  · exact h.eq_error

/-- A search finds planes where sites were decided. -/
theorem Finds.eq_ok {handle : Handle} {geometry : FormatGeometry} {size : Size}
    {before after : Platform} {result : Except Failure (List Plane)} {sites : List Site}
    (h : handle.Finds geometry size before result after)
    (hsites : handle.sites before.backing geometry size = .ok sites) :
    ∃ planes, result = .ok planes := by
  cases h with
  | failed decided => cases decided.symm.trans hsites
  | found => exact ⟨_, rfl⟩

/-- A search grows the platform by its duplicates, whatever it comes to. -/
theorem Finds.exists_grown {handle : Handle} {geometry : FormatGeometry} {size : Size}
    {before after : Platform} {result : Except Failure (List Plane)}
    (h : handle.Finds geometry size before result after) :
    ∃ opened rewound held, before.Grown after opened rewound held := by
  cases h with
  | failed _ grown => exact ⟨_, _, _, grown⟩
  | found _ grown => exact ⟨_, _, _, grown⟩

/-- A search closes descriptors but takes no number back. -/
theorem Finds.descriptors_size_le {handle : Handle} {geometry : FormatGeometry} {size : Size}
    {before after : Platform} {result : Except Failure (List Plane)}
    (h : handle.Finds geometry size before result after) :
    before.descriptors.size ≤ after.descriptors.size := by
  obtain ⟨opened, rewound, held, hgrown⟩ := h.exists_grown
  exact hgrown.descriptors_size ▸ Nat.le_add_right _ _

end Handle

namespace Search

variable {start now : World} {opened : List Nat} {extra : List Share} {search : Search}

/-- The share of the duplicate of a descriptor. -/
def shareOf (search : Search) (descriptor : Descriptor) : Share :=
  ((search.measured.find? (·.descriptor = descriptor)).map Measured.share).getD ⟨0⟩

/-- The share of a measured descriptor is that of its entry. -/
theorem Valid.shareOf_eq (h : Valid start now opened extra search) {known : Measured}
    (hknown : known ∈ search.measured) : search.shareOf known.descriptor = known.share := by
  unfold shareOf
  cases hfind : search.measured.find? (·.descriptor = known.descriptor) with
  | none =>
      simpa using List.find?_eq_none.mp hfind known hknown
  | some other =>
      have heq : other.descriptor = known.descriptor := by simpa using List.find?_some hfind
      rw [List.inj_on_of_nodup_map h.descriptors_nodup (List.mem_of_find?_eq_some hfind) hknown heq]
      rfl

/-- Planes placed for sites are their sites in the shares of the duplicates. -/
theorem Valid.planes_eq (h : Valid start now opened extra search) {sites : List Site}
    {planes : List Plane} (hplaced : List.Forall₂ (Placed search) sites planes) :
    planes = sites.map (Site.toPlane search.shareOf) := by
  induction hplaced with
  | nil => rfl
  | @cons site plane _ _ hplane _ ih =>
      obtain ⟨hoffset, hlength, known, hknown, hdescriptor, hshare⟩ := hplane
      rw [List.map_cons, ← ih, Site.toPlane, ← hdescriptor, h.shareOf_eq hknown, ← hshare,
        ← hoffset, ← hlength]

/-- Every site that a plane was placed for is behind a measured descriptor. -/
theorem known_of_placed {sites : List Site} {planes : List Plane} {site : Site}
    (hplaced : List.Forall₂ (Placed search) sites planes) (hsite : site ∈ sites) :
    ∃ known ∈ search.measured, known.descriptor = site.descriptor := by
  induction hplaced with
  | nil => cases hsite
  | cons hplane _ ih =>
      rcases List.mem_cons.mp hsite with rfl | hrest
      · obtain ⟨_, _, known, hknown, hdescriptor, _⟩ := hplane
        exact ⟨known, hknown, hdescriptor⟩
      · exact ih hrest

/-- The share of a measured descriptor leads to the open file of the descriptor while it is held. -/
theorem Valid.shareOpenFile?_eq (h : Valid start now opened extra search) {known : Measured}
    {after : Platform} {rewound : List Nat} {held : List Share}
    (hgrown : start.platform.Grown after opened rewound held) (hknown : known ∈ search.measured)
    (hheld : known.share ∈ held) :
    ∃ number, start.platform.openFile? known.descriptor = some number ∧
      after.shareOpenFile? known.share = some number := by
  obtain ⟨index, number, hshare, hnumber, hopened, _⟩ := h.knows known hknown
  rw [hshare] at hheld ⊢
  exact ⟨number, hopened, hgrown.shareOpenFile?_held hnumber hheld⟩

/-- A search that failed closes every duplicate. -/
theorem finish_error {failure : Failure} (h : Valid start now opened [] search) :
    ∃ platform, finish (.error failure, search) now =
        (.error failure, { now with platform := platform }) ∧
      start.platform.Grown platform opened (search.rewound start.platform) [] := by
  refine ⟨_, rfl, ?_⟩
  have hgrown : start.platform.Grown now.platform opened (search.rewound start.platform)
      (search.planes.map Plane.share ++ (search.measured.map Measured.share ++ [])) :=
    h.grown.perm (by simpa [owners] using List.perm_append_comm)
  have hreleased := (hgrown.release_all _).release_all _
  rwa [List.foldl_map, List.foldl_map] at hreleased

/-- A search that succeeded keeps one share for each plane. -/
theorem finish_ok (h : Valid start now opened [] search) :
    ∃ platform, finish (.ok (), search) now =
        (.ok search.planes, { now with platform := platform }) ∧
      start.platform.Grown platform opened (search.rewound start.platform)
        (search.planes.map Plane.share) := by
  refine ⟨_, rfl, ?_⟩
  have hgrown := h.grown
  rw [List.append_nil, owners] at hgrown
  have hreleased := hgrown.release_all _
  rwa [List.foldl_map] at hreleased

/-- Letting go of one more share after a run. -/
theorem Places.release {share : Share} {before : Search} {sites : Except Failure (List Site)}
    {run : (Except Failure Unit × Search) × World}
    (h : Places start (share :: extra) before sites run) :
    Places start extra before sites
      (run.1, { run.2 with platform := run.2.platform.release share }) where
  answer := h.answer
  valid := by
    obtain ⟨opened, hvalid⟩ := h.valid
    have hgrown := (hvalid.grown.perm List.perm_middle).release List.mem_cons_self
    rw [List.erase_cons_head] at hgrown
    exact ⟨opened, { hvalid with grown := hgrown }⟩
  measured := h.measured
  planes := h.planes

/-- A finished run over the planes of a handle comes to what was decided about them. -/
theorem Places.finish {handle : Handle} {geometry : FormatGeometry} {size : Size}
    {before : Search} {run : (Except Failure Unit × Search) × World}
    (h : Places start [] before (handle.sites start.platform.backing geometry size) run)
    (hempty : before.planes = []) :
    start.Quiet (finish run.1 run.2).2 ∧ handle.Finds geometry size start.platform
      (finish run.1 run.2).1 (finish run.1 run.2).2.platform := by
  obtain ⟨⟨answer, search⟩, now⟩ := run
  obtain ⟨opened, hvalid⟩ := h.valid
  have hanswer : answer = (handle.sites start.platform.backing geometry size).map fun _ => () :=
    h.answer
  cases hsites : handle.sites start.platform.backing geometry size with
  | error failure =>
      rw [hsites] at hanswer
      subst hanswer
      obtain ⟨platform, hfinish, hgrown⟩ := finish_error hvalid
      rw [show Search.finish (Except.map _ (.error failure), search) now = _ from hfinish]
      exact ⟨hvalid.quiet, .failed hsites hgrown⟩
  | ok sites =>
      rw [hsites] at hanswer
      subst hanswer
      obtain ⟨platform, hfinish, hgrown⟩ := finish_ok hvalid
      rw [show Search.finish (Except.map _ (.ok sites), search) now = _ from hfinish]
      obtain ⟨planes, hplanes, hplaced⟩ := h.planes sites hsites
      -- the search began without planes, so that all that it has were placed for the sites
      rw [hempty, List.nil_append] at hplanes
      dsimp only at hplanes hplaced
      have heq := hvalid.planes_eq hplaced
      rw [hplanes, heq] at hgrown ⊢
      rw [Site.map_share_toPlane] at hgrown
      refine ⟨hvalid.quiet, .found hsites hgrown ?_ ?_⟩
      · intro site hsite
        obtain ⟨known, hknown, hdescriptor⟩ := known_of_placed hplaced hsite
        have hheld := List.mem_map_of_mem (f := fun site => search.shareOf site.descriptor) hsite
        rw [← hdescriptor, hvalid.shareOf_eq hknown] at hheld ⊢
        exact hvalid.shareOpenFile?_eq hgrown hknown hheld
      · intro site hsite other hother hsame
        obtain ⟨known, hknown, hdescriptor⟩ := known_of_placed hplaced hsite
        obtain ⟨known', hknown', hdescriptor'⟩ := known_of_placed hplaced hother
        rw [← hdescriptor, ← hdescriptor', hvalid.shareOf_eq hknown,
          hvalid.shareOf_eq hknown'] at hsame
        rw [← hdescriptor, ← hdescriptor',
          List.inj_on_of_nodup_map hvalid.shares_nodup hknown hknown' hsame]

end Search

namespace Handle

variable {handle : Handle} {geometry : FormatGeometry} {size : Size} {start : World}

/-- A vendor block is searched as its sites are decided. -/
theorem findReported_finds {report : VendorReport} (hvendor : handle.vendor? = some report)
    (hold : ∀ descriptor ∈ handle.descriptors,
      descriptor.number < start.platform.descriptors.size) :
    start.Quiet (handle.findReported report geometry start).2 ∧
      handle.Finds geometry size start.platform (handle.findReported report geometry start).1
        (handle.findReported report geometry start).2.platform := by
  unfold findReported
  by_cases hcount : report.planeCount.toNat ≠ geometry.planeCount
  · simp only [if_pos hcount, pure_apply]
    refine ⟨.refl start, .failed ?_ (.refl _)⟩
    simp [Handle.sites, hvendor, hcount]
  · have hempty := (Search.valid_empty start).log
      (show (Event.reported report.id report.width report.height
        report.planeCount.toNat).level = .debug from rfl)
    have hsites : handle.sites start.platform.backing geometry size =
        handle.reportedSites start.platform.backing report geometry.planeCount
          report.planeCount.toNat 0 := by
      simp only [Handle.sites, hvendor, if_neg hcount]
    have hplaces : Search.Places start [] {} (handle.reportedSites start.platform.backing report
        geometry.planeCount report.planeCount.toNat 0) _ :=
      Search.reportedPlanes_places hempty hold
    rw [← hsites] at hplaces
    simp only [if_neg hcount, bind_apply, Act.log_apply]
    exact hplaces.finish rfl

/-- Planes one after another are searched as their sites are decided. -/
theorem findConsecutive_finds (hvendor : handle.vendor? = none)
    (hold : ∀ descriptor ∈ handle.descriptors,
      descriptor.number < start.platform.descriptors.size) :
    start.Quiet (handle.findConsecutive geometry size start).2 ∧
      handle.Finds geometry size start.platform (handle.findConsecutive geometry size start).1
        (handle.findConsecutive geometry size start).2.platform := by
  have hempty := (Search.valid_empty start).log (show Event.unreported.level = .debug from rfl)
  unfold findConsecutive
  simp only [bind_apply, Act.log_apply]
  cases hfirst : handle.descriptors[0]? with
  | none =>
      refine ⟨hempty.quiet, .failed ?_ (.refl _)⟩
      simp [Handle.sites, hvendor, hfirst]
  | some descriptor =>
      have hmeasure := Search.measure_valid hempty (hold _ (List.mem_of_getElem? hfirst))
      cases hbacking : start.platform.backing descriptor with
      | error fault =>
          rw [hbacking] at hmeasure
          obtain ⟨later, opened, heq, hvalid⟩ := hmeasure
          have hsites : handle.sites start.platform.backing geometry size =
              .error (.io fault) := by
            simp [Handle.sites, hvendor, hfirst, hbacking]
          have hplaces : Search.Places start [] {} (.error (.io fault))
              ((.error (.io fault), {}), later) := .error hvalid (List.Subset.refl _)
          rw [← hsites] at hplaces
          simp only [bind_apply, heq]
          exact hplaces.finish rfl
      | ok bytes =>
          rw [hbacking] at hmeasure
          obtain ⟨file, found, later, opened, heq, hvalid, hkept, hfile, rfl, rfl, -⟩ := hmeasure
          have hsites : handle.sites start.platform.backing geometry size =
              consecutiveSites geometry size file.descriptor file.bytes geometry.planes 0 0 := by
            simp only [Handle.sites, hvendor, hfirst, hbacking]
          have hplaces : Search.Places start [file.share] found (consecutiveSites geometry size
              file.descriptor file.bytes geometry.planes 0 0) _ :=
            Search.consecutivePlanes_places hvalid hfile
          rw [← hsites] at hplaces
          simp only [bind_apply, heq, Act.changePlatform_apply]
          exact hplaces.release.finish hkept.2

/-- Logging the planes that were found changes nothing else. -/
theorem logFound_quiet (planes : List Plane) (index : Nat) {now : World} (h : start.Quiet now) :
    start.Quiet (logFound planes index now).2 ∧
      (logFound planes index now).2.platform = now.platform := by
  induction planes generalizing index now with
  | nil => exact ⟨h, rfl⟩
  | cons plane planes ih => exact ih (index + 1) (h.push rfl)

/-- Logging what a search found, if it found anything, keeps what it comes to. -/
theorem found_finds {search : Act (Except Failure (List Plane))}
    (h : start.Quiet (search start).2 ∧
      handle.Finds geometry size start.platform (search start).1 (search start).2.platform) :
    let run := (do
      match ← search with
      | .error failure => pure (.error failure)
      | .ok planes =>
          logFound planes 0
          pure (.ok planes) : Act (Except Failure (List Plane))) start
    start.Quiet run.2 ∧ handle.Finds geometry size start.platform run.1 run.2.platform := by
  simp only [bind_apply]
  generalize search start = reached at h
  obtain ⟨answer, now⟩ := reached
  cases answer with
  | error failure => exact h
  | ok planes =>
      obtain ⟨hlogged, hplatform⟩ := logFound_quiet planes 0 h.1
      exact ⟨hlogged, hplatform ▸ h.2⟩

/-- A search for planes comes to what is decided from the handle and the lengths behind its
descriptors, and logs events for debugging only. -/
theorem findPlanes_finds (hold : ∀ descriptor ∈ handle.descriptors,
      descriptor.number < start.platform.descriptors.size) :
    start.Quiet (handle.findPlanes geometry size start).2 ∧
      handle.Finds geometry size start.platform (handle.findPlanes geometry size start).1
        (handle.findPlanes geometry size start).2.platform := by
  unfold findPlanes
  cases hvendor : handle.vendor? with
  | some report => exact found_finds (findReported_finds hvendor hold)
  | none => exact found_finds (findConsecutive_finds hvendor hold)

end Handle

end PixelBuffer
