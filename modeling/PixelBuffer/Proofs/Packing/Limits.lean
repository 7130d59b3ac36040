import PixelBuffer.Proofs.Geometry

/-!
# Which images have a packed layout

Packing checks each row, the offset, the size and the end of each plane, the total and the pixel
stride. Over exact naturals these checks come to two: each row fits 32 bits, and so do all planes
rounded up to pages (`FormatGeometry.pack?_isSome_iff`). A layout holds the exact numbers
(`PackedLayout.Exact`), and the pixel stride is never what refuses one
(`FormatGeometry.word32?_pixelsInStride_isSome`). `FormatGeometry.pack?_limits` puts this together
and compares it with the bytes of a frame.
-/

namespace PixelBuffer

variable {width height align : UInt32}

/-! ## Placing -/

section Placing

variable {pixelsPerGroup : Nat} {planes : List PlaneGeometry} {start stop : UInt64}
  {records : List PlaneRecord}

/-- Planes with rows that fit a word are placed when all of them end within 32 bits. -/
theorem placePlanes?_isSome (hpixels : 0 < pixelsPerGroup)
    (hplanes : ∀ plane ∈ planes, plane.bytesPerGroup ≤ 4 ∧ 0 < plane.verticalSubsampling)
    (hrows : ∀ plane ∈ planes, plane.paddedBytes pixelsPerGroup width align < UInt32.size)
    (hend : start.toNat + (planes.map (·.paddedSize pixelsPerGroup width height align)).sum <
      UInt32.size) :
    (placePlanes? pixelsPerGroup width height align planes start).isSome := by
  induction planes generalizing start with
  | nil => rfl
  | cons plane rest ih =>
      obtain ⟨⟨hbytes, hsub⟩, hrest⟩ := List.forall_mem_cons.mp hplanes
      obtain ⟨hrow, hrows⟩ := List.forall_mem_cons.mp hrows
      rw [List.map_cons, List.sum_cons] at hend
      obtain ⟨stride, hstride⟩ : ∃ stride : UInt32,
          stride.toNat = plane.paddedBytes pixelsPerGroup width align :=
        ⟨_, UInt32.toNat_ofNat_of_lt' hrow⟩
      have hexact : (plane.bytes height stride).toNat =
          plane.paddedSize pixelsPerGroup width height align := by
        rw [PlaneGeometry.toNat_bytes hsub, hstride]
        rfl
      obtain ⟨offset, hoffset⟩ : ∃ offset : UInt32, offset.toNat = start.toNat :=
        ⟨_, UInt32.toNat_ofNat_of_lt' (Nat.lt_of_le_of_lt (by omega) hend)⟩
      obtain ⟨size, hsize⟩ : ∃ size : UInt32, size.toNat = (plane.bytes height stride).toNat :=
        ⟨_, UInt32.toNat_ofNat_of_lt' (Nat.lt_of_le_of_lt (by omega) hend)⟩
      obtain ⟨next, hnext⟩ : ∃ next : UInt64, next.toNat = start.toNat + size.toNat :=
        ⟨_, UInt64.toNat_ofNat_of_lt'
          (Nat.lt_of_le_of_lt (by omega) (Nat.lt_trans hend (by decide)))⟩
      have hrowBytes : plane.rowBytes? pixelsPerGroup width align = some stride := by
        rw [PlaneGeometry.rowBytes?_eq_word32? hpixels hbytes, word32?_eq_some_iff.mpr hstride]
      obtain ⟨⟨placed, stop⟩, hplaced⟩ :=
        Option.isSome_iff_exists.mp (@ih next hrest hrows (by omega))
      exact Option.isSome_iff_exists.mpr ⟨_, placePlanes?_cons_eq_some_iff.mpr
        ⟨⟨stride, offset, size⟩, placed, next, rfl, ⟨hrowBytes, hoffset, hsize, hnext⟩, hplaced⟩⟩

/-- The row of a plane that is placed fits a word. -/
theorem paddedBytes_lt_of_placePlanes?
    (h : placePlanes? pixelsPerGroup width height align planes start = some (records, stop)) :
    ∀ plane ∈ planes, plane.paddedBytes pixelsPerGroup width align < UInt32.size := by
  induction planes generalizing start records with
  | nil => simp
  | cons plane rest ih =>
      obtain ⟨record, placed, next, -, hplaces, hrest⟩ := placePlanes?_cons_eq_some_iff.mp h
      refine List.forall_mem_cons.mpr ⟨?_, ih hrest⟩
      rw [← PlaneGeometry.rowBytes?_exact hplaces.stride_eq]
      exact record.stride.toNat_lt

/-- Records of the exact size are as large as the planes. -/
theorem map_size_eq_map_paddedSize (hlength : records.length = planes.length)
    (hexact : ∀ (index : Nat) plane record, planes[index]? = some plane →
      records[index]? = some record → record.Exact plane pixelsPerGroup width height align) :
    records.map (·.size.toNat) = planes.map (·.paddedSize pixelsPerGroup width height align) := by
  refine List.ext_getElem (by simpa using hlength) fun index hrecord hplane => ?_
  rw [List.length_map] at hrecord hplane
  have hthis := hexact index _ _ (List.getElem?_eq_getElem hplane)
    (List.getElem?_eq_getElem hrecord)
  rw [List.getElem_map, List.getElem_map, hthis.size_eq, hthis.stride_eq]
  rfl

end Placing

/-! ## Layouts -/

/-- A layout holds the exact numbers of an image: the stride and the size of each plane, the bytes
of the planes before it, and the bytes of all planes rounded up to pages. -/
structure PackedLayout.Exact (layout : PackedLayout) (geometry : FormatGeometry)
    (width height align : UInt32) : Prop where
  length_eq : layout.planes.length = geometry.planeCount
  stride_eq : ∀ (index : Nat) plane record, geometry.planes[index]? = some plane →
    layout.planes[index]? = some record →
    record.stride.toNat = plane.paddedBytes geometry.pixelsPerGroup width align
  size_eq : ∀ (index : Nat) plane record, geometry.planes[index]? = some plane →
    layout.planes[index]? = some record →
    record.size.toNat = plane.paddedSize geometry.pixelsPerGroup width height align
  offset_eq : ∀ (index : Nat) record, layout.planes[index]? = some record →
    record.offset.toNat = geometry.paddedBefore width height align index
  total_eq : layout.total.toNat =
    ceilDiv (geometry.paddedBefore width height align geometry.planeCount) pageBytes * pageBytes

namespace FormatGeometry

variable {geometry : FormatGeometry} {layout : PackedLayout}

/-- The sizes of a packed layout are the exact sizes of the planes. -/
theorem pack?_sizes (h : geometry ∈ table)
    (hpack : geometry.pack? width height align = some layout) :
    layout.planes.map (·.size.toNat) =
      geometry.planes.map (·.paddedSize geometry.pixelsPerGroup width height align) := by
  obtain ⟨-, -, hexact, -⟩ :=
    pack?_exact (fun plane hplane => ((units_of_mem_table h).2 plane hplane).2) hpack
  exact map_size_eq_map_paddedSize (pack?_eq_some hpack).1 hexact

/-- A packed layout holds the exact numbers. -/
theorem pack?_layout_exact (h : geometry ∈ table)
    (hpack : geometry.pack? width height align = some layout) :
    layout.Exact geometry width height align := by
  obtain ⟨stop, hconsecutive, hexact, htotal, -⟩ :=
    pack?_exact (fun plane hplane => ((units_of_mem_table h).2 plane hplane).2) hpack
  have hsizes := pack?_sizes h hpack
  constructor
  case length_eq => exact (pack?_eq_some hpack).1
  case stride_eq =>
    exact fun index plane record hplane hrecord => (hexact index plane record hplane hrecord).1
  case size_eq =>
    intro index plane record hplane hrecord
    rw [(hexact index plane record hplane hrecord).size_eq,
      (hexact index plane record hplane hrecord).stride_eq]
    rfl
  case offset_eq =>
    intro index record hrecord
    rw [hconsecutive.offset_eq_sum hrecord, Nat.zero_add, List.map_take, hsizes, ← List.map_take]
    rfl
  case total_eq =>
    rw [htotal, hconsecutive.stop_eq_sum, Nat.zero_add, hsizes, paddedBefore_planeCount]

/-- The pixels in the stride of placed planes are no more than its bytes, and so fit a word. -/
theorem word32?_pixelsInStride_isSome (h : geometry ∈ table) {records : List PlaneRecord} :
    (word32? (geometry.pixelsInStride records)).isSome := by
  have hle : geometry.pixelsInStride records < UInt32.size := by
    obtain ⟨-, hgroups⟩ := groups_of_mem_table h
    unfold pixelsInStride
    split
    · rename_i record rest plane others hplanes
      obtain ⟨hpixels, -⟩ := hgroups plane (by rw [hplanes]; rfl)
      refine Nat.lt_of_le_of_lt (Nat.div_le_of_le_mul ?_) record.stride.toNat_lt
      rw [Nat.mul_comm plane.bytesPerGroup]
      exact Nat.mul_le_mul_left _ hpixels
    · decide
  exact Option.isSome_iff_exists.mpr ⟨_, if_pos hle⟩

/-- An image has a packed layout exactly when each row fits 32 bits, and so do all planes rounded up
to pages. -/
theorem pack?_isSome_iff (h : geometry ∈ table) :
    (geometry.pack? width height align).isSome ↔
      (∀ plane ∈ geometry.planes,
          plane.paddedBytes geometry.pixelsPerGroup width align < UInt32.size) ∧
        ceilDiv (geometry.paddedBefore width height align geometry.planeCount) pageBytes *
          pageBytes < UInt32.size := by
  obtain ⟨⟨hpixels, -⟩, hunits⟩ := units_of_mem_table h
  constructor
  · intro hsome
    obtain ⟨layout, hpack⟩ := Option.isSome_iff_exists.mp hsome
    obtain ⟨stop, hplaced, -⟩ := pack?_eq_some_iff.mp hpack
    refine ⟨paddedBytes_lt_of_placePlanes? hplaced, ?_⟩
    rw [← (pack?_layout_exact h hpack).total_eq]
    exact (pack?_eq_some hpack).2.1
  · rintro ⟨hrows, htotal⟩
    have hround := le_ceilDiv_mul (geometry.paddedBefore width height align geometry.planeCount)
      (show 0 < pageBytes by decide)
    rw [paddedBefore_planeCount] at hround htotal
    have hend : (0 : UInt64).toNat + (geometry.planes.map
        (·.paddedSize geometry.pixelsPerGroup width height align)).sum < UInt32.size := by
      simpa using Nat.lt_of_le_of_lt hround htotal
    obtain ⟨⟨records, stop⟩, hplaced⟩ := Option.isSome_iff_exists.mp (placePlanes?_isSome hpixels
      (fun plane hplane => ⟨(groups_of_mem_table h).1 plane hplane, (hunits plane hplane).2⟩)
      hrows hend)
    obtain ⟨hconsecutive, hexact⟩ :=
      placePlanes?_exact (fun plane hplane => (hunits plane hplane).2) hplaced
    have hsizes := map_size_eq_map_paddedSize (placePlanes?_eq_some hplaced).2.1 hexact
    have hstop : stop.toNat =
        (geometry.planes.map (·.paddedSize geometry.pixelsPerGroup width height align)).sum := by
      rw [hconsecutive.stop_eq_sum, hsizes]
      exact Nat.zero_add _
    obtain ⟨pixelStride, hpixelStride⟩ :=
      Option.isSome_iff_exists.mp (@word32?_pixelsInStride_isSome geometry h records)
    have htotal' : (UInt64.ofNat (ceilDiv stop.toNat pageBytes * pageBytes)).toNat =
        ceilDiv stop.toNat pageBytes * pageBytes :=
      UInt64.toNat_ofNat_of_lt' (Nat.lt_trans (hstop ▸ htotal) (by decide))
    refine Option.isSome_iff_exists.mpr
      ⟨⟨records, pixelStride, UInt64.ofNat (ceilDiv stop.toNat pageBytes * pageBytes)⟩,
        pack?_eq_some_iff.mpr ⟨stop, hplaced, htotal', ?_, word32?_eq_some_iff.mp hpixelStride⟩⟩
    rw [htotal', hstop]
    exact htotal

/-- Without padding, an image has a packed layout exactly when its frame rounded up to pages fits 32
bits. -/
theorem pack?_isSome_iff_frameBytes? (h : geometry ∈ table) (halign : align.toNat ≤ 1) :
    (geometry.pack? width height align).isSome ↔
      ∃ frame, geometry.frameBytes? ⟨width, height⟩ = some frame ∧
        ceilDiv frame.toNat pageBytes * pageBytes < UInt32.size := by
  rw [pack?_isSome_iff h, paddedBefore_align_le_one _ _ _ _ halign]
  simp only [PlaneGeometry.paddedBytes_align_le_one _ _ _ halign, frameBytes?_eq_some_iff h]
  constructor
  · rintro ⟨hrows, htotal⟩
    have hround := le_ceilDiv_mul (geometry.paddedBefore width height 1 geometry.planeCount)
      (show 0 < pageBytes by decide)
    obtain ⟨frame, hframe⟩ : ∃ frame : UInt64,
        frame.toNat = geometry.paddedBefore width height 1 geometry.planeCount :=
      ⟨_, UInt64.toNat_ofNat_of_lt'
        (Nat.lt_of_le_of_lt hround (Nat.lt_trans htotal (by decide)))⟩
    exact ⟨frame, ⟨hrows, hframe⟩, by rwa [hframe]⟩
  · rintro ⟨frame, ⟨hrows, hframe⟩, htotal⟩
    exact ⟨hrows, by rwa [← hframe]⟩

/-- Without padding, the sizes of a packed layout are the bytes of the planes, and come to the bytes
of the frame. -/
theorem pack?_sizes_tight (h : geometry ∈ table) (halign : align.toNat ≤ 1)
    (hpack : geometry.pack? width height align = some layout) :
    (∀ (index : Nat) record, layout.planes[index]? = some record →
        geometry.tightBytes? ⟨width, height⟩ index = some record.size.toUInt64) ∧
      ∃ frame, geometry.frameBytes? ⟨width, height⟩ = some frame ∧
        (layout.planes.map (·.size.toNat)).sum = frame.toNat := by
  have hexact := pack?_layout_exact h hpack
  obtain ⟨hrows, -⟩ := (pack?_isSome_iff h).mp (Option.isSome_of_eq_some hpack)
  constructor
  · intro index record hrecord
    have hlt : index < geometry.planes.length := by
      rw [← show layout.planes.length = geometry.planes.length from hexact.length_eq]
      exact (List.getElem?_eq_some_iff.mp hrecord).1
    have hplane := List.getElem?_eq_getElem hlt
    have hmem := List.getElem_mem hlt
    have hrow := hrows _ hmem
    have hsize := hexact.size_eq index _ record hplane hrecord
    rw [PlaneGeometry.paddedBytes_align_le_one _ _ _ halign] at hrow
    rw [PlaneGeometry.paddedSize, PlaneGeometry.paddedBytes_align_le_one _ _ _ halign] at hsize
    rw [tightBytes?_eq_some_iff h hplane, UInt32.toNat_toUInt64]
    exact ⟨hrow, hsize⟩
  · obtain ⟨frame, hframe, -⟩ :=
      (pack?_isSome_iff_frameBytes? h halign).mp (Option.isSome_of_eq_some hpack)
    refine ⟨frame, hframe, ?_⟩
    rw [((frameBytes?_eq_some_iff h).mp hframe).2, pack?_sizes h hpack, ← paddedBefore_planeCount,
      paddedBefore_align_le_one _ _ _ _ halign]

/-! ## One condition -/

/-- An image has a packed layout exactly when the exact stride of each plane, and the exact sum of
the planes rounded up to pages, fit 32 bits. The layout then holds the exact numbers, and the pixel
stride never refuses one. Without padding the condition is that of the frame, whose planes have the
sizes of the layout. -/
theorem pack?_limits (h : geometry ∈ table) (width height align : UInt32) :
    let total := geometry.paddedBefore width height align geometry.planeCount
    (∀ plane ∈ geometry.planes,
        IsLeast {bytes | max align.toNat 1 ∣ bytes ∧
            ceilDiv width.toNat geometry.pixelsPerGroup * plane.bytesPerGroup ≤ bytes}
          (plane.paddedBytes geometry.pixelsPerGroup width align)) ∧
      IsLeast {bytes | pageBytes ∣ bytes ∧ total ≤ bytes} (ceilDiv total pageBytes * pageBytes) ∧
      ((geometry.pack? width height align).isSome ↔
        (∀ plane ∈ geometry.planes,
            plane.paddedBytes geometry.pixelsPerGroup width align ≤ 2 ^ 32 - 1) ∧
          ceilDiv total pageBytes * pageBytes ≤ 2 ^ 32 - 1) ∧
      (∀ layout, geometry.pack? width height align = some layout →
        layout.Exact geometry width height align) ∧
      (∀ records stop,
        placePlanes? geometry.pixelsPerGroup width height align geometry.planes 0 =
            some (records, stop) →
          (word32? (geometry.pixelsInStride records)).isSome) ∧
      (align.toNat ≤ 1 →
        ((geometry.pack? width height align).isSome ↔
          ∃ frame, geometry.frameBytes? ⟨width, height⟩ = some frame ∧
            ceilDiv frame.toNat pageBytes * pageBytes ≤ 2 ^ 32 - 1) ∧
        ∀ layout, geometry.pack? width height align = some layout →
          (∀ (index : Nat) record, layout.planes[index]? = some record →
            geometry.tightBytes? ⟨width, height⟩ index = some record.size.toUInt64) ∧
          ∃ frame, geometry.frameBytes? ⟨width, height⟩ = some frame ∧
            (layout.planes.map (·.size.toNat)).sum = frame.toNat) := by
  intro total
  have hfits : ∀ n : Nat, n ≤ 2 ^ 32 - 1 ↔ n < UInt32.size :=
    fun n => Nat.le_sub_one_iff_lt (by decide)
  simp only [hfits]
  refine ⟨fun plane _ => plane.isLeast_paddedBytes _ _ _, isLeast_ceilDiv_mul total (by decide),
    pack?_isSome_iff h, fun layout hpack => pack?_layout_exact h hpack,
    fun records stop _ => word32?_pixelsInStride_isSome h, fun halign => ?_⟩
  exact ⟨pack?_isSome_iff_frameBytes? h halign,
    fun layout hpack => pack?_sizes_tight h halign hpack⟩

/-- One row of a compressed picture: the longest row that fits 32 bits has no layout, since it does
not fit when rounded up to pages; a row of one page less, and an empty image of the longest row,
have one. -/
theorem pack?_limits_last_page :
    (⟨"MJPEG", .mjpg, 1, [⟨1, 1⟩]⟩ : FormatGeometry) ∈ table ∧
      ¬ ((⟨"MJPEG", .mjpg, 1, [⟨1, 1⟩]⟩ : FormatGeometry).pack? 4294967295 1 0).isSome ∧
      ((⟨"MJPEG", .mjpg, 1, [⟨1, 1⟩]⟩ : FormatGeometry).pack? 4294963200 1 0).isSome ∧
      ((⟨"MJPEG", .mjpg, 1, [⟨1, 1⟩]⟩ : FormatGeometry).pack? 4294967295 0 0).isSome := by
  have h : (⟨"MJPEG", .mjpg, 1, [⟨1, 1⟩]⟩ : FormatGeometry) ∈ table := by decide
  refine ⟨h, ?_, ?_, ?_⟩
  · rw [(pack?_limits h 4294967295 1 0).2.2.1]
    decide
  · rw [(pack?_limits h 4294963200 1 0).2.2.1]
    decide
  · rw [(pack?_limits h 4294967295 0 0).2.2.1]
    decide

end FormatGeometry

end PixelBuffer
