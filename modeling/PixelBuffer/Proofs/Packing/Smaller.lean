import Mathlib.Algebra.Order.BigOperators.Group.List
import Mathlib.Algebra.Order.Group.Nat
import PixelBuffer.Proofs.Packing.Limits

/-!
# Smaller images take no more

A row is the least multiple of its alignment that holds its groups. A row that is rounded up to
another alignment is a candidate for that least multiple only if the one alignment divides the
other, and then a row of fewer pixels takes no more bytes (`PlaneGeometry.paddedBytes_le_of_dvd`).
Everything that a packed layout holds grows with the bytes of a row, so a smaller image fits
wherever a larger one does, and no number of its layout is larger (`FormatGeometry.pack?_smaller`).
-/

namespace PixelBuffer

variable {width width' height height' align align' : UInt32}

/-! ## One plane -/

namespace PlaneGeometry

/-- Fewer pixels in rows that are rounded up to a divisor of the alignment take no more bytes. -/
theorem paddedBytes_le_of_dvd (plane : PlaneGeometry) (pixelsPerGroup : Nat)
    (hwidth : width' ≤ width) (halign : max align'.toNat 1 ∣ max align.toNat 1) :
    plane.paddedBytes pixelsPerGroup width' align' ≤
      plane.paddedBytes pixelsPerGroup width align := by
  have hlarger := (plane.isLeast_paddedBytes pixelsPerGroup width align).1
  have hgroups : ceilDiv width'.toNat pixelsPerGroup * plane.bytesPerGroup ≤
      ceilDiv width.toNat pixelsPerGroup * plane.bytesPerGroup :=
    Nat.mul_le_mul_right _ (ceilDiv_le_ceilDiv (UInt32.le_iff_toNat_le.mp hwidth) _)
  -- the larger row is one of the multiples of which the smaller row is the least
  exact (plane.isLeast_paddedBytes pixelsPerGroup width' align').2
    ⟨Nat.dvd_trans halign hlarger.1, Nat.le_trans hgroups hlarger.2⟩

/-- Fewer rows that are no longer take no more bytes. -/
theorem paddedSize_le_of_dvd (plane : PlaneGeometry) (pixelsPerGroup : Nat)
    (hwidth : width' ≤ width) (hheight : height' ≤ height)
    (halign : max align'.toNat 1 ∣ max align.toNat 1) :
    plane.paddedSize pixelsPerGroup width' height' align' ≤
      plane.paddedSize pixelsPerGroup width height align :=
  Nat.mul_le_mul (plane.paddedBytes_le_of_dvd pixelsPerGroup hwidth halign)
    (ceilDiv_le_ceilDiv (UInt32.le_iff_toNat_le.mp hheight) _)

end PlaneGeometry

/-! ## Layouts -/

/-- No number of a record is larger than that of another. -/
structure PlaneRecord.AtMost (record larger : PlaneRecord) : Prop where
  stride_le : record.stride ≤ larger.stride
  offset_le : record.offset ≤ larger.offset
  size_le : record.size ≤ larger.size

/-- A layout has as many planes as another, and none of its numbers is larger. -/
structure PackedLayout.AtMost (layout larger : PackedLayout) : Prop where
  planes : List.Forall₂ PlaneRecord.AtMost layout.planes larger.planes
  pixelStride_le : layout.pixelStride ≤ larger.pixelStride
  total_le : layout.total ≤ larger.total

namespace FormatGeometry

variable {geometry : FormatGeometry} {layout larger : PackedLayout}

/-- The planes before a plane of a smaller image take no more bytes. -/
theorem paddedBefore_le_of_dvd (geometry : FormatGeometry) (hwidth : width' ≤ width)
    (hheight : height' ≤ height) (halign : max align'.toNat 1 ∣ max align.toNat 1) (index : Nat) :
    geometry.paddedBefore width' height' align' index ≤
      geometry.paddedBefore width height align index :=
  List.sum_le_sum fun plane _ => plane.paddedSize_le_of_dvd _ hwidth hheight halign

/-- A smaller image has a packed layout wherever a larger one has. -/
theorem pack?_isSome_of_dvd (h : geometry ∈ table) (hwidth : width' ≤ width)
    (hheight : height' ≤ height) (halign : max align'.toNat 1 ∣ max align.toNat 1)
    (hlarger : (geometry.pack? width height align).isSome) :
    (geometry.pack? width' height' align').isSome := by
  rw [pack?_isSome_iff h] at hlarger ⊢
  obtain ⟨hrows, htotal⟩ := hlarger
  constructor
  · intro plane hplane
    exact Nat.lt_of_le_of_lt (plane.paddedBytes_le_of_dvd _ hwidth halign) (hrows plane hplane)
  · have hend := geometry.paddedBefore_le_of_dvd hwidth hheight halign geometry.planeCount
    exact Nat.lt_of_le_of_lt (Nat.mul_le_mul_right _ (ceilDiv_le_ceilDiv hend _)) htotal

/-- Layouts of the same format that hold their exact numbers are ordered by their images. -/
theorem records_atMost (hwidth : width' ≤ width) (hheight : height' ≤ height)
    (halign : max align'.toNat 1 ∣ max align.toNat 1)
    (hlayout : layout.Exact geometry width' height' align')
    (hlarger : larger.Exact geometry width height align) :
    List.Forall₂ PlaneRecord.AtMost layout.planes larger.planes := by
  have hlength : layout.planes.length = larger.planes.length :=
    hlayout.length_eq.trans hlarger.length_eq.symm
  refine List.forall₂_iff_get.mpr ⟨hlength, fun index hindex hindex' => ?_⟩
  have hplane : index < geometry.planes.length := by
    rwa [← show layout.planes.length = geometry.planes.length from hlayout.length_eq]
  have hsome := List.getElem?_eq_getElem hplane
  have hrecord : layout.planes[index]? = some (layout.planes.get ⟨index, hindex⟩) :=
    List.getElem?_eq_getElem hindex
  have hrecord' : larger.planes[index]? = some (larger.planes.get ⟨index, hindex'⟩) :=
    List.getElem?_eq_getElem hindex'
  constructor
  case stride_le =>
    rw [UInt32.le_iff_toNat_le, hlayout.stride_eq index _ _ hsome hrecord,
      hlarger.stride_eq index _ _ hsome hrecord']
    exact PlaneGeometry.paddedBytes_le_of_dvd _ _ hwidth halign
  case offset_le =>
    rw [UInt32.le_iff_toNat_le, hlayout.offset_eq index _ hrecord,
      hlarger.offset_eq index _ hrecord']
    exact geometry.paddedBefore_le_of_dvd hwidth hheight halign index
  case size_le =>
    rw [UInt32.le_iff_toNat_le, hlayout.size_eq index _ _ hsome hrecord,
      hlarger.size_eq index _ _ hsome hrecord']
    exact PlaneGeometry.paddedSize_le_of_dvd _ _ hwidth hheight halign

/-- Shorter strides are no more pixels. -/
theorem pixelsInStride_le {records others : List PlaneRecord}
    (h : List.Forall₂ PlaneRecord.AtMost records others) :
    geometry.pixelsInStride records ≤ geometry.pixelsInStride others := by
  unfold pixelsInStride
  cases h with
  | nil => exact Nat.le_refl _
  | cons hfirst _ =>
      cases geometry.planes with
      | nil => exact Nat.le_refl _
      | cons plane rest =>
          exact Nat.div_le_div_right
            (Nat.mul_le_mul_right _ (UInt32.le_iff_toNat_le.mp hfirst.stride_le))

/-- No number in the layout of a smaller image is larger. -/
theorem pack?_atMost (h : geometry ∈ table) (hwidth : width' ≤ width) (hheight : height' ≤ height)
    (halign : max align'.toNat 1 ∣ max align.toNat 1)
    (hlayout : geometry.pack? width' height' align' = some layout)
    (hlarger : geometry.pack? width height align = some larger) : layout.AtMost larger := by
  have hsub : ∀ plane ∈ geometry.planes, 0 < plane.verticalSubsampling :=
    fun plane hplane => ((units_of_mem_table h).2 plane hplane).2
  have hexact := pack?_layout_exact h hlayout
  have hexact' := pack?_layout_exact h hlarger
  have hrecords := records_atMost hwidth hheight halign hexact hexact'
  obtain ⟨_, -, -, -, hpixels⟩ := pack?_exact hsub hlayout
  obtain ⟨_, -, -, -, hpixels'⟩ := pack?_exact hsub hlarger
  constructor
  case planes => exact hrecords
  case pixelStride_le =>
    rw [UInt32.le_iff_toNat_le, hpixels, hpixels']
    exact pixelsInStride_le hrecords
  case total_le =>
    rw [UInt64.le_iff_toNat_le, hexact.total_eq, hexact'.total_eq]
    have hend := geometry.paddedBefore_le_of_dvd hwidth hheight halign geometry.planeCount
    exact Nat.mul_le_mul_right _ (ceilDiv_le_ceilDiv hend _)

/-- A smaller image has a frame wherever a larger one has, and takes no more bytes. -/
theorem frameBytes?_smaller (h : geometry ∈ table) (hwidth : width' ≤ width)
    (hheight : height' ≤ height) {frame : UInt64}
    (hframe : geometry.frameBytes? ⟨width, height⟩ = some frame) :
    ∃ smaller, geometry.frameBytes? ⟨width', height'⟩ = some smaller ∧ smaller ≤ frame := by
  obtain ⟨hrows, hexact⟩ := (frameBytes?_eq_some_iff h).mp hframe
  have hle : geometry.paddedBefore width' height' 1 geometry.planeCount ≤ frame.toNat := by
    rw [hexact]
    exact geometry.paddedBefore_le_of_dvd hwidth hheight (Nat.dvd_refl _) _
  obtain ⟨smaller, hsmaller⟩ : ∃ smaller : UInt64,
      smaller.toNat = geometry.paddedBefore width' height' 1 geometry.planeCount :=
    ⟨_, UInt64.toNat_ofNat_of_lt' (Nat.lt_of_le_of_lt hle frame.toNat_lt)⟩
  refine ⟨smaller, (frameBytes?_eq_some_iff h).mpr ⟨fun plane hplane => ?_, hsmaller⟩, ?_⟩
  · exact Nat.lt_of_le_of_lt (plane.paddedBytes_le_of_dvd _ hwidth (Nat.dvd_refl _))
      (hrows plane hplane)
  · rwa [UInt64.le_iff_toNat_le, hsmaller]

/-- Wherever an image fits, a smaller one does, and takes no more. With rows rounded up to a divisor
of the alignment it has a packed layout in which no number is larger; without padding it has a frame
that is no larger. -/
theorem pack?_smaller (h : geometry ∈ table) (hwidth : width' ≤ width)
    (hheight : height' ≤ height) :
    (∀ align align' : UInt32, max align'.toNat 1 ∣ max align.toNat 1 →
        ∀ layout, geometry.pack? width height align = some layout →
          ∃ smaller, geometry.pack? width' height' align' = some smaller ∧
            smaller.AtMost layout) ∧
      ∀ frame, geometry.frameBytes? ⟨width, height⟩ = some frame →
        ∃ smaller, geometry.frameBytes? ⟨width', height'⟩ = some smaller ∧ smaller ≤ frame := by
  refine ⟨fun align align' halign layout hlayout => ?_,
    fun frame hframe => frameBytes?_smaller h hwidth hheight hframe⟩
  obtain ⟨smaller, hsmaller⟩ := Option.isSome_iff_exists.mp
    (pack?_isSome_of_dvd h hwidth hheight halign (Option.isSome_of_eq_some hlayout))
  exact ⟨smaller, hsmaller, pack?_atMost h hwidth hheight halign hsmaller hlayout⟩

/-- Three bytes a pixel: five by three pixels in rows of 16 bytes, which are no whole number of
pixels, and four by two pixels in rows of 12. -/
theorem pack?_smaller_odd_pitch :
    (⟨"RGB888", .rgb3, 1, [⟨3, 1⟩]⟩ : FormatGeometry) ∈ table ∧
      (⟨"RGB888", .rgb3, 1, [⟨3, 1⟩]⟩ : FormatGeometry).pack? 5 3 8 =
        some ⟨[⟨16, 0, 48⟩], 5, 4096⟩ ∧
      ∃ smaller, (⟨"RGB888", .rgb3, 1, [⟨3, 1⟩]⟩ : FormatGeometry).pack? 4 2 4 = some smaller ∧
        smaller.AtMost ⟨[⟨16, 0, 48⟩], 5, 4096⟩ := by
  have h : (⟨"RGB888", .rgb3, 1, [⟨3, 1⟩]⟩ : FormatGeometry) ∈ table := by decide
  have hlarger : (⟨"RGB888", .rgb3, 1, [⟨3, 1⟩]⟩ : FormatGeometry).pack? 5 3 8 =
      some ⟨[⟨16, 0, 48⟩], 5, 4096⟩ := by decide
  have hwidth : (4 : UInt32) ≤ 5 := by decide
  have hheight : (2 : UInt32) ≤ 3 := by decide
  exact ⟨h, hlarger, (pack?_smaller h hwidth hheight).1 8 4 (by decide) _ hlarger⟩

/-- The alignment has to be a divisor: bytes in one row that fill whole pages fit, and do not fit
any more when the row is rounded up to one byte less than a page. -/
example :
    ((⟨"MJPEG", .mjpg, 1, [⟨1, 1⟩]⟩ : FormatGeometry).pack? 4294963200 1 4096).isSome ∧
      (⟨"MJPEG", .mjpg, 1, [⟨1, 1⟩]⟩ : FormatGeometry).pack? 4294963200 1 4095 = none := by
  decide

end FormatGeometry

end PixelBuffer
