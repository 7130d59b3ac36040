import PixelBuffer.Proofs.Packing.Limits

/-!
# The pixel stride keeps the row pitch

A packed layout states the distance between rows in whole pixels, although the rows lie whole steps
of an alignment apart and a step need not be a whole number of pixels. The division loses less than
a pixel, and no group of a row (`mul_le_mul_div`). The bytes that the pixel stride stands for are
therefore still between the groups of a row and the padded row, and rounding them up to the
alignment gives the padded row again (`PackedLayout.Pitched`).
-/

namespace PixelBuffer

/-! ## Quotients that keep whole groups -/

/-- Groups that fit in a length still fit when the length is converted to another unit of the
groups and rounded down. -/
theorem mul_le_mul_div {groups unit other length : Nat} (hunit : 0 < unit)
    (h : groups * unit ≤ length) : groups * other ≤ length * other / unit := by
  rw [Nat.le_div_iff_mul_le hunit, Nat.mul_right_comm]
  exact Nat.mul_le_mul_right other h

/-- The least multiple that is not below a number is also the least that is not below any number
between the two. -/
theorem isLeast_multiple_of_between {step low between high : Nat}
    (h : IsLeast {m | step ∣ m ∧ low ≤ m} high) (hlow : low ≤ between)
    (hhigh : between ≤ high) : IsLeast {m | step ∣ m ∧ between ≤ m} high := by
  refine ⟨⟨h.1.1, hhigh⟩, ?_⟩
  rintro m ⟨hdvd, hle⟩
  exact h.2 ⟨hdvd, Nat.le_trans hlow hle⟩

/-! ## Rows of a layout -/

/-- The rows of the first plane are the given bytes apart, and the pixel stride of the layout keeps
this distance. -/
structure PackedLayout.Pitched (layout : PackedLayout) (plane : PlaneGeometry)
    (pixelsPerGroup : Nat) (width align stride : UInt32) : Prop where
  /-- The rows of the image do not overlap. -/
  width_le : width.toNat ≤ layout.pixelStride.toNat
  /-- The bytes of the pixel stride, rounded up to the alignment, are the distance. -/
  stride_least : IsLeast {bytes | max align.toNat 1 ∣ bytes ∧
    layout.pixelStride.toNat * plane.bytesPerGroup / pixelsPerGroup ≤ bytes} stride.toNat
  /-- The pixel stride is no longer than the distance. -/
  pixels_le : layout.pixelStride.toNat * plane.bytesPerGroup ≤ stride.toNat * pixelsPerGroup
  /-- One more pixel would be longer than the distance. -/
  lt_pixels : stride.toNat * pixelsPerGroup <
    (layout.pixelStride.toNat + 1) * plane.bytesPerGroup

/-- Whole pixels that a padded row holds stand for its distance. -/
theorem PackedLayout.pitched {layout : PackedLayout} {plane : PlaneGeometry} {pixelsPerGroup : Nat}
    {width align stride : UInt32} (hpixels : 0 < pixelsPerGroup) (hbytes : 0 < plane.bytesPerGroup)
    (hstride : stride.toNat = plane.paddedBytes pixelsPerGroup width align)
    (hpixelStride : layout.pixelStride.toNat =
      stride.toNat * pixelsPerGroup / plane.bytesPerGroup) :
    layout.Pitched plane pixelsPerGroup width align stride := by
  have hleast := plane.isLeast_paddedBytes pixelsPerGroup width align
  rw [← hstride] at hleast
  have hpixels_le : layout.pixelStride.toNat * plane.bytesPerGroup ≤
      stride.toNat * pixelsPerGroup := by
    rw [hpixelStride]
    exact Nat.div_mul_le_self _ _
  have hlt_pixels : stride.toNat * pixelsPerGroup <
      (layout.pixelStride.toNat + 1) * plane.bytesPerGroup := by
    rw [hpixelStride, Nat.mul_comm (_ + 1)]
    exact Nat.lt_mul_div_succ _ hbytes
  -- the row holds its groups, so the pixel stride does, and so do the bytes it stands for
  have hgroups : ceilDiv width.toNat pixelsPerGroup * pixelsPerGroup ≤
      layout.pixelStride.toNat := by
    rw [hpixelStride]
    exact mul_le_mul_div hbytes hleast.1.2
  have htight : ceilDiv width.toNat pixelsPerGroup * plane.bytesPerGroup ≤
      layout.pixelStride.toNat * plane.bytesPerGroup / pixelsPerGroup :=
    mul_le_mul_div hpixels hgroups
  have hback : layout.pixelStride.toNat * plane.bytesPerGroup / pixelsPerGroup ≤ stride.toNat :=
    Nat.div_le_of_le_mul (by rwa [Nat.mul_comm pixelsPerGroup])
  exact {
    width_le := Nat.le_trans (le_ceilDiv_mul width.toNat hpixels) hgroups
    stride_least := isLeast_multiple_of_between hleast htight hback
    pixels_le := hpixels_le
    lt_pixels := hlt_pixels }

namespace FormatGeometry

variable {geometry : FormatGeometry} {width height align : UInt32} {layout : PackedLayout}

/-- A packed layout keeps the row pitch of its first plane: the pixel stride covers the width, and
the least multiple of the alignment that holds its bytes is the stride in bytes, also where the
stride is not a whole number of pixels. -/
theorem pack?_pitched (h : geometry ∈ table)
    (hpack : geometry.pack? width height align = some layout) :
    ∃ plane record, geometry.planes[0]? = some plane ∧ layout.planes[0]? = some record ∧
      layout.Pitched plane geometry.pixelsPerGroup width align record.stride := by
  obtain ⟨⟨hpixels, -⟩, hunits⟩ := units_of_mem_table h
  obtain ⟨-, -, hexact, -, hpixelStride⟩ :=
    pack?_exact (fun plane hplane => (hunits plane hplane).2) hpack
  have hlength : layout.planes.length = geometry.planes.length := (pack?_eq_some hpack).1
  have hcount : 0 < geometry.planes.length := (planeCount_of_mem_table h).1
  have hplane := List.getElem?_eq_getElem hcount
  have hrecord := List.getElem?_eq_getElem (hlength ▸ hcount)
  refine ⟨_, _, hplane, hrecord, PackedLayout.pitched hpixels
    (hunits _ (List.getElem_mem hcount)).1 (hexact 0 _ _ hplane hrecord).stride_eq ?_⟩
  rw [hpixelStride, pixelsInStride_eq hplane hrecord]

/-- Pairs of pixels in four bytes with an odd alignment: rows of 15 bytes hold seven pixels and a
half, and the 14 bytes of the seven pixels round up to 15 again. -/
theorem pack?_pitched_half_pixel :
    (⟨"YUYV", .yuyv, 2, [⟨4, 1⟩]⟩ : FormatGeometry) ∈ table ∧
      (⟨"YUYV", .yuyv, 2, [⟨4, 1⟩]⟩ : FormatGeometry).pack? 5 1 5 =
        some ⟨[⟨15, 0, 15⟩], 7, 4096⟩ ∧
      (⟨[⟨15, 0, 15⟩], 7, 4096⟩ : PackedLayout).Pitched ⟨4, 1⟩ 2 5 5 15 := by
  have h : (⟨"YUYV", .yuyv, 2, [⟨4, 1⟩]⟩ : FormatGeometry) ∈ table := by decide
  have hpack : (⟨"YUYV", .yuyv, 2, [⟨4, 1⟩]⟩ : FormatGeometry).pack? 5 1 5 =
      some ⟨[⟨15, 0, 15⟩], 7, 4096⟩ := by decide
  obtain ⟨plane, record, hplane, hrecord, hpitched⟩ := pack?_pitched h hpack
  cases hplane
  cases hrecord
  exact ⟨h, hpack, hpitched⟩

end FormatGeometry

end PixelBuffer
