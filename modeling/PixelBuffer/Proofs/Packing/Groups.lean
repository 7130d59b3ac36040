import Mathlib.Order.CompletePartialOrder
import Mathlib.Order.Interval.Set.Disjoint
import PixelBuffer.Proofs.Packing.Placement

/-!
# Where the pixels of packed planes lie

A plane stores a group of adjacent pixels in consecutive bytes, `PlaneGeometry.groupBytes`. In a
packed layout the bytes of every group lie within those of the plane's record, and two groups that
differ in plane, row or column have no byte in common. `FormatGeometry.pack?_holds` states this
together with how the planes lie; it rests on the exact numbers of `Proofs.Packing.Placement`, so
that no word in between wraps.
-/

namespace PixelBuffer

/-- The bytes of a plane that is placed. -/
def PlaneRecord.extent (record : PlaneRecord) : Set Nat :=
  Set.Ico record.offset.toNat (record.offset.toNat + record.size.toNat)

namespace PlaneGeometry

/-- The first byte of the group of the pixel at column `x` and row `y`. -/
def groupStart (plane : PlaneGeometry) (pixelsPerGroup : Nat) (record : PlaneRecord)
    (x y : Nat) : Nat :=
  record.offset.toNat + y / plane.verticalSubsampling * record.stride.toNat +
    x / pixelsPerGroup * plane.bytesPerGroup

/-- The bytes of the group of the pixel at column `x` and row `y`. -/
def groupBytes (plane : PlaneGeometry) (pixelsPerGroup : Nat) (record : PlaneRecord)
    (x y : Nat) : Set Nat :=
  Set.Ico (plane.groupStart pixelsPerGroup record x y)
    (plane.groupStart pixelsPerGroup record x y + plane.bytesPerGroup)

end PlaneGeometry

/-- Runs of bytes of which one ends before the other begins have none in common. -/
theorem disjoint_of_le {start stop start' stop' : Nat} (h : stop ≤ start' ∨ stop' ≤ start) :
    Disjoint (Set.Ico start stop) (Set.Ico start' stop') := by
  rw [Set.Ico_disjoint_Ico]
  omega

namespace PlaneRecord.Exact

variable {record : PlaneRecord} {plane : PlaneGeometry} {pixelsPerGroup : Nat}
  {width height align : UInt32} {x y x' y' : Nat}

/-- The stride is a multiple of the alignment. -/
theorem dvd_stride (h : record.Exact plane pixelsPerGroup width height align) :
    max align.toNat 1 ∣ record.stride.toNat := by
  rw [h.stride_eq]
  exact Nat.dvd_mul_left _ _

/-- A group ends within its row. -/
theorem column_le (h : record.Exact plane pixelsPerGroup width height align)
    (hgroup : 0 < pixelsPerGroup) (hx : x < width.toNat) :
    x / pixelsPerGroup * plane.bytesPerGroup + plane.bytesPerGroup ≤ record.stride.toNat := by
  have hcolumn := div_lt_ceilDiv hx hgroup
  have hround := le_ceilDiv_mul (ceilDiv width.toNat pixelsPerGroup * plane.bytesPerGroup)
    (show 0 < max align.toNat 1 by omega)
  calc x / pixelsPerGroup * plane.bytesPerGroup + plane.bytesPerGroup
      = (x / pixelsPerGroup + 1) * plane.bytesPerGroup := (Nat.succ_mul _ _).symm
    _ ≤ ceilDiv width.toNat pixelsPerGroup * plane.bytesPerGroup :=
        Nat.mul_le_mul_right _ hcolumn
    _ ≤ record.stride.toNat := by
        rw [h.stride_eq]
        exact hround

/-- A row ends within the plane. -/
theorem row_le (h : record.Exact plane pixelsPerGroup width height align)
    (hsub : 0 < plane.verticalSubsampling) (hy : y < height.toNat) :
    y / plane.verticalSubsampling * record.stride.toNat + record.stride.toNat ≤
      record.size.toNat := by
  have hrow := div_lt_ceilDiv hy hsub
  calc y / plane.verticalSubsampling * record.stride.toNat + record.stride.toNat
      = (y / plane.verticalSubsampling + 1) * record.stride.toNat := (Nat.succ_mul _ _).symm
    _ ≤ ceilDiv height.toNat plane.verticalSubsampling * record.stride.toNat :=
        Nat.mul_le_mul_right _ hrow
    _ = record.size.toNat := by rw [h.size_eq, Nat.mul_comm]

/-- The bytes of a group lie within those of the plane. -/
theorem groupBytes_subset (h : record.Exact plane pixelsPerGroup width height align)
    (hgroup : 0 < pixelsPerGroup) (hsub : 0 < plane.verticalSubsampling)
    (hx : x < width.toNat) (hy : y < height.toNat) :
    plane.groupBytes pixelsPerGroup record x y ⊆ record.extent := by
  have hcolumn := h.column_le hgroup hx
  have hrow := h.row_le hsub hy
  refine Set.Ico_subset_Ico ?_ ?_
  · rw [PlaneGeometry.groupStart, Nat.add_assoc]
    exact Nat.le_add_right _ _
  · unfold PlaneGeometry.groupStart
    omega

/-- A group of an earlier row ends before a group of a later one begins. -/
theorem groupStart_le_of_row_lt (h : record.Exact plane pixelsPerGroup width height align)
    (hgroup : 0 < pixelsPerGroup) (hx : x < width.toNat)
    (hrow : y / plane.verticalSubsampling < y' / plane.verticalSubsampling) :
    plane.groupStart pixelsPerGroup record x y + plane.bytesPerGroup ≤
      plane.groupStart pixelsPerGroup record x' y' := by
  have hcolumn := h.column_le hgroup hx
  have hrows : y / plane.verticalSubsampling * record.stride.toNat + record.stride.toNat ≤
      y' / plane.verticalSubsampling * record.stride.toNat := by
    rw [← Nat.succ_mul]
    exact Nat.mul_le_mul_right _ hrow
  unfold PlaneGeometry.groupStart
  omega

/-- A group further left in a row ends before a group further right begins. -/
theorem groupStart_le_of_column_lt
    (hrow : y / plane.verticalSubsampling = y' / plane.verticalSubsampling)
    (hcolumn : x / pixelsPerGroup < x' / pixelsPerGroup) :
    plane.groupStart pixelsPerGroup record x y + plane.bytesPerGroup ≤
      plane.groupStart pixelsPerGroup record x' y' := by
  have hcolumns : x / pixelsPerGroup * plane.bytesPerGroup + plane.bytesPerGroup ≤
      x' / pixelsPerGroup * plane.bytesPerGroup := by
    rw [← Nat.succ_mul]
    exact Nat.mul_le_mul_right _ hcolumn
  unfold PlaneGeometry.groupStart
  rw [hrow]
  omega

/-- Groups of one plane that differ in row or column have no byte in common. -/
theorem disjoint_groupBytes (h : record.Exact plane pixelsPerGroup width height align)
    (hgroup : 0 < pixelsPerGroup) (hx : x < width.toNat) (hx' : x' < width.toNat)
    (hne : y / plane.verticalSubsampling ≠ y' / plane.verticalSubsampling ∨
      x / pixelsPerGroup ≠ x' / pixelsPerGroup) :
    Disjoint (plane.groupBytes pixelsPerGroup record x y)
      (plane.groupBytes pixelsPerGroup record x' y') := by
  refine disjoint_of_le ?_
  rcases Nat.lt_trichotomy (y / plane.verticalSubsampling) (y' / plane.verticalSubsampling)
    with hrow | hrow | hrow
  · exact .inl (h.groupStart_le_of_row_lt hgroup hx hrow)
  · rcases Nat.lt_or_gt_of_ne (hne.resolve_left (not_not.mpr hrow)) with hcolumn | hcolumn
    · exact .inl (groupStart_le_of_column_lt hrow hcolumn)
    · exact .inr (groupStart_le_of_column_lt hrow.symm hcolumn)
  · exact .inr (h.groupStart_le_of_row_lt hgroup hx' hrow)

end PlaneRecord.Exact

/-- Records that lie one after another have no byte in common. -/
theorem Consecutive.disjoint_extent {start stop : Nat} {records : List PlaneRecord}
    (h : Consecutive start records stop) {index other : Nat} {record record' : PlaneRecord}
    (hne : index ≠ other) (hrecord : records[index]? = some record)
    (hrecord' : records[other]? = some record') : Disjoint record.extent record'.extent := by
  refine disjoint_of_le ?_
  rcases Nat.lt_or_gt_of_ne hne with hlt | hlt
  · exact .inl (h.stop_le_start hlt hrecord hrecord')
  · exact .inr (h.stop_le_start hlt hrecord' hrecord)

/-! ## Layouts -/

/-- What holds of a packed layout of an image. -/
structure PackedLayout.Holds (layout : PackedLayout) (geometry : FormatGeometry)
    (width height align : UInt32) : Prop where
  planes_length : layout.planes.length = geometry.planeCount
  /-- The first plane begins at byte zero. -/
  first : ∀ record, layout.planes[0]? = some record → record.offset.toNat = 0
  /-- A plane begins where the one before it ends. -/
  next : ∀ (index : Nat) record following, layout.planes[index]? = some record →
    layout.planes[index + 1]? = some following →
    following.offset.toNat = record.offset.toNat + record.size.toNat
  dvd_stride : ∀ record ∈ layout.planes, max align.toNat 1 ∣ record.stride.toNat
  dvd_offset : ∀ record ∈ layout.planes, max align.toNat 1 ∣ record.offset.toNat
  dvd_total : pageBytes ∣ layout.total.toNat
  /-- The total ends in the page after which the last plane ends. -/
  total_page : ∀ record, layout.planes.getLast? = some record →
    record.offset.toNat + record.size.toNat ≤ layout.total.toNat ∧
      layout.total.toNat < record.offset.toNat + record.size.toNat + pageBytes
  total_lt : layout.total.toNat < 2 ^ 32
  /-- Strides and sizes are the exact numbers, so that no sum or product before them wrapped. -/
  exact : ∀ (index : Nat) plane record, geometry.planes[index]? = some plane →
    layout.planes[index]? = some record →
    record.Exact plane geometry.pixelsPerGroup width height align
  /-- The pixel stride is the exact quotient of a product that fits 64 bits. -/
  pixelStride : ∀ plane record, geometry.planes[0]? = some plane →
    layout.planes[0]? = some record →
    record.stride.toNat * geometry.pixelsPerGroup < 2 ^ 64 ∧
      layout.pixelStride.toNat =
        record.stride.toNat * geometry.pixelsPerGroup / plane.bytesPerGroup
  /-- The group of every pixel lies within its plane and within the total. -/
  inside : ∀ (index : Nat) plane record x y, geometry.planes[index]? = some plane →
    layout.planes[index]? = some record → x < width.toNat → y < height.toNat →
    plane.groupBytes geometry.pixelsPerGroup record x y ⊆ record.extent ∧
      plane.groupBytes geometry.pixelsPerGroup record x y ⊆ Set.Iio layout.total.toNat
  /-- Groups that differ in plane, row or column have no byte in common. -/
  apart : ∀ (index other : Nat) plane plane' record record' x y x' y',
    geometry.planes[index]? = some plane → layout.planes[index]? = some record →
    geometry.planes[other]? = some plane' → layout.planes[other]? = some record' →
    x < width.toNat → y < height.toNat → x' < width.toNat → y' < height.toNat →
    (index ≠ other ∨ y / plane.verticalSubsampling ≠ y' / plane'.verticalSubsampling ∨
      x / geometry.pixelsPerGroup ≠ x' / geometry.pixelsPerGroup) →
    Disjoint (plane.groupBytes geometry.pixelsPerGroup record x y)
      (plane'.groupBytes geometry.pixelsPerGroup record' x' y')

namespace FormatGeometry

/-- Every packed layout of a format of the table lays out its planes one after another without
overlap, in aligned rows and whole pages, and holds every pixel of the image in each of them. -/
theorem pack?_holds {geometry : FormatGeometry} {width height align : UInt32}
    {layout : PackedLayout} (htable : geometry ∈ table)
    (h : geometry.pack? width height align = some layout) :
    layout.Holds geometry width height align := by
  obtain ⟨⟨hgroup, hfew⟩, hplanes⟩ := units_of_mem_table htable
  obtain ⟨hcount, hshort, hwithin⟩ := pack?_eq_some h
  obtain ⟨stop, hconsecutive, hexact, htotal, hstride⟩ :=
    pack?_exact (fun plane hplane => (hplanes plane hplane).2) h
  -- the plane of a record is known, since there are as many records as planes
  have hplane : ∀ record ∈ layout.planes, ∃ plane ∈ geometry.planes,
      record.Exact plane geometry.pixelsPerGroup width height align := by
    intro record hrecord
    obtain ⟨index, hindex⟩ := List.getElem?_of_mem hrecord
    have hlt : index < geometry.planes.length := by
      rw [show geometry.planes.length = layout.planes.length from hcount.symm]
      exact (List.getElem?_eq_some_iff.mp hindex).1
    exact ⟨_, List.getElem_mem hlt, hexact index _ record (List.getElem?_eq_getElem hlt) hindex⟩
  have hdvd : ∀ record ∈ layout.planes, max align.toNat 1 ∣ record.stride.toNat := by
    intro record hrecord
    obtain ⟨plane, -, hrecordExact⟩ := hplane record hrecord
    exact hrecordExact.dvd_stride
  have hinside : ∀ (index : Nat) plane record x y, geometry.planes[index]? = some plane →
      layout.planes[index]? = some record → x < width.toNat → y < height.toNat →
      plane.groupBytes geometry.pixelsPerGroup record x y ⊆ record.extent := by
    intro index plane record x y hindex hrecord hx hy
    exact (hexact index plane record hindex hrecord).groupBytes_subset hgroup
      (hplanes plane (List.mem_of_getElem? hindex)).2 hx hy
  constructor
  case planes_length => exact hcount
  case first => exact fun record hrecord => hconsecutive.first hrecord
  case next =>
    intro index record following hrecord hfollowing
    exact hconsecutive.next hrecord hfollowing
  case dvd_stride => exact hdvd
  case dvd_offset =>
    refine hconsecutive.dvd_offset (Nat.dvd_zero _) fun record hrecord => ?_
    obtain ⟨plane, -, hrecordExact⟩ := hplane record hrecord
    rw [hrecordExact.size_eq]
    exact Nat.dvd_mul_right_of_dvd hrecordExact.dvd_stride _
  case dvd_total =>
    rw [htotal]
    exact Nat.dvd_mul_left _ _
  case total_page =>
    intro record hlast
    rw [htotal, ← hconsecutive.stop_eq hlast]
    exact ⟨le_ceilDiv_mul stop (by decide), ceilDiv_mul_lt stop (by decide)⟩
  case total_lt => exact hshort
  case exact => exact hexact
  case pixelStride =>
    intro plane record hfirst hrecord
    have hword := record.stride.toNat_lt
    have hproduct := Nat.mul_le_mul_left record.stride.toNat hfew
    refine ⟨by omega, ?_⟩
    rw [hstride, pixelsInStride_eq hfirst hrecord]
  case inside =>
    intro index plane record x y hindex hrecord hx hy
    have hsubset := hinside index plane record x y hindex hrecord hx hy
    refine ⟨hsubset, fun byte hbyte => ?_⟩
    have hextent := hwithin record (List.mem_of_getElem? hrecord)
    exact Nat.lt_of_lt_of_le (hsubset hbyte).2 hextent
  case apart =>
    intro index other plane plane' record record' x y x' y' hindex hrecord hindex' hrecord' hx hy
      hx' hy' hne
    by_cases hsame : index = other
    · subst hsame
      cases hindex.symm.trans hindex'
      cases hrecord.symm.trans hrecord'
      exact (hexact index plane record hindex hrecord).disjoint_groupBytes hgroup hx hx'
        (hne.resolve_left (not_not.mpr rfl))
    · have hplane := hinside index plane record x y hindex hrecord hx hy
      have hplane' := hinside other plane' record' x' y' hindex' hrecord' hx' hy'
      exact (hconsecutive.disjoint_extent hsame hrecord hrecord').mono hplane hplane'

/-- The planes of an image of three by three pixels with rows of sixteen bytes: the chroma plane has
two rows of two groups, the second of which reaches beyond the image. -/
theorem pack?_holds_three_by_three : ∃ layout,
    (⟨"NV12", .nv12, 2, [⟨2, 1⟩, ⟨2, 2⟩]⟩ : FormatGeometry).pack? 3 3 16 = some layout ∧
      layout.planes = [⟨16, 0, 48⟩, ⟨16, 48, 32⟩] ∧
      layout.Holds ⟨"NV12", .nv12, 2, [⟨2, 1⟩, ⟨2, 2⟩]⟩ 3 3 16 := by
  have h : (⟨"NV12", .nv12, 2, [⟨2, 1⟩, ⟨2, 2⟩]⟩ : FormatGeometry).pack? 3 3 16 =
      some ⟨[⟨16, 0, 48⟩, ⟨16, 48, 32⟩], 16, 4096⟩ := by decide
  exact ⟨_, h, rfl, pack?_holds (by decide) h⟩

end FormatGeometry

end PixelBuffer
