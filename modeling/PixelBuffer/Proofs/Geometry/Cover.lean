import Mathlib.Order.Bounds.Basic
import PixelBuffer.Proofs.Geometry

/-!
# The least that holds an image

A row has to hold the group of each of its pixels, and a plane the row of each line of the image.
`PlaneGeometry.HoldsRow` and `PlaneGeometry.HoldsLines` say so pixel by pixel and line by line,
without a formula. The geometry is the least that does: `PlaneGeometry.isLeast_holdsRow` and
`PlaneGeometry.isLeast_holdsLines` give it for one plane, and `FormatGeometry.isLeast_geometry` for
the formats of the table, with the limits of the words that store it.
-/

namespace PixelBuffer

/-! ## Groups that hold all items -/

/-- One more item needs the groups up to its own. -/
theorem ceilDiv_succ (n : Nat) {d : Nat} (hd : 0 < d) : ceilDiv (n + 1) d = n / d + 1 := by
  rw [ceilDiv, show n + 1 + d - 1 = n + d by omega, Nat.add_div_right n hd]

/-- Bytes hold the group of each item exactly when they hold all groups. -/
theorem forall_groups_le_iff {n d length bytes : Nat} (hd : 0 < d) :
    (∀ item < n, (item / d + 1) * length ≤ bytes) ↔ ceilDiv n d * length ≤ bytes := by
  constructor
  · intro hitems
    cases n with
    | zero =>
        rw [Nat.le_zero.mp (ceilDiv_le 0 hd), Nat.zero_mul]
        exact Nat.zero_le _
    | succ last =>
        rw [ceilDiv_succ last hd]
        exact hitems last (Nat.lt_succ_self last)
  · intro hgroups item hitem
    exact Nat.le_trans (Nat.mul_le_mul_right length (div_lt_ceilDiv hitem hd)) hgroups

/-- Groups hold each item exactly when they are no fewer than the groups that hold all items. -/
theorem forall_div_lt_iff {n d groups : Nat} (hd : 0 < d) :
    (∀ item < n, item / d < groups) ↔ ceilDiv n d ≤ groups := by
  simpa only [Nat.mul_one, Nat.succ_le_iff] using @forall_groups_le_iff n d 1 groups hd

/-! ## One plane -/

namespace PlaneGeometry

variable {pixelsPerGroup : Nat}

/-- The bytes are a multiple of the alignment and hold the group of each pixel of a row. -/
def HoldsRow (plane : PlaneGeometry) (pixelsPerGroup : Nat) (width align : UInt32) (bytes : Nat) :
    Prop :=
  max align.toNat 1 ∣ bytes ∧
    ∀ pixel < width.toNat, (pixel / pixelsPerGroup + 1) * plane.bytesPerGroup ≤ bytes

/-- The rows of the plane hold each line of an image. -/
def HoldsLines (plane : PlaneGeometry) (height : UInt32) (rows : Nat) : Prop :=
  ∀ line < height.toNat, line / plane.verticalSubsampling < rows

/-- The padded bytes of a row are the least that hold it. -/
theorem isLeast_holdsRow (plane : PlaneGeometry) (hpixels : 0 < pixelsPerGroup)
    (width align : UInt32) :
    IsLeast {bytes | plane.HoldsRow pixelsPerGroup width align bytes}
      (plane.paddedBytes pixelsPerGroup width align) := by
  simp only [HoldsRow, forall_groups_le_iff hpixels]
  exact plane.isLeast_paddedBytes pixelsPerGroup width align

/-- The rows of a plane are the least that hold an image. -/
theorem isLeast_holdsLines {plane : PlaneGeometry} (hsub : 0 < plane.verticalSubsampling)
    (height : UInt32) :
    IsLeast {rows | plane.HoldsLines height rows} (plane.rows height).toNat := by
  simp only [HoldsLines, forall_div_lt_iff hsub, toNat_rows hsub]
  exact isLeast_Ici

end PlaneGeometry

namespace FormatGeometry

variable {geometry : FormatGeometry} {index : Nat} {plane : PlaneGeometry}

/-- What a plane of a format takes for an image is the least that holds the image, in words that do
not wrap. -/
structure HoldsLeast (geometry : FormatGeometry) (index : Nat) (plane : PlaneGeometry)
    (width height : UInt32) : Prop where
  /-- The exact bytes of a row are the least that hold it. -/
  row_least : ∀ align, IsLeast
    {bytes | plane.HoldsRow geometry.pixelsPerGroup width align bytes}
    (plane.paddedBytes geometry.pixelsPerGroup width align)
  /-- A row is its exact bytes. -/
  row_eq : ∀ align row, geometry.rowBytes? width index align = some row ↔
    row.toNat = plane.paddedBytes geometry.pixelsPerGroup width align
  /-- A row is refused exactly when its bytes are too many for a word. -/
  row_none : ∀ align, geometry.rowBytes? width index align = none ↔
    2 ^ 32 - 1 < plane.paddedBytes geometry.pixelsPerGroup width align
  /-- The groups of a row, and the groups with their padding, are never refused. -/
  products : ∀ align,
    product64? (ceilDiv width.toNat geometry.pixelsPerGroup) plane.bytesPerGroup =
        some (ceilDiv width.toNat geometry.pixelsPerGroup * plane.bytesPerGroup) ∧
      product64? (ceilDiv (ceilDiv width.toNat geometry.pixelsPerGroup * plane.bytesPerGroup)
          (max align.toNat 1)) (max align.toNat 1) =
        some (plane.paddedBytes geometry.pixelsPerGroup width align)
  /-- The rows of the plane are the least that hold the image. -/
  rows_least : IsLeast {rows | plane.HoldsLines height rows} (geometry.rows height index).toNat
  /-- Rows any number of bytes apart do not wrap. -/
  bytes_eq : ∀ stride, stride.toNat * (geometry.rows height index).toNat < 2 ^ 64 ∧
    (geometry.planeBytes height index stride).toNat =
      stride.toNat * (geometry.rows height index).toNat
  /-- The exact size of the plane is the exact bytes of its rows. -/
  size_eq : ∀ align, plane.paddedSize geometry.pixelsPerGroup width height align =
    plane.paddedBytes geometry.pixelsPerGroup width align * (geometry.rows height index).toNat
  /-- The bytes of the plane are its exact size with unpadded rows. -/
  tight_eq : ∀ bytes, geometry.tightBytes? ⟨width, height⟩ index = some bytes ↔
    (geometry.rowBytes? width index 1).isSome ∧
      bytes.toNat = plane.paddedSize geometry.pixelsPerGroup width height 1
  /-- The bytes of the plane are refused exactly when its unpadded row is. -/
  tight_isSome : (geometry.tightBytes? ⟨width, height⟩ index).isSome ↔
    (geometry.rowBytes? width index 1).isSome

/-- A plane of a format of the table takes the least that holds an image. -/
theorem holdsLeast (h : geometry ∈ table) (hplane : geometry.planes[index]? = some plane)
    (width height : UInt32) : geometry.HoldsLeast index plane width height := by
  have hmem := List.mem_of_getElem? hplane
  obtain ⟨⟨hpixels, -⟩, hunits⟩ := units_of_mem_table h
  have hbytes := (groups_of_mem_table h).1 plane hmem
  have hsub := (hunits plane hmem).2
  exact {
    row_least := fun align => plane.isLeast_holdsRow hpixels width align
    row_eq := fun align row => by
      rw [rowBytes?_eq_word32? h hplane, word32?_eq_some_iff]
    row_none := fun align => by
      rw [rowBytes?_eq_word32? h hplane, word32?_eq_none_iff,
        show UInt32.size = 2 ^ 32 - 1 + 1 from rfl, Nat.add_one_le_iff]
    products := fun align => ⟨PlaneGeometry.product64?_groups hpixels hbytes,
      PlaneGeometry.product64?_paddedBytes hpixels hbytes⟩
    rows_least := by
      rw [rows_of_plane hplane]
      exact PlaneGeometry.isLeast_holdsLines hsub height
    bytes_eq := fun stride => ⟨toNat_mul_toNat_lt _ _, toNat_mul_toUInt64 _ _⟩
    size_eq := fun align => by
      rw [PlaneGeometry.paddedSize, rows_of_plane hplane, PlaneGeometry.toNat_rows hsub]
    tight_eq := fun bytes => by
      rw [tightBytes?_eq_some_iff h hplane, rowBytes?_isSome_iff h hplane]
    tight_isSome := by
      rw [tightBytes?_of_plane hplane, rowBytes?_isSome_iff h hplane, Option.isSome_iff_ne_none,
        ne_eq, PlaneGeometry.tightBytes?_eq_none_iff hpixels hbytes, Nat.not_le] }

/-- A plane that a format does not have takes nothing. -/
theorem geometry_past_last (hindex : geometry.planeCount ≤ index) (width height : UInt32) :
    (∀ align, geometry.rowBytes? width index align = none) ∧
      geometry.tightBytes? ⟨width, height⟩ index = none ∧ geometry.rows height index = 0 ∧
      ∀ stride, geometry.planeBytes height index stride = 0 := by
  have hplane : geometry.planes[index]? = none := List.getElem?_eq_none hindex
  have hrows : geometry.rows height index = 0 := by rw [rows, hplane]
  refine ⟨fun align => ?_, ?_, hrows, fun stride => ?_⟩
  · rw [rowBytes?, hplane, Option.bind_eq_bind, Option.bind_none]
  · rw [tightBytes?, hplane, Option.bind_eq_bind, Option.bind_none]
  · rw [planeBytes, hrows, show (0 : UInt32).toUInt64 = 0 from rfl, UInt64.mul_zero]

/-- All unpadded rows fit a word exactly when the format has each of them. -/
theorem forall_rowBytes?_isSome_iff (h : geometry ∈ table) (width : UInt32) :
    (∀ index < geometry.planeCount, (geometry.rowBytes? width index 1).isSome) ↔
      ∀ plane ∈ geometry.planes,
        plane.paddedBytes geometry.pixelsPerGroup width 1 < UInt32.size := by
  constructor
  · intro hrows
    rw [forall_paddedBytes_lt_iff h]
    exact hrows 0 (planeCount_of_mem_table h).1
  · intro hrows index hindex
    have hplane := List.getElem?_eq_getElem hindex
    exact (rowBytes?_isSome_iff h hplane width 1).mpr (hrows _ (List.mem_of_getElem? hplane))

/-- The geometry of a format of the table is the least that holds an image, and does not wrap. Each
plane takes the least bytes for a row and the least rows; a frame is the exact sum of its planes
with unpadded rows, and is refused exactly when one of these rows or the sum does not fit its word.
A plane that the format does not have takes nothing. -/
theorem isLeast_geometry (h : geometry ∈ table) (width height : UInt32) :
    let total := (geometry.planes.map
      (·.paddedSize geometry.pixelsPerGroup width height 1)).sum
    (∀ (index : Nat) plane, geometry.planes[index]? = some plane →
        geometry.HoldsLeast index plane width height) ∧
      (∀ frame, geometry.frameBytes? ⟨width, height⟩ = some frame ↔
        (∀ index < geometry.planeCount, (geometry.rowBytes? width index 1).isSome) ∧
          frame.toNat = total) ∧
      ((geometry.frameBytes? ⟨width, height⟩).isSome ↔
        (∀ index < geometry.planeCount, (geometry.rowBytes? width index 1).isSome) ∧
          total < 2 ^ 64) ∧
      ∀ index, geometry.planeCount ≤ index →
        (∀ align, geometry.rowBytes? width index align = none) ∧
          geometry.tightBytes? ⟨width, height⟩ index = none ∧ geometry.rows height index = 0 ∧
          ∀ stride, geometry.planeBytes height index stride = 0 := by
  intro total
  have hframe : ∀ frame, geometry.frameBytes? ⟨width, height⟩ = some frame ↔
      (∀ index < geometry.planeCount, (geometry.rowBytes? width index 1).isSome) ∧
        frame.toNat = total := fun frame => by
    rw [frameBytes?_eq_some_iff h, forall_rowBytes?_isSome_iff h, paddedBefore_planeCount]
  refine ⟨fun index plane hplane => holdsLeast h hplane width height, hframe, ?_,
    fun index hindex => geometry_past_last hindex width height⟩
  rw [Option.isSome_iff_exists]
  constructor
  · rintro ⟨frame, hsome⟩
    obtain ⟨hrows, hexact⟩ := (hframe frame).mp hsome
    exact ⟨hrows, hexact ▸ frame.toNat_lt⟩
  · rintro ⟨hrows, hlt⟩
    exact ⟨UInt64.ofNat total, (hframe _).mpr ⟨hrows, UInt64.toNat_ofNat_of_lt' hlt⟩⟩

/-- Pairs of pixels in two bytes: the longest even row fits its word, one more pixel needs a pair
that does not, and the frame of the longest row at the largest height does not fit 64 bits. -/
theorem isLeast_geometry_longest_row :
    (⟨"NV12", .nv12, 2, [⟨2, 1⟩, ⟨2, 2⟩]⟩ : FormatGeometry) ∈ table ∧
      (⟨"NV12", .nv12, 2, [⟨2, 1⟩, ⟨2, 2⟩]⟩ : FormatGeometry).rowBytes? 4294967294 0 0 =
        some 4294967294 ∧
      (⟨"NV12", .nv12, 2, [⟨2, 1⟩, ⟨2, 2⟩]⟩ : FormatGeometry).rowBytes? 4294967295 1 0 = none ∧
      (⟨"NV12", .nv12, 2, [⟨2, 1⟩, ⟨2, 2⟩]⟩ : FormatGeometry).rows 4294967295 1 = 2147483648 ∧
      ¬ ((⟨"NV12", .nv12, 2, [⟨2, 1⟩, ⟨2, 2⟩]⟩ : FormatGeometry).frameBytes?
        ⟨4294967294, 4294967295⟩).isSome := by
  have h : (⟨"NV12", .nv12, 2, [⟨2, 1⟩, ⟨2, 2⟩]⟩ : FormatGeometry) ∈ table := by decide
  have hluma := (isLeast_geometry h 4294967294 4294967295).1 0 ⟨2, 1⟩ rfl
  have hchroma := (isLeast_geometry h 4294967295 4294967295).1 1 ⟨2, 2⟩ rfl
  refine ⟨h, ?_, ?_, rfl, ?_⟩
  · rw [hluma.row_eq]
    decide
  · rw [hchroma.row_none]
    decide
  · rw [(isLeast_geometry h 4294967294 4294967295).2.2.1]
    decide

end FormatGeometry

end PixelBuffer
