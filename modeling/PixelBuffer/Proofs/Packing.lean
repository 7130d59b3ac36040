import Mathlib.Algebra.Group.Nat.Defs
import PixelBuffer.Geometry.Table
import PixelBuffer.Packing

/-!
# Where packed planes lie

Planes are placed one after another (`placePlanes?_cons_eq_some_iff`), so that each lies between the
start and the byte where the last one ends (`placePlanes?_eq_some`). That byte is far below 2^64
(`placePlanes?_stop_lt`): rounding it up to pages does not wrap, and a layout is packed exactly when
`FormatGeometry.pack?_eq_some_iff` says. It has a record for each plane, and every plane lies within
the bytes to reserve (`FormatGeometry.pack?_eq_some`).
-/

namespace PixelBuffer

/-! ## Rounding -/

/-- Rounding up to groups takes nothing away. -/
theorem le_ceilDiv_mul (n : Nat) {d : Nat} (hd : 0 < d) : n ≤ ceilDiv n d * d := by
  have hlt := Nat.lt_mul_div_succ (n + d - 1) hd
  rw [Nat.mul_add, Nat.mul_one, Nat.mul_comm] at hlt
  unfold ceilDiv
  omega

/-- Rounding up to groups adds less than a group. -/
theorem ceilDiv_mul_lt (n : Nat) {d : Nat} (hd : 0 < d) : ceilDiv n d * d < n + d := by
  have hle := Nat.div_mul_le_self (n + d - 1) d
  unfold ceilDiv
  omega

/-- Bytes that leave room for a page in 64 bits are rounded up to pages without wrapping. -/
theorem toNat_pagedBytes {bytes : UInt64} (h : bytes.toNat + pageBytes ≤ UInt64.size) :
    (pagedBytes bytes).toNat = ceilDiv bytes.toNat pageBytes * pageBytes := by
  have hround := ceilDiv_mul_lt bytes.toNat (show 0 < pageBytes by decide)
  have hproduct := Nat.lt_of_lt_of_le hround h
  have hpages : ceilDiv bytes.toNat pageBytes < UInt64.size :=
    Nat.lt_of_le_of_lt (Nat.le_mul_of_pos_right _ (by decide)) hproduct
  rw [pagedBytes, UInt64.toNat_mul, UInt64.toNat_ofNat_of_lt' hpages,
    UInt64.toNat_ofNat_of_lt' (by decide), Nat.mod_eq_of_lt hproduct]

/-- An alignment of zero counts as one. -/
theorem PlaneGeometry.rowBytes?_align_zero (plane : PlaneGeometry) (pixelsPerGroup : Nat)
    (width : UInt32) :
    plane.rowBytes? pixelsPerGroup width 0 = plane.rowBytes? pixelsPerGroup width 1 :=
  rfl

/-! ## Planes one after another -/

/-- A record places a plane at `start`, and `next` is where the plane ends. -/
structure PlaneRecord.Places (record : PlaneRecord) (plane : PlaneGeometry) (pixelsPerGroup : Nat)
    (width height align : UInt32) (start next : UInt64) : Prop where
  stride_eq : plane.rowBytes? pixelsPerGroup width align = some record.stride
  offset_eq : record.offset.toNat = start.toNat
  size_eq : record.size.toNat = (plane.bytes height record.stride).toNat
  next_eq : next.toNat = start.toNat + record.size.toNat

section Placing

variable {pixelsPerGroup : Nat} {width height align : UInt32} {planes : List PlaneGeometry}
  {start stop : UInt64} {records : List PlaneRecord}

/-- Planes are placed by placing the first, and the others from the end of it on. -/
theorem placePlanes?_cons_eq_some_iff {plane : PlaneGeometry} :
    placePlanes? pixelsPerGroup width height align (plane :: planes) start =
        some (records, stop) ↔
      ∃ record placed next, records = record :: placed ∧
        record.Places plane pixelsPerGroup width height align start next ∧
        placePlanes? pixelsPerGroup width height align planes next = some (placed, stop) := by
  constructor
  · intro h
    simp only [placePlanes?, bind, pure, Option.bind_eq_some_iff] at h
    obtain ⟨stride, hstride, offset, hoffset, size, hsize, next, hnext, ⟨placed, last⟩, hrest, h⟩ := h
    dsimp only at h
    cases h
    rw [word32?_eq_some_iff] at hoffset hsize
    rw [word64?_eq_some_iff, ← hsize] at hnext
    exact ⟨⟨stride, offset, size⟩, placed, next, rfl, ⟨hstride, hoffset, hsize, hnext⟩, hrest⟩
  · intro h
    obtain ⟨record, placed, next, rfl, hplaces, hrest⟩ := h
    have hnext := hplaces.next_eq
    rw [hplaces.size_eq] at hnext
    simp only [placePlanes?, hplaces.stride_eq, bind, word32?_eq_some_iff.mpr hplaces.offset_eq,
      word32?_eq_some_iff.mpr hplaces.size_eq, word64?_eq_some_iff.mpr hnext, hrest,
      Option.bind_some]
    rfl

/-- Planes that are placed are as many as were given, and each lies between the start and the end of
the last one. -/
theorem placePlanes?_eq_some
    (h : placePlanes? pixelsPerGroup width height align planes start = some (records, stop)) :
    start.toNat ≤ stop.toNat ∧ records.length = planes.length ∧ ∀ record ∈ records,
      start.toNat ≤ record.offset.toNat ∧
        record.offset.toNat + record.size.toNat ≤ stop.toNat := by
  induction planes generalizing start records with
  | nil =>
      cases h
      exact ⟨Nat.le_refl _, rfl, by simp⟩
  | cons plane rest ih =>
      obtain ⟨first, placed, next, rfl, hplaces, hrest⟩ := placePlanes?_cons_eq_some_iff.mp h
      have hoffset := hplaces.offset_eq
      have hnext := hplaces.next_eq
      -- the rest is placed from the end of this plane on
      obtain ⟨hle, hlength, hall⟩ := ih hrest
      refine ⟨by omega, by simp [hlength], fun record hm => ?_⟩
      rcases List.mem_cons.mp hm with rfl | hm
      · omega
      · have hrecord := hall record hm
        omega

/-- The last plane begins and is as large as 32 bits allow, so that planes end within 33 bits. -/
theorem placePlanes?_stop_lt
    (h : placePlanes? pixelsPerGroup width height align planes start = some (records, stop))
    (hstart : start.toNat < 2 * UInt32.size) : stop.toNat < 2 * UInt32.size := by
  induction planes generalizing start records with
  | nil =>
      cases h
      exact hstart
  | cons plane rest ih =>
      obtain ⟨record, placed, next, rfl, hplaces, hrest⟩ := placePlanes?_cons_eq_some_iff.mp h
      have hoffset := hplaces.offset_eq
      have hnext := hplaces.next_eq
      have hbegin := record.offset.toNat_lt_size
      have hlength := record.size.toNat_lt_size
      exact ih hrest (by omega)

end Placing

/-- Without an alignment, planes are placed as with an alignment of one byte. -/
theorem placePlanes?_align_zero (pixelsPerGroup : Nat) (width height : UInt32)
    (planes : List PlaneGeometry) (start : UInt64) :
    placePlanes? pixelsPerGroup width height 0 planes start =
      placePlanes? pixelsPerGroup width height 1 planes start := by
  induction planes generalizing start with
  | nil => rfl
  | cons plane rest ih =>
      simp only [placePlanes?, PlaneGeometry.rowBytes?_align_zero, ih]

namespace FormatGeometry

variable {geometry : FormatGeometry} {width height align : UInt32} {layout : PackedLayout}

/-- Without an alignment, planes are packed as with an alignment of one byte. -/
theorem pack?_align_zero (geometry : FormatGeometry) (width height : UInt32) :
    geometry.pack? width height 0 = geometry.pack? width height 1 := by
  unfold pack?
  rw [placePlanes?_align_zero]

/-- A layout is packed exactly when its records are the planes placed from byte zero on, its total is
the byte where the last one ends rounded up to pages, and that fits 32 bits, as do the pixels in the
stride. -/
theorem pack?_eq_some_iff :
    geometry.pack? width height align = some layout ↔
      ∃ stop, placePlanes? geometry.pixelsPerGroup width height align geometry.planes 0 =
          some (layout.planes, stop) ∧
        layout.total.toNat = ceilDiv stop.toNat pageBytes * pageBytes ∧
        layout.total.toNat < UInt32.size ∧
        layout.pixelStride.toNat = geometry.pixelsInStride layout.planes := by
  have hpaged : ∀ {records : List PlaneRecord} {stop : UInt64},
      placePlanes? geometry.pixelsPerGroup width height align geometry.planes 0 =
          some (records, stop) →
        (pagedBytes stop).toNat = ceilDiv stop.toNat pageBytes * pageBytes := by
    intro records stop hplaced
    have hstop := placePlanes?_stop_lt hplaced (by decide)
    exact toNat_pagedBytes (Nat.le_of_lt (Nat.lt_trans (Nat.add_lt_add_right hstop _) (by decide)))
  constructor
  · intro h
    simp only [pack?, bind, Option.bind_eq_some_iff] at h
    obtain ⟨⟨records, stop⟩, hplaced, h⟩ := h
    dsimp only at h
    split at h
    · rename_i hfits
      obtain ⟨stride, hstride, h⟩ := Option.bind_eq_some_iff.mp h
      cases h
      exact ⟨stop, hplaced, hpaged hplaced, hfits, word32?_eq_some_iff.mp hstride⟩
    · cases h
  · intro h
    obtain ⟨stop, hplaced, htotal, hfits, hpixels⟩ := h
    have hequal : pagedBytes stop = layout.total := by
      rw [← UInt64.toNat_inj, hpaged hplaced, htotal]
    rw [pack?, hplaced, Option.bind_eq_bind, Option.bind_some]
    dsimp only
    rw [hequal, if_pos hfits, word32?_eq_some_iff.mpr hpixels]
    rfl

/-- A packed layout has a record for each plane, within the bytes to reserve, and these fit 32
bits. -/
theorem pack?_eq_some (h : geometry.pack? width height align = some layout) :
    layout.planes.length = geometry.planeCount ∧ layout.total.toNat < 2 ^ 32 ∧
      ∀ record ∈ layout.planes,
        record.offset.toNat + record.size.toNat ≤ layout.total.toNat := by
  obtain ⟨stop, hplaced, htotal, hfits, -⟩ := pack?_eq_some_iff.mp h
  obtain ⟨-, hlength, hall⟩ := placePlanes?_eq_some hplaced
  have hround := le_ceilDiv_mul stop.toNat (show 0 < pageBytes by decide)
  refine ⟨hlength, hfits, fun record hm => ?_⟩
  have hrecord := hall record hm
  omega

/-- A format of the table has planes, and no more than three. -/
theorem planeCount_of_mem_table (h : geometry ∈ table) :
    0 < geometry.planeCount ∧ geometry.planeCount ≤ 3 := by
  have hall : ∀ known ∈ table, 0 < known.planeCount ∧ known.planeCount ≤ 3 := by decide
  exact hall geometry h

/-- A known format has planes, and no more than three. -/
theorem planeCount_of_ofFormat? {format : FourCC} (h : ofFormat? format = some geometry) :
    0 < geometry.planeCount ∧ geometry.planeCount ≤ 3 :=
  planeCount_of_mem_table (List.mem_of_find?_eq_some h)

end FormatGeometry

end PixelBuffer
