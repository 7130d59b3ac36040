import Mathlib.Algebra.GroupWithZero.Nat
import PixelBuffer.Proofs.Packing

/-!
# The exact numbers of packed planes

Planes are packed in machine words. What the words hold are the exact naturals: a stride is the
least multiple of the alignment that holds the groups of a row, a size is the stride for every row
(`PlaneRecord.Exact`), and each plane begins where the one before it ends (`Consecutive`).
`FormatGeometry.pack?_exact` states this for a layout, whose total is the end of the last plane
rounded up to pages.
-/

namespace PixelBuffer

/-! ## Rounding -/

/-- An item is in one of the groups that hold all items. -/
theorem div_lt_ceilDiv {item n d : Nat} (hitem : item < n) (hd : 0 < d) :
    item / d < ceilDiv n d := by
  have hmono : (item + d) / d ≤ (n + d - 1) / d := Nat.div_le_div_right (by omega)
  rw [Nat.add_div_right item hd] at hmono
  exact hmono

/-- There are no more groups than items. -/
theorem ceilDiv_le (n : Nat) {d : Nat} (hd : 0 < d) : ceilDiv n d ≤ n := by
  refine (Nat.div_le_iff_le_mul_add_pred hd).mpr ?_
  have hle := Nat.le_mul_of_pos_left n hd
  omega

/-- The product of two 32-bit words fits 64 bits. -/
theorem toNat_mul_toNat_lt (a b : UInt32) : a.toNat * b.toNat < 2 ^ 64 :=
  calc a.toNat * b.toNat
    _ < 2 ^ 32 * 2 ^ 32 := Nat.mul_lt_mul'' a.toNat_lt b.toNat_lt
    _ = 2 ^ 64 := by decide

/-- The product of two 32-bit words does not wrap in 64 bits. -/
theorem toNat_mul_toUInt64 (a b : UInt32) :
    (a.toUInt64 * b.toUInt64).toNat = a.toNat * b.toNat := by
  rw [UInt64.toNat_mul, UInt32.toNat_toUInt64, UInt32.toNat_toUInt64,
    Nat.mod_eq_of_lt (toNat_mul_toNat_lt a b)]

/-! ## One plane -/

namespace PlaneGeometry

variable {plane : PlaneGeometry} {pixelsPerGroup : Nat} {width height align stride : UInt32}

/-- Bytes of one row as an exact number: the groups of the row, rounded up to the alignment. -/
def paddedBytes (plane : PlaneGeometry) (pixelsPerGroup : Nat) (width align : UInt32) : Nat :=
  ceilDiv (ceilDiv width.toNat pixelsPerGroup * plane.bytesPerGroup) (max align.toNat 1) *
    max align.toNat 1

/-- The bytes of a row that fit a word are the exact number. -/
theorem rowBytes?_exact (h : plane.rowBytes? pixelsPerGroup width align = some stride) :
    stride.toNat = plane.paddedBytes pixelsPerGroup width align := by
  have hproduct : ∀ {count length product : Nat},
      product64? count length = some product → product = count * length := by
    intro count length product hsome
    unfold product64? at hsome
    split at hsome
    · exact (Option.some.inj hsome).symm
    · cases hsome
  simp only [rowBytes?, bind, Option.bind_eq_some_iff] at h
  obtain ⟨tight, htight, padded, hpadded, hword⟩ := h
  rw [word32?_eq_some_iff.mp hword, hproduct hpadded, hproduct htight]
  rfl

/-- The rows of a plane are no more than those of the image, so that they fit a word. -/
theorem toNat_rows (hsub : 0 < plane.verticalSubsampling) :
    (plane.rows height).toNat = ceilDiv height.toNat plane.verticalSubsampling := by
  unfold rows
  rw [UInt32.toNat_ofNat', Nat.mod_eq_of_lt]
  exact Nat.lt_of_le_of_lt (ceilDiv_le height.toNat hsub) height.toNat_lt

/-- The bytes of a plane are the exact product of stride and rows. -/
theorem toNat_bytes (hsub : 0 < plane.verticalSubsampling) :
    (plane.bytes height stride).toNat =
      stride.toNat * ceilDiv height.toNat plane.verticalSubsampling := by
  rw [bytes, toNat_mul_toUInt64, toNat_rows hsub]

end PlaneGeometry

/-- A record holds the exact stride and size of a plane. -/
structure PlaneRecord.Exact (record : PlaneRecord) (plane : PlaneGeometry) (pixelsPerGroup : Nat)
    (width height align : UInt32) : Prop where
  stride_eq : record.stride.toNat = plane.paddedBytes pixelsPerGroup width align
  size_eq : record.size.toNat =
    record.stride.toNat * ceilDiv height.toNat plane.verticalSubsampling

/-! ## Planes one after another -/

/-- The records lie one after another: the first begins at `start`, each next one where the one
before it ends, and the last one ends at `stop`. -/
inductive Consecutive : (start : Nat) → List PlaneRecord → (stop : Nat) → Prop
  | nil (start : Nat) : Consecutive start [] start
  | cons {start stop : Nat} {record : PlaneRecord} {rest : List PlaneRecord}
      (offset_eq : record.offset.toNat = start)
      (following : Consecutive (start + record.size.toNat) rest stop) :
      Consecutive start (record :: rest) stop

namespace Consecutive

variable {start stop : Nat} {records : List PlaneRecord}

/-- No record begins before the start. -/
theorem start_le (h : Consecutive start records stop) {index : Nat} {record : PlaneRecord}
    (hrecord : records[index]? = some record) : start ≤ record.offset.toNat := by
  induction h generalizing index with
  | nil => simp at hrecord
  | cons offset_eq following ih =>
      cases index with
      | zero =>
          cases hrecord
          exact Nat.le_of_eq offset_eq.symm
      | succ index => exact Nat.le_trans (Nat.le_add_right _ _) (ih hrecord)

/-- The first record begins at the start. -/
theorem first (h : Consecutive start records stop) {record : PlaneRecord}
    (hrecord : records[0]? = some record) : record.offset.toNat = start := by
  cases h with
  | nil => simp at hrecord
  | cons offset_eq =>
      cases hrecord
      exact offset_eq

/-- A record ends where the next one begins. -/
theorem next (h : Consecutive start records stop) {index : Nat} {record following : PlaneRecord}
    (hrecord : records[index]? = some record)
    (hfollowing : records[index + 1]? = some following) :
    following.offset.toNat = record.offset.toNat + record.size.toNat := by
  induction h generalizing index with
  | nil => simp at hrecord
  | cons offset_eq rest ih =>
      cases index with
      | zero =>
          cases hrecord
          rw [rest.first hfollowing, offset_eq]
      | succ index => exact ih hrecord hfollowing

/-- A record ends before any later one begins. -/
theorem stop_le_start (h : Consecutive start records stop) {index later : Nat}
    {record other : PlaneRecord} (hlt : index < later) (hrecord : records[index]? = some record)
    (hother : records[later]? = some other) :
    record.offset.toNat + record.size.toNat ≤ other.offset.toNat := by
  induction h generalizing index later with
  | nil => simp at hrecord
  | cons offset_eq following ih =>
      cases later with
      | zero => exact absurd hlt (Nat.not_lt_zero _)
      | succ later =>
          cases index with
          | zero =>
              cases hrecord
              rw [offset_eq]
              exact following.start_le hother
          | succ index => exact ih (Nat.lt_of_succ_lt_succ hlt) hrecord hother

/-- The last record ends at the stop. -/
theorem stop_eq (h : Consecutive start records stop) {record : PlaneRecord}
    (hlast : records.getLast? = some record) :
    stop = record.offset.toNat + record.size.toNat := by
  induction h with
  | nil => simp at hlast
  | cons offset_eq following ih =>
      cases following with
      | nil =>
          rw [List.getLast?_singleton, Option.some.injEq] at hlast
          rw [← hlast, offset_eq]
      | cons next_eq rest =>
          rw [List.getLast?_cons_cons] at hlast
          exact ih hlast

/-- A record begins where the records before it end together. -/
theorem offset_eq_sum (h : Consecutive start records stop) {index : Nat} {record : PlaneRecord}
    (hrecord : records[index]? = some record) :
    record.offset.toNat = start + ((records.take index).map (·.size.toNat)).sum := by
  induction h generalizing index with
  | nil => simp at hrecord
  | cons offset_eq following ih =>
      cases index with
      | zero =>
          cases hrecord
          simpa using offset_eq
      | succ index =>
          rw [ih hrecord, List.take_succ_cons, List.map_cons, List.sum_cons, Nat.add_assoc]

/-- The stop is where all records end together. -/
theorem stop_eq_sum (h : Consecutive start records stop) :
    stop = start + (records.map (·.size.toNat)).sum := by
  induction h with
  | nil => simp
  | cons offset_eq following ih =>
      rw [ih, List.map_cons, List.sum_cons, Nat.add_assoc]

/-- When the start and all sizes are multiples of a number, so are all offsets. -/
theorem dvd_offset (h : Consecutive start records stop) {step : Nat} (hstart : step ∣ start)
    (hsizes : ∀ record ∈ records, step ∣ record.size.toNat) :
    ∀ record ∈ records, step ∣ record.offset.toNat := by
  induction h with
  | nil => simp
  | cons offset_eq following ih =>
      intro record hrecord
      rcases List.mem_cons.mp hrecord with rfl | hrest
      · rwa [offset_eq]
      · have hnext := Nat.dvd_add hstart (hsizes _ List.mem_cons_self)
        exact ih hnext (fun other hother => hsizes other (List.mem_cons_of_mem _ hother)) record
          hrest

end Consecutive

/-- Planes that are placed have their exact strides and sizes, and lie one after another. -/
theorem placePlanes?_exact {pixelsPerGroup : Nat} {width height align : UInt32}
    {planes : List PlaneGeometry} {start stop : UInt64} {records : List PlaneRecord}
    (hsub : ∀ plane ∈ planes, 0 < plane.verticalSubsampling)
    (h : placePlanes? pixelsPerGroup width height align planes start = some (records, stop)) :
    Consecutive start.toNat records stop.toNat ∧
      ∀ (index : Nat) plane record, planes[index]? = some plane →
        records[index]? = some record →
        record.Exact plane pixelsPerGroup width height align := by
  induction planes generalizing start records with
  | nil =>
      cases h
      exact ⟨.nil _, by simp⟩
  | cons plane rest ih =>
      obtain ⟨first, placed, next, rfl, hplaces, hrest⟩ := placePlanes?_cons_eq_some_iff.mp h
      obtain ⟨hconsecutive, hexact⟩ :=
        ih (fun other hother => hsub other (List.mem_cons_of_mem _ hother)) hrest
      rw [hplaces.next_eq] at hconsecutive
      refine ⟨.cons hplaces.offset_eq hconsecutive, fun index other record hother hrecord => ?_⟩
      cases index with
      | zero =>
          cases hother
          cases hrecord
          exact ⟨PlaneGeometry.rowBytes?_exact hplaces.stride_eq,
            hplaces.size_eq.trans (PlaneGeometry.toNat_bytes (hsub plane List.mem_cons_self))⟩
      | succ index => exact hexact index other record hother hrecord

/-! ## Layouts -/

namespace FormatGeometry

variable {geometry : FormatGeometry} {width height align : UInt32} {layout : PackedLayout}

/-- A format of the table groups one or two pixels, gives bytes to a group in each plane, and has a
row of each plane for some rows of the image. -/
theorem units_of_mem_table (h : geometry ∈ table) :
    (0 < geometry.pixelsPerGroup ∧ geometry.pixelsPerGroup ≤ 2) ∧
      ∀ plane ∈ geometry.planes, 0 < plane.bytesPerGroup ∧ 0 < plane.verticalSubsampling := by
  have hall : ∀ known ∈ table, (0 < known.pixelsPerGroup ∧ known.pixelsPerGroup ≤ 2) ∧
      ∀ plane ∈ known.planes, 0 < plane.bytesPerGroup ∧ 0 < plane.verticalSubsampling := by
    decide
  exact hall geometry h

/-- The pixel stride is read off the first plane and its record. -/
theorem pixelsInStride_eq {records : List PlaneRecord} {plane : PlaneGeometry}
    {record : PlaneRecord} (hplane : geometry.planes[0]? = some plane)
    (hrecord : records[0]? = some record) :
    geometry.pixelsInStride records =
      record.stride.toNat * geometry.pixelsPerGroup / plane.bytesPerGroup := by
  obtain ⟨name, format, pixelsPerGroup, planes⟩ := geometry
  cases planes with
  | nil => simp at hplane
  | cons first _ =>
      cases records with
      | nil => simp at hrecord
      | cons firstRecord _ =>
          cases hplane
          cases hrecord
          rfl

/-- The records of a packed layout lie one after another from byte zero, each with the exact stride
and size of its plane. The total is the end of the last one rounded up to pages, and the pixel
stride is the exact quotient. -/
theorem pack?_exact (hsub : ∀ plane ∈ geometry.planes, 0 < plane.verticalSubsampling)
    (h : geometry.pack? width height align = some layout) :
    ∃ stop, Consecutive 0 layout.planes stop ∧
      (∀ (index : Nat) plane record, geometry.planes[index]? = some plane →
        layout.planes[index]? = some record →
        record.Exact plane geometry.pixelsPerGroup width height align) ∧
      layout.total.toNat = ceilDiv stop pageBytes * pageBytes ∧
      layout.pixelStride.toNat = geometry.pixelsInStride layout.planes := by
  obtain ⟨stop, hplaced, htotal, -, hpixels⟩ := pack?_eq_some_iff.mp h
  obtain ⟨hconsecutive, hexact⟩ := placePlanes?_exact hsub hplaced
  exact ⟨stop.toNat, hconsecutive, hexact, htotal, hpixels⟩

end FormatGeometry

end PixelBuffer
