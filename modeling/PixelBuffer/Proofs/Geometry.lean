import Mathlib.Order.Bounds.Defs
import Mathlib.Order.Monotone.Basic
import PixelBuffer.Proofs.Packing.Placement

/-!
# When rows, planes and frames fit their words

The bytes of a row, a plane and a frame pass several checks on the way to their words. Over exact
naturals each has one condition: a row has a word exactly when its padded bytes fit one
(`PlaneGeometry.rowBytes?_eq_word32?`), a plane exactly when its row has one
(`PlaneGeometry.tightBytes?_eq_some_iff`), and a frame exactly when all rows have one and the sum of
the planes fits (`FormatGeometry.frameBytes?_eq_some_iff`). `FormatGeometry.paddedBefore` is where
each plane begins when the planes lie one after another.
-/

namespace PixelBuffer

/-! ## Rounding -/

/-- The groups that hold all items have the least multiple of their length that is not below the
number of items. -/
theorem isLeast_ceilDiv_mul (n : Nat) {d : Nat} (hd : 0 < d) :
    IsLeast {m | d ∣ m ∧ n ≤ m} (ceilDiv n d * d) := by
  refine ⟨⟨Nat.dvd_mul_left d _, le_ceilDiv_mul n hd⟩, ?_⟩
  rintro m ⟨⟨groups, rfl⟩, hn⟩
  have hlt : ceilDiv n d * d < (groups + 1) * d := by
    have hround := ceilDiv_mul_lt n hd
    rw [Nat.succ_mul, Nat.mul_comm groups d]
    omega
  rw [Nat.mul_comm d groups]
  exact Nat.mul_le_mul_right d (Nat.lt_succ_iff.mp (Nat.lt_of_mul_lt_mul_right hlt))

/-- More items need no fewer groups. -/
theorem ceilDiv_le_ceilDiv {n m : Nat} (h : n ≤ m) (d : Nat) : ceilDiv n d ≤ ceilDiv m d :=
  Nat.div_le_div_right (by omega)

/-- A product that fits 64 bits is not refused. -/
theorem product64?_eq_some {count length : Nat} (h : count * length < UInt64.size) :
    product64? count length = some (count * length) :=
  if_pos h

/-! ## Rows and planes -/

namespace PlaneGeometry

variable {plane other : PlaneGeometry} {pixelsPerGroup : Nat} {width height align : UInt32}

/-- Bytes of the plane as an exact number: its padded rows. -/
def paddedSize (plane : PlaneGeometry) (pixelsPerGroup : Nat) (width height align : UInt32) : Nat :=
  plane.paddedBytes pixelsPerGroup width align * ceilDiv height.toNat plane.verticalSubsampling

/-- The bytes of a row are the least multiple of the alignment that holds its groups. -/
theorem isLeast_paddedBytes (plane : PlaneGeometry) (pixelsPerGroup : Nat)
    (width align : UInt32) :
    IsLeast {bytes | max align.toNat 1 ∣ bytes ∧
        ceilDiv width.toNat pixelsPerGroup * plane.bytesPerGroup ≤ bytes}
      (plane.paddedBytes pixelsPerGroup width align) :=
  isLeast_ceilDiv_mul _ (by omega)

/-- An alignment of at most one byte pads nothing. -/
theorem paddedBytes_align_le_one (plane : PlaneGeometry) (pixelsPerGroup : Nat) (width : UInt32)
    (halign : align.toNat ≤ 1) :
    plane.paddedBytes pixelsPerGroup width align = plane.paddedBytes pixelsPerGroup width 1 := by
  unfold paddedBytes
  rw [Nat.max_eq_right halign, Nat.max_eq_right (show (1 : UInt32).toNat ≤ 1 by decide)]

/-- Larger groups need no shorter rows. -/
theorem paddedBytes_le (h : plane.bytesPerGroup ≤ other.bytesPerGroup) (pixelsPerGroup : Nat)
    (width align : UInt32) :
    plane.paddedBytes pixelsPerGroup width align ≤ other.paddedBytes pixelsPerGroup width align :=
  Nat.mul_le_mul_right _ (ceilDiv_le_ceilDiv (Nat.mul_le_mul_left _ h) _)

/-- The groups of a row come to less than 34 bits. -/
theorem groups_lt (hpixels : 0 < pixelsPerGroup) (hbytes : plane.bytesPerGroup ≤ 4) :
    ceilDiv width.toNat pixelsPerGroup * plane.bytesPerGroup < 2 ^ 34 :=
  calc ceilDiv width.toNat pixelsPerGroup * plane.bytesPerGroup
    _ ≤ ceilDiv width.toNat pixelsPerGroup * 4 := Nat.mul_le_mul_left _ hbytes
    _ < 2 ^ 32 * 4 := Nat.mul_lt_mul_of_pos_right
      (Nat.lt_of_le_of_lt (ceilDiv_le _ hpixels) width.toNat_lt) (by decide)
    _ = 2 ^ 34 := by decide

/-- The groups of a row are not refused. -/
theorem product64?_groups (hpixels : 0 < pixelsPerGroup) (hbytes : plane.bytesPerGroup ≤ 4) :
    product64? (ceilDiv width.toNat pixelsPerGroup) plane.bytesPerGroup =
      some (ceilDiv width.toNat pixelsPerGroup * plane.bytesPerGroup) :=
  product64?_eq_some (Nat.lt_trans (groups_lt hpixels hbytes) (by decide))

/-- The groups of a row with their padding are not refused. -/
theorem product64?_paddedBytes (hpixels : 0 < pixelsPerGroup) (hbytes : plane.bytesPerGroup ≤ 4) :
    product64? (ceilDiv (ceilDiv width.toNat pixelsPerGroup * plane.bytesPerGroup)
        (max align.toNat 1)) (max align.toNat 1) =
      some (plane.paddedBytes pixelsPerGroup width align) := by
  have htight : ceilDiv width.toNat pixelsPerGroup * plane.bytesPerGroup < 2 ^ 34 :=
    groups_lt hpixels hbytes
  have hpadded := ceilDiv_mul_lt (ceilDiv width.toNat pixelsPerGroup * plane.bytesPerGroup)
    (show 0 < max align.toNat 1 by omega)
  have halign := align.toNat_lt
  refine product64?_eq_some ?_
  rw [show UInt64.size = 2 ^ 64 from rfl]
  omega

/-- Of a row, only the word can be refused. -/
theorem rowBytes?_eq_word32? (hpixels : 0 < pixelsPerGroup) (hbytes : plane.bytesPerGroup ≤ 4) :
    plane.rowBytes? pixelsPerGroup width align =
      word32? (plane.paddedBytes pixelsPerGroup width align) := by
  unfold rowBytes?
  rw [product64?_groups hpixels hbytes, Option.bind_eq_bind, Option.bind_some]
  dsimp only
  rw [product64?_paddedBytes hpixels hbytes, Option.bind_some]

/-- The bytes of a plane are its rows without padding, and are refused exactly when a row does not
fit its word. -/
theorem tightBytes?_eq_some_iff (hpixels : 0 < pixelsPerGroup) (hbytes : plane.bytesPerGroup ≤ 4)
    (hsub : 0 < plane.verticalSubsampling) {size : Size} {bytes : UInt64} :
    plane.tightBytes? pixelsPerGroup size = some bytes ↔
      plane.paddedBytes pixelsPerGroup size.width 1 < UInt32.size ∧
        bytes.toNat = plane.paddedSize pixelsPerGroup size.width size.height 1 := by
  unfold tightBytes? paddedSize
  rw [rowBytes?_eq_word32? hpixels hbytes, Option.map_eq_some_iff]
  constructor
  · rintro ⟨stride, hstride, rfl⟩
    rw [word32?_eq_some_iff] at hstride
    rw [toNat_bytes hsub, ← hstride]
    exact ⟨stride.toNat_lt, rfl⟩
  · rintro ⟨hfits, hexact⟩
    have hstride := UInt32.toNat_ofNat_of_lt hfits
    refine ⟨_, word32?_eq_some_iff.mpr hstride, UInt64.toNat_inj.mp ?_⟩
    rw [toNat_bytes hsub, hstride, hexact]

/-- A plane without bytes is one with a row that does not fit its word. -/
theorem tightBytes?_eq_none_iff (hpixels : 0 < pixelsPerGroup) (hbytes : plane.bytesPerGroup ≤ 4)
    {size : Size} :
    plane.tightBytes? pixelsPerGroup size = none ↔
      UInt32.size ≤ plane.paddedBytes pixelsPerGroup size.width 1 := by
  unfold tightBytes?
  rw [Option.map_eq_none_iff, rowBytes?_eq_word32? hpixels hbytes, word32?_eq_none_iff]

end PlaneGeometry

/-! ## Planes one after another -/

/-- The bytes of the planes added to a start are refused exactly when a row does not fit its word or
the sum does not fit. -/
theorem foldlM_tightBytes?_eq_some_iff {pixelsPerGroup : Nat} (hpixels : 0 < pixelsPerGroup)
    {planes : List PlaneGeometry}
    (hplanes : ∀ plane ∈ planes, plane.bytesPerGroup ≤ 4 ∧ 0 < plane.verticalSubsampling)
    {size : Size} {start total : UInt64} :
    planes.foldlM (fun total plane => do
        let bytes ← plane.tightBytes? pixelsPerGroup size
        word64? (total.toNat + bytes.toNat)) start = some total ↔
      (∀ plane ∈ planes, plane.paddedBytes pixelsPerGroup size.width 1 < UInt32.size) ∧
        total.toNat = start.toNat +
          (planes.map (·.paddedSize pixelsPerGroup size.width size.height 1)).sum := by
  induction planes generalizing start with
  | nil =>
      simp only [List.foldlM_nil, List.map_nil, List.sum_nil, Nat.add_zero, UInt64.toNat_inj]
      simp [pure, eq_comm]
  | cons plane rest ih =>
      obtain ⟨⟨hbytes, hsub⟩, hrest⟩ := List.forall_mem_cons.mp hplanes
      simp only [List.foldlM_cons, bind, Option.bind_eq_some_iff, List.forall_mem_cons,
        List.map_cons, List.sum_cons]
      constructor
      · rintro ⟨next, ⟨bytes, htight, hnext⟩, hfold⟩
        obtain ⟨hrow, hexact⟩ :=
          (PlaneGeometry.tightBytes?_eq_some_iff hpixels hbytes hsub).mp htight
        obtain ⟨hrows, hsum⟩ := (ih hrest).mp hfold
        rw [word64?_eq_some_iff] at hnext
        exact ⟨⟨hrow, hrows⟩, by omega⟩
      · rintro ⟨⟨hrow, hrows⟩, hsum⟩
        have htotal := total.toNat_lt
        -- neither the plane nor the sum up to it is larger than the total
        obtain ⟨bytes, hexact⟩ : ∃ bytes : UInt64,
            bytes.toNat = plane.paddedSize pixelsPerGroup size.width size.height 1 :=
          ⟨_, UInt64.toNat_ofNat_of_lt' (Nat.lt_of_le_of_lt (by omega) htotal)⟩
        obtain ⟨next, hnext⟩ : ∃ next : UInt64, next.toNat = start.toNat + bytes.toNat :=
          ⟨_, UInt64.toNat_ofNat_of_lt' (Nat.lt_of_le_of_lt (by omega) htotal)⟩
        refine ⟨next, ⟨bytes, ?_, word64?_eq_some_iff.mpr hnext⟩, (ih hrest).mpr ⟨hrows, ?_⟩⟩
        · exact (PlaneGeometry.tightBytes?_eq_some_iff hpixels hbytes hsub).mpr ⟨hrow, hexact⟩
        · rw [hnext, hexact, hsum, Nat.add_assoc]

namespace FormatGeometry

variable {geometry : FormatGeometry} {index : Nat} {plane : PlaneGeometry}
  {width height align : UInt32}

/-- Bytes of the planes before a plane as an exact number. -/
def paddedBefore (geometry : FormatGeometry) (width height align : UInt32) (index : Nat) : Nat :=
  ((geometry.planes.take index).map
    (·.paddedSize geometry.pixelsPerGroup width height align)).sum

/-- An alignment of at most one byte moves no plane. -/
theorem paddedBefore_align_le_one (geometry : FormatGeometry) (width height : UInt32) (index : Nat)
    (halign : align.toNat ≤ 1) :
    geometry.paddedBefore width height align index =
      geometry.paddedBefore width height 1 index := by
  unfold paddedBefore PlaneGeometry.paddedSize
  simp only [PlaneGeometry.paddedBytes_align_le_one _ _ _ halign]

/-- A plane ends where the next one begins. -/
theorem paddedBefore_succ (hplane : geometry.planes[index]? = some plane) :
    geometry.paddedBefore width height align (index + 1) =
      geometry.paddedBefore width height align index +
        plane.paddedSize geometry.pixelsPerGroup width height align := by
  obtain ⟨hlt, hplane⟩ := List.getElem?_eq_some_iff.mp hplane
  unfold paddedBefore
  rw [List.take_succ_eq_append_getElem hlt, hplane, List.map_append, List.sum_append_nat]
  simp

/-- A later plane begins no earlier. -/
theorem paddedBefore_mono : Monotone (geometry.paddedBefore width height align) := by
  refine monotone_nat_of_le_succ fun index => ?_
  cases hplane : geometry.planes[index]? with
  | some plane =>
      rw [paddedBefore_succ hplane]
      exact Nat.le_add_right _ _
  | none =>
      rw [List.getElem?_eq_none_iff] at hplane
      unfold paddedBefore
      rw [List.take_of_length_le hplane, List.take_of_length_le (Nat.le_succ_of_le hplane)]

/-- All planes together. -/
theorem paddedBefore_planeCount :
    geometry.paddedBefore width height align geometry.planeCount =
      (geometry.planes.map (·.paddedSize geometry.pixelsPerGroup width height align)).sum := by
  unfold paddedBefore planeCount
  rw [List.take_length]

/-- In a format of the table no group has more than four bytes, those of the first plane have no
fewer bytes than pixels, and those of the other planes are no larger. -/
theorem groups_of_mem_table (h : geometry ∈ table) :
    (∀ plane ∈ geometry.planes, plane.bytesPerGroup ≤ 4) ∧
      ∀ first ∈ geometry.planes.head?, geometry.pixelsPerGroup ≤ first.bytesPerGroup ∧
        ∀ plane ∈ geometry.planes, plane.bytesPerGroup ≤ first.bytesPerGroup := by
  have hall : ∀ known ∈ table, (∀ plane ∈ known.planes, plane.bytesPerGroup ≤ 4) ∧
      ∀ first ∈ known.planes.head?, known.pixelsPerGroup ≤ first.bytesPerGroup ∧
        ∀ plane ∈ known.planes, plane.bytesPerGroup ≤ first.bytesPerGroup := by
    decide
  exact hall geometry h

/-- A row of a plane of a format is one of the plane. -/
theorem rowBytes?_of_plane (hplane : geometry.planes[index]? = some plane) (width align : UInt32) :
    geometry.rowBytes? width index align =
      plane.rowBytes? geometry.pixelsPerGroup width align := by
  rw [rowBytes?, hplane, Option.bind_eq_bind, Option.bind_some]

/-- The rows of a plane of a format are those of the plane. -/
theorem rows_of_plane (hplane : geometry.planes[index]? = some plane) (height : UInt32) :
    geometry.rows height index = plane.rows height := by
  rw [rows, hplane]

/-- The unpadded bytes of a plane of a format are those of the plane. -/
theorem tightBytes?_of_plane (hplane : geometry.planes[index]? = some plane) (size : Size) :
    geometry.tightBytes? size index = plane.tightBytes? geometry.pixelsPerGroup size := by
  rw [tightBytes?, hplane, Option.bind_eq_bind, Option.bind_some]

/-- Of a row of a format of the table, only the word can be refused. -/
theorem rowBytes?_eq_word32? (h : geometry ∈ table)
    (hplane : geometry.planes[index]? = some plane) (width align : UInt32) :
    geometry.rowBytes? width index align =
      word32? (plane.paddedBytes geometry.pixelsPerGroup width align) := by
  rw [rowBytes?_of_plane hplane, PlaneGeometry.rowBytes?_eq_word32? (units_of_mem_table h).1.1
    ((groups_of_mem_table h).1 plane (List.mem_of_getElem? hplane))]

/-- A row of a format of the table has a word exactly when its exact bytes fit one. -/
theorem rowBytes?_isSome_iff (h : geometry ∈ table)
    (hplane : geometry.planes[index]? = some plane) (width align : UInt32) :
    (geometry.rowBytes? width index align).isSome ↔
      plane.paddedBytes geometry.pixelsPerGroup width align < UInt32.size := by
  rw [rowBytes?_eq_word32? h hplane, Option.isSome_iff_ne_none, ne_eq, word32?_eq_none_iff,
    Nat.not_le]

/-- The bytes of a plane of a format of the table are its rows without padding, and are refused
exactly when a row does not fit its word. -/
theorem tightBytes?_eq_some_iff (h : geometry ∈ table)
    (hplane : geometry.planes[index]? = some plane) {size : Size} {bytes : UInt64} :
    geometry.tightBytes? size index = some bytes ↔
      plane.paddedBytes geometry.pixelsPerGroup size.width 1 < UInt32.size ∧
        bytes.toNat = plane.paddedSize geometry.pixelsPerGroup size.width size.height 1 := by
  have hmem := List.mem_of_getElem? hplane
  obtain ⟨⟨hpixels, -⟩, hunits⟩ := units_of_mem_table h
  rw [tightBytes?_of_plane hplane, PlaneGeometry.tightBytes?_eq_some_iff hpixels
    ((groups_of_mem_table h).1 plane hmem) (hunits plane hmem).2]

/-- The rows of all planes fit a word exactly when those of the first plane do. -/
theorem forall_paddedBytes_lt_iff (h : geometry ∈ table) :
    (∀ plane ∈ geometry.planes,
        plane.paddedBytes geometry.pixelsPerGroup width align < UInt32.size) ↔
      (geometry.rowBytes? width 0 align).isSome := by
  obtain ⟨-, hfirst⟩ := groups_of_mem_table h
  obtain ⟨first, hplane⟩ : ∃ first, geometry.planes[0]? = some first :=
    ⟨_, List.getElem?_eq_getElem (planeCount_of_mem_table h).1⟩
  rw [rowBytes?_isSome_iff h hplane]
  constructor
  · intro hrows
    exact hrows first (List.mem_of_getElem? hplane)
  · intro hlt plane hplane'
    have hlargest := (hfirst first (by rwa [List.head?_eq_getElem?])).2 plane hplane'
    exact Nat.lt_of_le_of_lt (PlaneGeometry.paddedBytes_le hlargest _ _ _) hlt

/-- A frame is refused exactly when a row of a plane does not fit its word or the planes together do
not fit theirs, and is else the exact sum of its planes. -/
theorem frameBytes?_eq_some_iff (h : geometry ∈ table) {size : Size} {total : UInt64} :
    geometry.frameBytes? size = some total ↔
      (∀ plane ∈ geometry.planes,
          plane.paddedBytes geometry.pixelsPerGroup size.width 1 < UInt32.size) ∧
        total.toNat = geometry.paddedBefore size.width size.height 1 geometry.planeCount := by
  obtain ⟨⟨hpixels, -⟩, hunits⟩ := units_of_mem_table h
  unfold frameBytes?
  rw [foldlM_tightBytes?_eq_some_iff hpixels
      (fun plane hplane => ⟨(groups_of_mem_table h).1 plane hplane, (hunits plane hplane).2⟩),
    paddedBefore_planeCount, show (0 : UInt64).toNat = 0 from rfl, Nat.zero_add]

end FormatGeometry

end PixelBuffer
