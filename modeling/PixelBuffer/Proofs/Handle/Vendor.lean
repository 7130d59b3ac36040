import Mathlib.Algebra.Group.Nat.Defs
import PixelBuffer.Handle.Vendor

/-!
# Reading a vendor block

A block is recognized by its length and its mark alone, and every field is then the word at a fixed
place (`VendorReport.ofInts?_eq`). A block that was written is read back field by field, whatever
integers follow it (`Handle.vendor?_encode`), and as long as its planes have slots so are they
(`VendorBlock.plane?_report`).
-/

namespace PixelBuffer

/-- Integers in a block. -/
def vendorInts : Nat := 18

/-- The unsigned word at a place of a list of integers. -/
def wordAt (ints : List Int32) (place : Nat) : UInt32 :=
  (ints.getD place 0).toUInt32

namespace VendorReport

/-- What a block says, by the places of its fields. -/
def atPlaces (ints : List Int32) : VendorReport where
  id := wordAt ints 1
  width := wordAt ints 2
  height := wordAt ints 3
  format := FourCC.ofCode (wordAt ints 4)
  planeCount := wordAt ints 5
  slots := (List.range vendorSlots).map fun slot =>
    ⟨wordAt ints (6 + slot), wordAt ints (10 + slot), wordAt ints (14 + slot)⟩

/-- Integers are a block exactly when there are enough of them and the first one is the mark. -/
theorem ofInts?_eq (ints : List Int32) :
    ofInts? ints =
      if vendorInts ≤ ints.length ∧ ints[0]? = some vendorMark then some (atPlaces ints)
      else none := by
  rcases ints with _ | ⟨mark, _ | ⟨id, _ | ⟨width, _ | ⟨height, _ | ⟨format, _ | ⟨count,
    _ | ⟨stride0, _ | ⟨stride1, _ | ⟨stride2, _ | ⟨stride3, _ | ⟨offset0, _ | ⟨offset1,
    _ | ⟨offset2, _ | ⟨offset3, _ | ⟨size0, _ | ⟨size1, _ | ⟨size2, _ | ⟨size3,
    rest⟩⟩⟩⟩⟩⟩⟩⟩⟩⟩⟩⟩⟩⟩⟩⟩⟩⟩
  all_goals try rfl
  -- only the list that holds a whole block is left
  have hlength : vendorInts ≤ rest.length + 18 := Nat.le_add_left _ _
  simp [ofInts?, atPlaces, wordAt, hlength, vendorSlots, List.range_succ]

end VendorReport

namespace Handle

/-- A handle that carries a vendor block. -/
def HasBlock (handle : Handle) : Prop :=
  vendorInts ≤ handle.ints.length ∧ handle.ints[0]? = some vendorMark

instance (handle : Handle) : Decidable handle.HasBlock :=
  inferInstanceAs (Decidable (_ ∧ _))

/-- The block of a handle is read exactly when the handle carries one. -/
theorem vendor?_eq (handle : Handle) :
    handle.vendor? = if handle.HasBlock then some (.atPlaces handle.ints) else none :=
  VendorReport.ofInts?_eq handle.ints

/-- A handle says nothing about its buffer exactly when it carries no block. -/
theorem vendor?_eq_none_iff {handle : Handle} : handle.vendor? = none ↔ ¬ handle.HasBlock := by
  rw [vendor?_eq]
  by_cases hblock : handle.HasBlock <;> simp [hblock]

end Handle

/-! ## Reading a block that was written -/

namespace VendorBlock

/-- What a block says once it is written and read back. -/
def report (block : VendorBlock) : VendorReport where
  id := block.id
  width := block.width
  height := block.height
  format := FourCC.ofCode block.format.toCode
  planeCount := UInt32.ofNat block.planes.length
  slots := (List.range vendorSlots).map block.slot

/-- The words of a block stand in their places. -/
theorem atPlaces_encode (block : VendorBlock) (rest : List Int32) :
    VendorReport.atPlaces (block.encode ++ rest) = block.report := by
  simp [VendorReport.atPlaces, encode, report, wordAt, vendorSlots, List.range_succ]

/-- The number of planes is read back, also when there are more planes than slots. -/
theorem planeCount_report_of_lt {block : VendorBlock} (hcount : block.planes.length < 2 ^ 32) :
    block.report.planeCount.toNat = block.planes.length := by
  show (UInt32.ofNat block.planes.length).toNat = block.planes.length
  rw [UInt32.toNat_ofNat', Nat.mod_eq_of_lt hcount]

/-- The planes that have slots are read back, and no others. -/
theorem plane?_report_of_lt {block : VendorBlock} (hcount : block.planes.length < 2 ^ 32)
    (index : Nat) : block.report.plane? index =
      if index < min block.planes.length vendorSlots then block.planes[index]? else none := by
  show (if index < min block.report.planeCount.toNat vendorSlots
    then ((List.range vendorSlots).map block.slot)[index]? else none) = _
  rw [planeCount_report_of_lt hcount]
  by_cases hindex : index < min block.planes.length vendorSlots
  · have hplane : index < block.planes.length := Nat.lt_of_lt_of_le hindex (Nat.min_le_left _ _)
    have hslot : index < vendorSlots := Nat.lt_of_lt_of_le hindex (Nat.min_le_right _ _)
    rw [if_pos hindex, if_pos hindex, List.getElem?_map, List.getElem?_range hslot]
    simp [slot, hplane]
  · rw [if_neg hindex, if_neg hindex]

/-- Planes that all have slots are few enough to be counted. -/
theorem length_lt_of_slots {block : VendorBlock} (hslots : block.planes.length ≤ vendorSlots) :
    block.planes.length < 2 ^ 32 :=
  Nat.lt_of_le_of_lt hslots (by decide)

/-- The number of planes that have slots is read back. -/
theorem planeCount_report {block : VendorBlock} (hslots : block.planes.length ≤ vendorSlots) :
    block.report.planeCount.toNat = block.planes.length :=
  planeCount_report_of_lt (length_lt_of_slots hslots)

/-- The planes that a block describes are read back, provided they all have slots. -/
theorem plane?_report {block : VendorBlock} (hslots : block.planes.length ≤ vendorSlots)
    (index : Nat) : block.report.plane? index = block.planes[index]? := by
  rw [plane?_report_of_lt (length_lt_of_slots hslots), Nat.min_eq_left hslots]
  split
  · rfl
  · rename_i hindex
    rw [List.getElem?_eq_none (Nat.not_lt.mp hindex)]

end VendorBlock

namespace Handle

/-- A handle whose integers begin with a block says what the block does. -/
theorem vendor?_encode_append (descriptors : List Descriptor) (block : VendorBlock)
    (rest : List Int32) :
    (⟨descriptors, block.encode ++ rest⟩ : Handle).vendor? = some block.report := by
  have hblock : (⟨descriptors, block.encode ++ rest⟩ : Handle).HasBlock := by
    refine ⟨?_, rfl⟩
    show vendorInts ≤ (block.encode ++ rest).length
    rw [List.length_append]
    exact Nat.le_add_right vendorInts rest.length
  rw [vendor?_eq, if_pos hblock, VendorBlock.atPlaces_encode]

/-- A handle whose integers are a block says what the block does. -/
theorem vendor?_encode (descriptors : List Descriptor) (block : VendorBlock) :
    (⟨descriptors, block.encode⟩ : Handle).vendor? = some block.report := by
  have hvendor := vendor?_encode_append descriptors block []
  rwa [List.append_nil] at hvendor

end Handle

end PixelBuffer
