import PixelBuffer.Proofs.Handle.Vendor

/-!
# Writing a vendor block and reading it back

What is written into a handle is what the handle says, and what a handle says can be written again.
`VendorReport.block` collects what a report says into a block. Writing that block gives back the
integers that were read, but for what stood in the slots of planes that are not reported, and
`clearAbsent` says which places those are.

Read `VendorReport.encode_block` first: it is the way back, for integers that nobody has written as
a block.
-/

namespace PixelBuffer

/-- The integers of a block with zeros in the slots of the planes from `count` on. -/
def clearAbsent (count : Nat) (ints : List Int32) : List Int32 :=
  ints.mapIdx fun place int => if 6 ≤ place ∧ count ≤ (place - 6) % vendorSlots then 0 else int

namespace VendorReport

/-- The block that a report describes, with the reported planes that have slots. -/
def block (report : VendorReport) : VendorBlock where
  id := report.id
  width := report.width
  height := report.height
  format := report.format
  planes := (List.range vendorSlots).filterMap report.plane?

/-- A report that counts no more planes than there are slots describes the first of its slots. -/
theorem planes_block {report : VendorReport} (hslots : report.slots.length = vendorSlots)
    (hcount : report.planeCount.toNat ≤ vendorSlots) :
    report.block.planes = report.slots.take report.planeCount.toNat := by
  obtain ⟨id, width, height, format, planeCount, slots⟩ := report
  match slots, hslots with
  | [slot0, slot1, slot2, slot3], _ =>
      show (List.range vendorSlots).filterMap (fun index =>
        if index < min planeCount.toNat vendorSlots then
          [slot0, slot1, slot2, slot3][index]? else none) =
        [slot0, slot1, slot2, slot3].take planeCount.toNat
      dsimp only [vendorSlots] at hcount ⊢
      generalize planeCount.toNat = count at hcount
      obtain rfl | rfl | rfl | rfl | rfl :
          count = 0 ∨ count = 1 ∨ count = 2 ∨ count = 3 ∨ count = 4 := by omega
      all_goals rfl

/-- A report whose slots are all there describes a block that says the same, but for the slots of
planes that are not reported. -/
theorem report_block {report : VendorReport} (hslots : report.slots.length = vendorSlots)
    (hcount : report.planeCount.toNat ≤ vendorSlots) :
    report.block.report =
      { report with
        slots := (List.range vendorSlots).map fun slot =>
          if slot < report.planeCount.toNat then report.slots.getD slot ⟨0, 0, 0⟩
          else ⟨0, 0, 0⟩ } := by
  have hplanes := planes_block hslots hcount
  have hlength : report.block.planes.length = report.planeCount.toNat := by
    rw [hplanes, List.length_take, hslots, Nat.min_eq_left hcount]
  have hslot : report.block.slot = fun slot =>
      if slot < report.planeCount.toNat then report.slots.getD slot ⟨0, 0, 0⟩
      else ⟨0, 0, 0⟩ := by
    funext slot
    rw [VendorBlock.slot, hplanes, List.getD_eq_getElem?_getD, List.getElem?_take]
    split <;> simp
  rw [VendorBlock.report, hslot, hlength, UInt32.ofNat_toNat]
  simp [block]

/-- Blocks that say the same are the same integers. -/
theorem eq_of_atPlaces {ints other : List Int32} (hlength : ints.length = vendorInts)
    (hother : other.length = vendorInts) (hmark : wordAt ints 0 = wordAt other 0)
    (h : atPlaces ints = atPlaces other) : ints = other := by
  have hformat : wordAt ints 4 = wordAt other 4 := by
    rw [← FourCC.toCode_ofCode (wordAt ints 4), ← FourCC.toCode_ofCode (wordAt other 4)]
    exact congrArg (fun report => report.format.toCode) h
  have hword : ∀ place < vendorInts, wordAt ints place = wordAt other place := by
    simp [atPlaces, vendorSlots, List.range_succ] at h
    simp only [vendorInts, Nat.forall_lt_succ_right]
    simp_all
  refine List.ext_getElem (hlength.trans hother.symm) fun place hplace hplace' => ?_
  have hbits : ints[place].toUInt32 = other[place].toUInt32 := by
    simpa [wordAt, hplace, hplace'] using hword place (hlength ▸ hplace)
  simpa using congrArg UInt32.toInt32 hbits

/-- A place of a block whose absent slots are zero holds zero or what it held. -/
theorem wordAt_clearAbsent (count : Nat) (ints : List Int32) {place : Nat}
    (hplace : place < vendorInts) :
    wordAt (clearAbsent count (ints.take vendorInts)) place =
      if 6 ≤ place ∧ count ≤ (place - 6) % vendorSlots then 0 else wordAt ints place := by
  have hzero : (0 : Int32).toUInt32 = 0 := rfl
  simp only [wordAt, clearAbsent, List.getD_eq_getElem?_getD, List.getElem?_mapIdx,
    List.getElem?_take, if_pos hplace]
  cases ints[place]? with
  | none => simp [hzero]
  | some int =>
      by_cases habsent : 6 ≤ place ∧ count ≤ (place - 6) % vendorSlots <;> simp [habsent, hzero]

/-- What is left of a block whose absent slots are zero: everything but those slots. -/
theorem atPlaces_clearAbsent (count : Nat) (ints : List Int32) :
    atPlaces (clearAbsent count (ints.take vendorInts)) =
      { atPlaces ints with
        slots := (List.range vendorSlots).map fun slot =>
          if slot < count then (atPlaces ints).slots.getD slot ⟨0, 0, 0⟩ else ⟨0, 0, 0⟩ } := by
  have hfield : ∀ place < 6,
      wordAt (clearAbsent count (ints.take vendorInts)) place = wordAt ints place := by
    intro place hplace
    rw [wordAt_clearAbsent count ints (Nat.lt_trans hplace (by decide)), if_neg (by omega)]
  -- the three columns of slots begin at the places 6, 10 and 14
  have hcolumn : ∀ start ∈ [6, 10, 14], ∀ slot < vendorSlots,
      wordAt (clearAbsent count (ints.take vendorInts)) (start + slot) =
        if slot < count then wordAt ints (start + slot) else 0 := by
    intro start hstart slot hslot
    have hplace : start + slot < vendorInts ∧ 6 ≤ start + slot ∧
        (start + slot - 6) % vendorSlots = slot := by
      simp only [List.mem_cons, List.not_mem_nil, or_false] at hstart
      dsimp only [vendorSlots, vendorInts] at hslot ⊢
      omega
    rw [wordAt_clearAbsent count ints hplace.1, hplace.2.2]
    by_cases hcount : slot < count
    · rw [if_pos hcount, if_neg (by omega)]
    · rw [if_neg hcount, if_pos ⟨hplace.2.1, Nat.le_of_not_lt hcount⟩]
  have hslots : ∀ slot ∈ List.range vendorSlots,
      (⟨wordAt (clearAbsent count (ints.take vendorInts)) (6 + slot),
        wordAt (clearAbsent count (ints.take vendorInts)) (10 + slot),
        wordAt (clearAbsent count (ints.take vendorInts)) (14 + slot)⟩ : PlaneRecord) =
      if slot < count then (atPlaces ints).slots.getD slot ⟨0, 0, 0⟩ else ⟨0, 0, 0⟩ := by
    intro slot hm
    have hslot := List.mem_range.mp hm
    rw [hcolumn 6 (by simp) slot hslot, hcolumn 10 (by simp) slot hslot,
      hcolumn 14 (by simp) slot hslot]
    by_cases hcount : slot < count <;> simp [hcount, atPlaces, hslot]
  rw [atPlaces, List.map_congr_left hslots, hfield 1 (by decide), hfield 2 (by decide),
    hfield 3 (by decide), hfield 4 (by decide), hfield 5 (by decide)]
  rfl

/-- Integers that are a block are given back when what they say is written, with zeros in the slots
of planes that they do not report. -/
theorem encode_block {ints : List Int32} (hlength : vendorInts ≤ ints.length)
    (hmark : ints[0]? = some vendorMark)
    (hcount : (atPlaces ints).planeCount.toNat ≤ vendorSlots) :
    (atPlaces ints).block.encode =
      clearAbsent (atPlaces ints).planeCount.toNat (ints.take vendorInts) := by
  generalize hnumber : (atPlaces ints).planeCount.toNat = count
  apply eq_of_atPlaces rfl
  case hother =>
    rw [clearAbsent, List.length_mapIdx, List.length_take, Nat.min_eq_left hlength]
  case hmark =>
    rw [wordAt_clearAbsent count ints (by decide)]
    simp [wordAt, hmark, VendorBlock.encode]
  case h =>
    have hwritten := VendorBlock.atPlaces_encode (atPlaces ints).block []
    rw [List.append_nil, report_block rfl hcount, hnumber] at hwritten
    rw [hwritten, atPlaces_clearAbsent]

end VendorReport

/-! ## Both ways -/

namespace VendorBlock

/-- A block whose planes all have slots is read back as it was. -/
theorem block_report {block : VendorBlock} (hslots : block.planes.length ≤ vendorSlots) :
    block.report.block = block := by
  have hcount := planeCount_report hslots
  have hplanes : block.report.block.planes = block.planes := by
    rw [VendorReport.planes_block (by simp [report]) (by rwa [hcount]), hcount]
    refine List.ext_getElem? fun index => ?_
    rw [List.getElem?_take]
    by_cases hindex : index < block.planes.length
    · have hslot : index < vendorSlots := Nat.lt_of_lt_of_le hindex hslots
      rw [if_pos hindex]
      simp [report, List.getElem?_range hslot, slot, hindex]
    · rw [if_neg hindex, List.getElem?_eq_none (Nat.le_of_not_lt hindex)]
  have hformat : block.report.block.format = block.format := FourCC.ofCode_toCode block.format
  obtain ⟨id, width, height, format, planes⟩ := block
  exact VendorBlock.mk.injEq .. ▸ ⟨rfl, rfl, rfl, hformat, hplanes⟩

end VendorBlock

namespace Handle

/-- A reported plane lies in the only descriptor, or else in the one at its own index. -/
theorem planeDescriptor?_eq (handle : Handle) (report : VendorReport) (index : Nat) :
    handle.planeDescriptor? report index =
      if index < report.planeCount.toNat then
        if handle.descriptors.length = 1 then handle.descriptors[0]?
        else handle.descriptors[index]?
      else none := by
  unfold planeDescriptor?
  split
  · match handle.descriptors with
    | [] => rfl
    | [descriptor] => rfl
    | first :: second :: rest => rfl
  · rfl

/-- A block that is written into a handle, with any descriptors and with any integers after it, is
read back: its fields, the number of its planes, those of its planes that have slots, and a
descriptor for each plane that there is one for. And integers that are read as a block of no more
planes than there are slots are given back when what they say is written, with zeros in the slots of
absent planes; for integers that were written as a block, these are the same integers. -/
theorem vendor?_codec :
    (∀ (block : VendorBlock) (descriptors : List Descriptor) (rest : List Int32),
      block.planes.length < 2 ^ 32 →
      let handle : Handle := ⟨descriptors, block.encode ++ rest⟩
      ∃ report, handle.vendor? = some report ∧
        report.id = block.id ∧ report.width = block.width ∧ report.height = block.height ∧
        report.format = block.format ∧ report.planeCount.toNat = block.planes.length ∧
        (∀ index, report.plane? index =
          if index < min block.planes.length 4 then block.planes[index]? else none) ∧
        ∀ index, handle.planeDescriptor? report index =
          if index < block.planes.length then
            if descriptors.length = 1 then descriptors[0]? else descriptors[index]?
          else none) ∧
    (∀ (handle : Handle) (report : VendorReport), handle.vendor? = some report →
      report.planeCount.toNat ≤ 4 →
      report.block.encode = clearAbsent report.planeCount.toNat (handle.ints.take 18)) ∧
    ∀ (block : VendorBlock) (descriptors : List Descriptor), block.planes.length ≤ 4 →
      ∃ report, (⟨descriptors, block.encode⟩ : Handle).vendor? = some report ∧
        report.block.encode = block.encode := by
  refine ⟨fun block descriptors rest hcount => ?_, fun handle report hvendor hcount => ?_, ?_⟩
  · have hplaneCount := VendorBlock.planeCount_report_of_lt hcount
    refine ⟨block.report, vendor?_encode_append descriptors block rest, rfl, rfl, rfl,
      FourCC.ofCode_toCode block.format, hplaneCount, VendorBlock.plane?_report_of_lt hcount, ?_⟩
    intro index
    rw [planeDescriptor?_eq, hplaneCount]
  · rw [vendor?_eq] at hvendor
    split at hvendor
    · rename_i hblock
      cases hvendor
      exact VendorReport.encode_block hblock.1 hblock.2 hcount
    · cases hvendor
  · intro block descriptors hslots
    refine ⟨block.report, vendor?_encode descriptors block, ?_⟩
    rw [VendorBlock.block_report hslots]

/-- Five planes are counted, four of them have slots, and two have a descriptor. A block that counts
one plane, and has negative integers in every slot, is given back with the slots of that plane. -/
theorem vendor?_codec_five_planes :
    let block : VendorBlock :=
      ⟨7, 64, 32, .ofChars 'N' 'V' '1' '2',
        [⟨64, 0, 2048⟩, ⟨64, 2048, 1024⟩, ⟨1, 2, 3⟩, ⟨4, 5, 6⟩, ⟨7, 8, 9⟩]⟩
    let handle : Handle := ⟨[⟨3⟩, ⟨8⟩], block.encode ++ [-1]⟩
    let foreign : Handle :=
      ⟨[], [vendorMark, -2, 1, 1, -1, 1, -1, -1, -1, -1, -2, -2, -2, -2, -3, -3, -3, -3, 5]⟩
    (block.planes.length < 2 ^ 32 ∧ ∃ report, handle.vendor? = some report ∧
      report.planeCount.toNat = 5 ∧ report.plane? 3 = some ⟨4, 5, 6⟩ ∧ report.plane? 4 = none ∧
      handle.planeDescriptor? report 1 = some ⟨8⟩ ∧ handle.planeDescriptor? report 2 = none) ∧
    ∃ report, foreign.vendor? = some report ∧ report.planeCount.toNat ≤ 4 ∧
      report.block.encode =
        [vendorMark, -2, 1, 1, -1, 1, -1, 0, 0, 0, -2, 0, 0, 0, -3, 0, 0, 0] := by
  intro block handle foreign
  constructor
  · have hcount : block.planes.length < 2 ^ 32 := by decide
    obtain ⟨report, hvendor, -, -, -, -, hplanes, hplane, hdescriptor⟩ :=
      vendor?_codec.1 block [⟨3⟩, ⟨8⟩] [-1] hcount
    exact ⟨hcount, report, hvendor, hplanes, hplane 3, hplane 4, hdescriptor 1, hdescriptor 2⟩
  · refine ⟨_, rfl, by decide, ?_⟩
    exact vendor?_codec.2.1 foreign _ rfl (by decide)

end Handle

end PixelBuffer
