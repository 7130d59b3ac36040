import Mathlib.Tactic.Choose
import PixelBuffer.Plane.Layout

/-!
# Acts that do not read the log

Everything that is done in the world only adds to the log. So what an act answers, what it does on
the platform and which events it logs follow from the platform alone (`Act.Appends`). Acts in
sequence keep this (`Act.Appends.bind`), and a search for planes is such an act
(`Handle.findPlanes_appends`).
-/

namespace PixelBuffer

namespace Act

/-- The answer of an act, its effect on the platform and its events follow from the platform. -/
def Appends {α : Type} (act : Act α) : Prop :=
  ∃ effect : Platform → α × Platform × Array Event, ∀ world : World,
    act world = ((effect world.platform).1,
      ⟨(effect world.platform).2.1, world.log ++ (effect world.platform).2.2⟩)

/-- An answer alone. -/
theorem pure_appends {α : Type} (value : α) : Appends (pure value : Act α) :=
  ⟨fun platform => (value, platform, #[]), fun world => by simp⟩

/-- Something done on the platform. -/
theorem onPlatform_appends {α : Type} (action : Platform → α × Platform) :
    Appends (onPlatform action) :=
  ⟨fun platform => ((action platform).1, (action platform).2, #[]), fun world => by simp⟩

/-- A change of the platform. -/
theorem changePlatform_appends (change : Platform → Platform) : Appends (changePlatform change) :=
  ⟨fun platform => ((), change platform, #[]), fun world => by simp⟩

/-- One event. -/
theorem log_appends (event : Event) : Appends (log event) :=
  ⟨fun platform => ((), platform, #[event]), fun world => by simp⟩

/-- Acts in sequence. -/
theorem Appends.bind {α β : Type} {act : Act α} {next : α → Act β} (h : act.Appends)
    (hnext : ∀ value, (next value).Appends) : (act >>= next).Appends := by
  obtain ⟨effect, heffect⟩ := h
  choose following hfollowing using hnext
  refine ⟨fun platform =>
    ((following (effect platform).1 (effect platform).2.1).1,
      (following (effect platform).1 (effect platform).2.1).2.1,
      (effect platform).2.2 ++ (following (effect platform).1 (effect platform).2.1).2.2),
    fun world => ?_⟩
  rw [bind_apply, heffect, hfollowing]
  simp [Array.append_assoc]

end Act

open Act

namespace Search

/-- Measuring a descriptor. -/
theorem measure_appends (search : Search) (descriptor : Descriptor) :
    (search.measure descriptor).Appends := by
  unfold measure
  cases search.measured.find? (·.descriptor = descriptor) with
  | some known => exact (changePlatform_appends _).bind fun _ => pure_appends _
  | none =>
      refine (onPlatform_appends _).bind fun shared => ?_
      cases shared with
      | error fault => exact pure_appends _
      | ok share =>
          refine (onPlatform_appends _).bind fun measured => ?_
          cases measured with
          | error fault => exact (changePlatform_appends _).bind fun _ => pure_appends _
          | ok bytes =>
              exact (log_appends _).bind fun _ =>
                (changePlatform_appends _).bind fun _ => pure_appends _

/-- Placing a plane. -/
theorem place_appends (search : Search) (index : Nat) (file : Measured)
    (offset length : UInt64) : (search.place index file offset length).Appends := by
  unfold place
  cases checkBounds index offset length file.bytes with
  | error failure => exact (changePlatform_appends _).bind fun _ => pure_appends _
  | ok _ => exact pure_appends _

/-- Finding the planes of a block. -/
theorem reportedPlanes_appends (handle : Handle) (report : VendorReport)
    (expected remaining index : Nat) (search : Search) :
    (reportedPlanes handle report expected remaining index search).Appends := by
  induction remaining generalizing index search with
  | zero => exact pure_appends _
  | succ remaining ih =>
      unfold reportedPlanes
      cases report.plane? index with
      | none => exact pure_appends _
      | some record =>
          refine (log_appends _).bind fun _ => ?_
          cases handle.planeDescriptor? report index with
          | none => exact pure_appends _
          | some descriptor =>
              refine (measure_appends search descriptor).bind fun ⟨measured, search⟩ => ?_
              cases measured with
              | error failure => exact pure_appends _
              | ok file =>
                  refine (place_appends search _ _ _ _).bind fun ⟨placed, search⟩ => ?_
                  cases placed with
                  | error failure => exact pure_appends _
                  | ok _ => exact ih (index + 1) search

/-- Finding planes one after another. -/
theorem consecutivePlanes_appends (geometry : FormatGeometry) (size : Size) (file : Measured)
    (planes : List PlaneGeometry) (index : Nat) (offset : UInt64) (search : Search) :
    (consecutivePlanes geometry size file planes index offset search).Appends := by
  induction planes generalizing index offset search with
  | nil => exact pure_appends _
  | cons plane rest ih =>
      unfold consecutivePlanes
      cases plane.tightBytes? geometry.pixelsPerGroup size with
      | none => exact pure_appends _
      | some length =>
          refine (changePlatform_appends _).bind fun _ =>
            (place_appends search _ _ _ _).bind fun ⟨placed, search⟩ => ?_
          cases placed with
          | error failure => exact pure_appends _
          | ok _ =>
              dsimp only
              cases word64? (offset.toNat + length.toNat) with
              | none => exact pure_appends _
              | some next => exact ih (index + 1) next search

/-- Ending a search. -/
theorem finish_appends (outcome : Except Failure Unit × Search) : (finish outcome).Appends := by
  obtain ⟨answer, search⟩ := outcome
  cases answer with
  | error failure =>
      exact (changePlatform_appends _).bind fun _ =>
        (changePlatform_appends _).bind fun _ => pure_appends _
  | ok _ => exact (changePlatform_appends _).bind fun _ => pure_appends _

end Search

namespace Handle

/-- Finding planes by a block. -/
theorem findReported_appends (handle : Handle) (report : VendorReport)
    (geometry : FormatGeometry) : (handle.findReported report geometry).Appends := by
  unfold findReported
  dsimp only
  split
  · exact pure_appends _
  · exact (log_appends _).bind fun _ =>
      (Search.reportedPlanes_appends _ _ _ _ _ _).bind Search.finish_appends

/-- Finding planes without a block. -/
theorem findConsecutive_appends (handle : Handle) (geometry : FormatGeometry) (size : Size) :
    (handle.findConsecutive geometry size).Appends := by
  unfold findConsecutive
  refine (log_appends _).bind fun _ => ?_
  cases handle.descriptors[0]? with
  | none => exact pure_appends _
  | some descriptor =>
      refine (Search.measure_appends _ _).bind fun ⟨measured, search⟩ => ?_
      cases measured with
      | error failure => exact Search.finish_appends _
      | ok file =>
          exact (Search.consecutivePlanes_appends _ _ _ _ _ _ _).bind fun outcome =>
            (changePlatform_appends _).bind fun _ => Search.finish_appends outcome

/-- Logging the planes that were found. -/
theorem logFound_appends (planes : List Plane) (index : Nat) :
    (logFound planes index).Appends := by
  induction planes generalizing index with
  | nil => exact pure_appends _
  | cons plane rest ih =>
      exact (onPlatform_appends _).bind fun _ => (log_appends _).bind fun _ => ih (index + 1)

/-- Logging what a search found, if it found anything, follows from the platform. -/
theorem found_appends {search : Act (Except Failure (List Plane))} (h : search.Appends) :
    Appends (do
      match ← search with
      | .error failure => pure (.error failure)
      | .ok planes =>
          logFound planes 0
          pure (.ok planes) : Act (Except Failure (List Plane))) := by
  refine h.bind fun result => ?_
  cases result with
  | error failure => exact pure_appends _
  | ok planes => exact (logFound_appends planes 0).bind fun _ => pure_appends _

/-- A search for planes follows from the platform. -/
theorem findPlanes_appends (handle : Handle) (geometry : FormatGeometry) (size : Size) :
    (handle.findPlanes geometry size).Appends := by
  unfold findPlanes
  cases handle.vendor? with
  | some report => exact found_appends (findReported_appends handle report geometry)
  | none => exact found_appends (findConsecutive_appends handle geometry size)

end Handle

end PixelBuffer
