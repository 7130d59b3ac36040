import PixelBuffer.Text.Digits
import PixelBuffer.Text.Record

/-!
# Usage masks

A usage mask says which consumers will touch a buffer. Ten flags have names; every other bit is kept
and passed on as it is, so a mask is any 64-bit word.
-/

namespace PixelBuffer

/-- The intended consumers of a buffer, one bit each. -/
structure Usage where
  bits : UInt64
deriving DecidableEq

namespace Usage

/-- The mask without any flag. -/
def empty : Usage := ⟨0⟩

/-- The flags that have names, in order of their bits. -/
def flags : List (String × Usage) :=
  [("CPU_READ_RARELY", ⟨0x2⟩), ("CPU_READ_OFTEN", ⟨0x3⟩), ("CPU_WRITE_RARELY", ⟨0x20⟩),
    ("CPU_WRITE_OFTEN", ⟨0x30⟩), ("GPU_TEXTURE", ⟨0x100⟩), ("GPU_RENDER_TARGET", ⟨0x200⟩),
    ("COMPOSER_OVERLAY", ⟨0x800⟩), ("VIDEO_ENCODER", ⟨0x10000⟩), ("CAMERA_WRITE", ⟨0x20000⟩),
    ("CAMERA_READ", ⟨0x40000⟩)]

/-- The flag with the given name, if there is one. -/
def ofName? (name : String) : Option Usage :=
  flags.lookup name

/-- The flags of either mask. -/
def union (a b : Usage) : Usage := ⟨a.bits ||| b.bits⟩

/-- The flags of both masks. -/
def inter (a b : Usage) : Usage := ⟨a.bits &&& b.bits⟩

/-- The flags of the first mask that the second lacks. -/
def diff (a b : Usage) : Usage := ⟨a.bits &&& ~~~b.bits⟩

/-- The flags of exactly one of the masks. -/
def symmDiff (a b : Usage) : Usage := ⟨a.bits ^^^ b.bits⟩

/-- The bits that the mask lacks. -/
def complement (a : Usage) : Usage := ⟨~~~a.bits⟩

/-- A mask without flags. -/
def isEmpty (a : Usage) : Bool := a.bits == 0

/-- A mask with every bit. -/
def isFull (a : Usage) : Bool := ~~~a.bits == 0

/-- Every flag of `b` is in `a`. -/
def contains (a b : Usage) : Bool := a.bits &&& b.bits == b.bits

/-- Some flag is in both masks. -/
def intersects (a b : Usage) : Bool := a.bits &&& b.bits != 0

/-- The mask in hexadecimal. -/
def text (a : Usage) : String := Text.hex a.bits.toNat

/-- The named flags that cover the mask, in order, and the bits that no name covers. A flag is taken
when the mask holds it wholly and some bit of it is not yet covered. -/
def cover (a : Usage) : List (String × Usage) × Usage :=
  flags.foldl
    (fun (taken, rest) flag =>
      if a.contains flag.2 && rest.intersects flag.2 then (taken ++ [flag], rest.diff flag.2)
      else (taken, rest))
    ([], a)

/-- The shape of a mask in diagnostics: the covering names, then the remaining bits. -/
def description (a : Usage) : String :=
  let (taken, rest) := a.cover
  let parts := taken.map (·.1) ++ if rest.isEmpty then [] else [rest.text]
  Text.tagged "UsageFlags" (if parts.isEmpty then "0x0" else " | ".intercalate parts)

end Usage

end PixelBuffer
