import PixelBuffer.Geometry.Table

/-!
# Device format codes

A device names pixel formats by signed codes of its own. A `Resolver` says which format a code
stands for; `Resolver.standard` knows the usual codes of camera devices, and `Resolver.map` changes
the meaning of one code.
-/

namespace PixelBuffer

/-- The meaning of device format codes. -/
structure Resolver where
  /-- The format that a code stands for. -/
  format? : Int32 → Option FourCC

/-- The meaning of a device code: the format and its layout. -/
structure Resolved where
  format : FourCC
  geometry : FormatGeometry
deriving DecidableEq

/-- The usual device codes by name, with the format each stands for. -/
def deviceCodes : List (String × Int32 × FourCC) :=
  [("RGBA_8888", 0x1, .rgba), ("RGBX_8888", 0x2, .rgbx), ("RGB_888", 0x3, .rgb3),
    ("YCBCR_422_SP", 0x10, .nv16), ("YCRCB_420_SP", 0x11, .nv21), ("YCBCR_422_I", 0x14, .yuyv),
    ("BLOB", 0x21, .mjpg), ("IMPLEMENTATION_DEFINED", 0x22, .nv12), ("YCBCR_420_888", 0x23, .nv12),
    ("YV12", 0x32315659, .yv12)]

namespace Resolver

/-- The resolver of the usual device codes. -/
def standard : Resolver where
  format? code := (deviceCodes.map Prod.snd).lookup code

/-- The resolver in which `code` stands for `format` and every other code keeps its meaning. -/
def map (resolver : Resolver) (code : Int32) (format : FourCC) : Resolver where
  format? other := if other = code then some format else resolver.format? other

/-- The standard resolver after mappings made in order, so that the last one for a code counts. -/
def ofMappings (mappings : List (Int32 × FourCC)) : Resolver :=
  mappings.foldl (fun resolver mapping => resolver.map mapping.1 mapping.2) standard

/-- The format and layout that a code stands for. -/
def resolve (resolver : Resolver) (code : Int32) : Except Failure Resolved :=
  match resolver.format? code with
  | none => .error (.unsupportedFormat code)
  | some format =>
      match FormatGeometry.ofFormat? format with
      | none => .error (.unsupportedFormat code)
      | some geometry => .ok ⟨format, geometry⟩

end Resolver

end PixelBuffer
