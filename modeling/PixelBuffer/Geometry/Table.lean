import PixelBuffer.Geometry

/-!
# The table of formats

The formats whose layout is known, and the look-up by code.
-/

namespace PixelBuffer

namespace FourCC

/-- Full-size luma plane, then half-size planes of Cb and Cr pairs. -/
def nv12 : FourCC := ofChars 'N' 'V' '1' '2'

/-- As `nv12` with the chroma pairs swapped. -/
def nv21 : FourCC := ofChars 'N' 'V' '2' '1'

/-- Full-size luma plane, then chroma pairs of half width. -/
def nv16 : FourCC := ofChars 'N' 'V' '1' '6'

/-- Three planes, chroma of half width and height, Cb first. -/
def yu12 : FourCC := ofChars 'Y' 'U' '1' '2'

/-- As `yu12` with Cr first. -/
def yv12 : FourCC := ofChars 'Y' 'V' '1' '2'

/-- Luma and chroma packed by pairs of pixels, luma first. -/
def yuyv : FourCC := ofChars 'Y' 'U' 'Y' 'V'

/-- As `yuyv` with chroma first. -/
def uyvy : FourCC := ofChars 'U' 'Y' 'V' 'Y'

/-- Three bytes a pixel, red first. -/
def rgb3 : FourCC := ofChars 'R' 'G' 'B' '3'

/-- Three bytes a pixel, blue first. -/
def bgr3 : FourCC := ofChars 'B' 'G' 'R' '3'

/-- Four bytes a pixel with alpha. -/
def rgba : FourCC := ofChars 'R' 'G' 'B' 'A'

/-- Four bytes a pixel, the last unused. -/
def rgbx : FourCC := ofChars 'R' 'G' 'B' 'X'

/-- A compressed picture, one byte a pixel. -/
def mjpg : FourCC := ofChars 'M' 'J' 'P' 'G'

end FourCC

namespace FormatGeometry

/-- The formats whose layout is known. -/
def table : List FormatGeometry :=
  [ ⟨"NV12", .nv12, 2, [⟨2, 1⟩, ⟨2, 2⟩]⟩,
    ⟨"NV21", .nv21, 2, [⟨2, 1⟩, ⟨2, 2⟩]⟩,
    ⟨"NV16", .nv16, 2, [⟨2, 1⟩, ⟨2, 1⟩]⟩,
    ⟨"YUV420", .yu12, 2, [⟨2, 1⟩, ⟨1, 2⟩, ⟨1, 2⟩]⟩,
    ⟨"YVU420", .yv12, 2, [⟨2, 1⟩, ⟨1, 2⟩, ⟨1, 2⟩]⟩,
    ⟨"YUYV", .yuyv, 2, [⟨4, 1⟩]⟩,
    ⟨"UYVY", .uyvy, 2, [⟨4, 1⟩]⟩,
    ⟨"RGB888", .rgb3, 1, [⟨3, 1⟩]⟩,
    ⟨"BGR888", .bgr3, 1, [⟨3, 1⟩]⟩,
    ⟨"ABGR8888", .rgba, 1, [⟨4, 1⟩]⟩,
    ⟨"XBGR8888", .rgbx, 1, [⟨4, 1⟩]⟩,
    ⟨"MJPEG", .mjpg, 1, [⟨1, 1⟩]⟩ ]

/-- The geometry of a format, if its layout is known. -/
def ofFormat? (format : FourCC) : Option FormatGeometry :=
  table.find? (·.format = format)

end FormatGeometry

end PixelBuffer
