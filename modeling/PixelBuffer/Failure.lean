import PixelBuffer.Errno
import PixelBuffer.Text.Digits
import PixelBuffer.Text.Record

/-!
# Statuses and failures

A platform service answers with a `Status`: zero for success, otherwise a negated error number.
`IoFault` is a failed call to the operating system, `LayoutFault` a disagreement about the planes of
a handle, and `Failure` everything that can go wrong with an allocation. Each is a cause; its
wording is `message`, and its shape in diagnostics is `description`.
-/

namespace PixelBuffer

/-- The answer of a platform service: zero for success, otherwise a negated error number. -/
structure Status where
  code : Int32
deriving DecidableEq

/-- A call to the operating system that failed. -/
inductive IoFault where
  /-- The operating system gave an error number. -/
  | system (errno : Int32)
  /-- A name holds the character that ends names. -/
  | nulInName
  /-- A plane was asked for that the buffer of `count` planes does not have. -/
  | noSuchPlane (count : Nat)
deriving DecidableEq

/-- A disagreement between reported planes and the format or the memory behind them. -/
inductive LayoutFault where
  /-- The handle reports another number of planes than its format has. -/
  | planeCount (reported expected : Nat)
  /-- A plane ends behind the end of its backing. -/
  | overrun (plane : Nat) (stop backing : UInt64)
  /-- The handle has no descriptor for a plane. -/
  | missingDescriptor (plane : Nat)
deriving DecidableEq

/-- A reason for which no buffer is returned, or for which one is not given back. -/
inductive Failure where
  /-- A dimension is not positive, or the frame has no size. -/
  | invalidSize (width height : Int)
  /-- The device code stands for no format with a known layout. -/
  | unsupportedFormat (code : Int32)
  /-- The service refused the request. -/
  | allocationFailed (status : Status)
  /-- The service granted the request without a usable handle. -/
  | invalidHandle
  /-- The planes of the handle do not fit its format or its memory. -/
  | layout (fault : LayoutFault)
  /-- The service did not take a handle back. -/
  | freeFailed (status : Status)
  /-- The operating system refused a call. -/
  | io (fault : IoFault)
deriving DecidableEq

namespace Status

/-- Success. -/
def ok : Status := ⟨0⟩

/-- The request asks for more memory than can be had. -/
def noMemory : Status := ⟨-Errno.noMemory⟩

/-- The request is not acceptable. -/
def badValue : Status := ⟨-Errno.invalidArgument⟩

/-- The device behind the service is missing. -/
def notReady : Status := ⟨-Errno.noDevice⟩

/-- A failure without an error number. -/
def unknownError : Status := ⟨Int32.minValue⟩

/-- The named statuses. -/
def constants : List (String × Status) :=
  [("OK", ok), ("NO_MEMORY", noMemory), ("BAD_VALUE", badValue), ("NO_INIT", notReady),
    ("UNKNOWN_ERROR", unknownError)]

/-- The status of a failed system call: its negated number, if it has one. -/
def ofIoFault : IoFault → Status
  | .system errno => ⟨-errno⟩
  | .nulInName | .noSuchPlane _ => unknownError

/-- The wording of a status. -/
def message (status : Status) : String :=
  if status = ok then "OK"
  else if status = unknownError then "UNKNOWN_ERROR"
  else if status.code < 0 then
    Errno.message (-status.code.toInt) ++ " (" ++ toString status.code.toInt ++ ")"
  else "status " ++ toString status.code.toInt

/-- The shape of a status in diagnostics. -/
def description (status : Status) : String :=
  Text.tagged "Status" (toString status.code.toInt)

end Status

namespace IoFault

/-- The wording of a failed system call. -/
def message : IoFault → String
  | .system errno => Errno.message errno.toInt
  | .nulInName => "data provided contains a nul byte"
  | .noSuchPlane count => "buffer has " ++ toString count ++ " planes"

/-- The error number of a failed system call, if it has one. -/
def errno? : IoFault → Option Int32
  | .system errno => some errno
  | .nulInName | .noSuchPlane _ => none

/-- The name of the kind of failure. -/
def kindName : IoFault → String
  | .system errno => Errno.kindName errno.toInt
  | .nulInName | .noSuchPlane _ => "InvalidInput"

/-- The shape of a failed system call in diagnostics. -/
def description (fault : IoFault) : String :=
  match fault with
  | .system errno =>
      Text.record "Os" [("code", toString errno.toInt), ("kind", fault.kindName),
        ("message", "\"" ++ Errno.wording errno.toInt ++ "\"")]
  | .nulInName | .noSuchPlane _ =>
      Text.record "Custom" [("kind", fault.kindName), ("error", "\"" ++ fault.message ++ "\"")]

end IoFault

namespace LayoutFault

/-- The wording of a layout fault. -/
def message : LayoutFault → String
  | .planeCount reported expected =>
      "handle reports " ++ toString reported ++ " planes but format expects " ++ toString expected
  | .overrun plane stop backing =>
      "plane " ++ toString plane ++ " ends at byte " ++ toString stop ++ " past backing size " ++
        toString backing
  | .missingDescriptor plane => "no descriptor for plane " ++ toString plane

/-- The shape of a layout fault in diagnostics. -/
def description : LayoutFault → String
  | .planeCount reported expected =>
      Text.record "PlaneCount" [("reported", toString reported), ("expected", toString expected)]
  | .overrun plane stop backing =>
      Text.record "Overrun" [("plane", toString plane), ("end", toString stop),
        ("backing", toString backing)]
  | .missingDescriptor plane => Text.record "MissingDescriptor" [("plane", toString plane)]

end LayoutFault

namespace Failure

/-- The wording of a failure. -/
def message : Failure → String
  | .invalidSize width height => "invalid buffer size " ++ toString width ++ "x" ++ toString height
  | .unsupportedFormat code => "unsupported device format code " ++ Text.hex code.toUInt32.toNat
  | .allocationFailed status => "buffer allocation failed: " ++ status.message
  | .invalidHandle => "allocation service returned an invalid buffer handle"
  | .layout fault => "plane layout mismatch: " ++ fault.message
  | .freeFailed status => "error freeing framebuffer: " ++ status.message
  | .io fault => fault.message

/-- The shape of a failure in diagnostics. -/
def description : Failure → String
  | .invalidSize width height =>
      Text.record "InvalidSize" [("width", toString width), ("height", toString height)]
  | .unsupportedFormat code => Text.tagged "UnsupportedFormat" (toString code.toInt)
  | .allocationFailed status => Text.tagged "AllocationFailed" status.description
  | .invalidHandle => "InvalidHandle"
  | .layout fault => Text.tagged "PlaneLayoutMismatch" fault.description
  | .freeFailed status => Text.tagged "FreeFailed" status.description
  | .io fault => Text.tagged "Io" fault.description

/-- The wording of the underlying fault, for a failure that only wraps one. -/
def cause? : Failure → Option String
  | .layout fault => some fault.message
  | _ => none

end Failure

end PixelBuffer
