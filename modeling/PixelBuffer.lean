import PixelBuffer.Main
import PixelBuffer.Platform.History
import PixelBuffer.Proofs.Client
import PixelBuffer.Proofs.Plane.Agreement
import PixelBuffer.Proofs.Platform.Opening
import PixelBuffer.Service.Script
import PixelBuffer.Proofs.Allocator.Outcome
import PixelBuffer.Proofs.Allocator.Requests
import PixelBuffer.Proofs.Allocator.Soundness
import PixelBuffer.Proofs.Session.Ownership
import PixelBuffer.Proofs.Packing.Groups
import PixelBuffer.Proofs.Service.Memory
import PixelBuffer.Proofs.Session.Answers
import PixelBuffer.Proofs.Session.Descriptors
import PixelBuffer.Proofs.Handle.Codec
import PixelBuffer.Proofs.Service.History
import PixelBuffer.Proofs.Session.Reports
import PixelBuffer.Proofs.Platform.Sharing
import PixelBuffer.Proofs.Geometry
import PixelBuffer.Proofs.Geometry.Cover
import PixelBuffer.Proofs.Packing.Limits
import PixelBuffer.Proofs.Handle.Open
import PixelBuffer.Proofs.Plane.Consecutive
import PixelBuffer.Proofs.Plane.Reported
import PixelBuffer.Proofs.Probe
import PixelBuffer.Proofs.Packing.Pitch
import PixelBuffer.Proofs.Plane.Footprint
import PixelBuffer.Proofs.Allocator.Extents
import PixelBuffer.Proofs.FourCC
import PixelBuffer.Proofs.Packing.Smaller
import PixelBuffer.Proofs.CommandLine.Values
