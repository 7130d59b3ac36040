import PixelBuffer.Proofs.Allocator.Outcome

/-!
# Requests that reach the service

An allocation makes one request, and only when size, code and frame are in order. A failure for the
size or the code therefore says that the service was not asked at all: once the bytes of a frame can
be counted, no handle leads to such a failure.
-/

namespace PixelBuffer

namespace Allocator

variable {σ : Type} {allocator : Allocator σ} {code : Int32} {size : Size} {usage : Usage}
  {client after : Client σ} {result : Except Failure Buffer}

/-- An accepted request is made once, and nothing else is requested. -/
theorem Allocates.request_once {resolved : Resolved}
    (h : allocator.Allocates code size usage client result after)
    (haccepts : allocator.Accepts code size resolved) :
    ∃ rest, after.calls = client.calls ++ (.request (request code size usage) :: rest).toArray ∧
      ∀ other, Call.request other ∉ rest := by
  cases h with
  | rejected checked => cases checked.symm.trans (check_eq_ok_iff.mpr haccepts)
  | refused => exact ⟨[], rfl, by simp⟩
  | withoutHandle => exact ⟨[], rfl, by simp⟩
  | @unusable granted answer => exact ⟨[.issue granted.handle, .free _ answer], rfl, by simp⟩
  | @mismatched granted _ _ _ answer =>
      exact ⟨[.issue granted.handle, .free _ answer], rfl, by simp⟩
  | found granted => exact ⟨[.issue granted.handle], rfl, by simp⟩

/-- Once the bytes of a frame can be counted, a search for planes fails for the planes only. -/
theorem finds_ofPlanes {handle : Handle} {geometry : FormatGeometry} {before later : Platform}
    {failure : Failure} {total : UInt64} (hframe : geometry.frameBytes? size = some total)
    (h : handle.Finds geometry size before (.error failure) later) : failure.OfPlanes := by
  cases h with
  | failed decided => exact Handle.sites_ofPlanes hframe decided

/-- A failure for the size or the code leaves everything as it was. -/
theorem Allocates.eq_of_ofRequest {failure : Failure}
    (h : allocator.Allocates code size usage client (.error failure) after)
    (hfailure : failure.OfRequest) : after = client := by
  cases h with
  | rejected => rfl
  | refused => exact hfailure.elim
  | withoutHandle => exact hfailure.elim
  | unusable => exact hfailure.elim
  | mismatched granted _ finds =>
      obtain ⟨_, hframe⟩ := (check_eq_ok_iff.mp granted.checked).frame
      exact absurd hfailure (finds_ofPlanes hframe finds).not_ofRequest

/-- An accepted request is made exactly once, with the given size, code and usage, for one layer and
under the name of the allocator, and the calls are what the service was asked and answered. Any other
request, and any request that fails for its size or its code, leaves the service, the platform, the
log and the calls as they were. No handle that a service may offer for an accepted request makes the
search for its planes fail for the size or the code. -/
theorem allocate_requests (allocator : Allocator σ) (code : Int32) (size : Size) (usage : Usage)
    (client : Client σ) :
    (∀ resolved, allocator.Accepts code size resolved →
      ∃ rest, (allocator.allocate code size usage client).2.calls =
          client.calls ++ (.request ⟨size.width, size.height, code, 1, usage,
            "edgefirst-framebuffer"⟩ :: rest).toArray ∧
        ∀ other, Call.request other ∉ rest) ∧
    client.Replayed allocator.service (allocator.allocate code size usage client).2 ∧
    ((∀ resolved, ¬ allocator.Accepts code size resolved) →
      (allocator.allocate code size usage client).2 = client) ∧
    (∀ failure, (allocator.allocate code size usage client).1 = .error failure →
      failure.OfRequest → (allocator.allocate code size usage client).2 = client) ∧
    ∀ resolved, allocator.Accepts code size resolved →
      ∀ (world : World) (offer : Offer) (failure : Failure),
        ((world.platform.accept offer).1.findPlanes resolved.geometry size
          { world with platform := (world.platform.accept offer).2 }).1 = .error failure →
        ¬ failure.OfRequest := by
  have hends := allocator.allocate_allocates code size usage client
  refine ⟨fun _ => hends.request_once, hends.replayed, hends.eq_of_not_accepts, ?_, ?_⟩
  · intro failure hfailure hrequest
    rw [hfailure] at hends
    exact hends.eq_of_ofRequest hrequest
  · intro resolved haccepts world offer failure hfailure
    obtain ⟨_, hframe⟩ := haccepts.frame
    have hopened := world.platform.accept_opened offer
    obtain ⟨-, hfinds⟩ := @Handle.findPlanes_finds (world.platform.accept offer).1
      resolved.geometry size { world with platform := (world.platform.accept offer).2 }
      fun descriptor hm => (hopened.number_bounds hm).2
    rw [hfailure] at hfinds
    exact (finds_ofPlanes hframe hfinds).not_ofRequest

end Allocator

end PixelBuffer
