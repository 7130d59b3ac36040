import PixelBuffer.Resolver

/-!
# Resolving device codes

A code is resolved exactly when it stands for a format whose layout is known.
-/

namespace PixelBuffer

namespace Resolver

variable {resolver : Resolver} {code : Int32}

/-- A code is resolved to its format and the geometry of that. -/
theorem resolve_eq_ok_iff {resolved : Resolved} :
    resolver.resolve code = .ok resolved ↔
      resolver.format? code = some resolved.format ∧
        FormatGeometry.ofFormat? resolved.format = some resolved.geometry := by
  unfold resolve
  cases resolver.format? code with
  | none => simp
  | some format =>
      cases hgeometry : FormatGeometry.ofFormat? format with
      | none =>
          simp only [hgeometry, reduceCtorEq, Option.some.injEq, false_iff]
          rintro ⟨rfl, hsome⟩
          exact absurd (hgeometry.symm.trans hsome) (by simp)
      | some geometry =>
          simp only [hgeometry, Except.ok.injEq, Option.some.injEq]
          constructor
          · rintro rfl
            exact ⟨rfl, hgeometry⟩
          · rintro ⟨rfl, hsome⟩
            cases hgeometry.symm.trans hsome
            rfl

/-- A code that is not resolved stands for no format, or for one without a known layout. -/
theorem resolve_eq_error {failure : Failure} (h : resolver.resolve code = .error failure) :
    failure = .unsupportedFormat code ∧ ∀ format, resolver.format? code = some format →
      FormatGeometry.ofFormat? format = none := by
  unfold resolve at h
  split at h
  · rename_i hformat
    cases h
    exact ⟨rfl, by simp [hformat]⟩
  · rename_i format hformat
    split at h
    · rename_i hgeometry
      cases h
      refine ⟨rfl, fun other hother => ?_⟩
      cases hformat.symm.trans hother
      exact hgeometry
    · cases h

end Resolver

end PixelBuffer
