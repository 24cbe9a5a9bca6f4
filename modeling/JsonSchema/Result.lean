/-
  Results of validation.

  * `Result`: a verdict and the errors behind it, in the order of evaluation.
  * `Result.merge`: valid if all parts are; otherwise with the errors of the
    parts that are not.
-/
import JsonSchema.Violation

namespace JsonSchema

/-- A verdict and its errors. -/
structure Result where
  valid : Bool
  errors : List ValidationError

namespace Result

/-- Nothing is wrong. -/
def success : Result := ⟨true, []⟩

/-- Something is wrong. -/
def failure (errors : List ValidationError) : Result := ⟨false, errors⟩

/-- All results in one. -/
def merge (results : List Result) : Result :=
  ⟨results.all (·.valid), (results.filter (!·.valid)).flatMap (·.errors)⟩

/-- The same verdict for the same errors; the failing values do not count. -/
def same (a b : Result) : Bool := a.valid == b.valid && ValidationError.sameAll a.errors b.errors

end Result

end JsonSchema
