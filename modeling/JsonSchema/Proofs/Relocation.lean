/-
  Evaluation does not depend on where a value lies.

  * `ValidationError.relocated`: an error as it reads inside a larger value, its
    path and those of its causes put behind the path to the place.
  * `relocation`: places, with the frames of the references that are being
    followed, and errors, all moved below a path at once.
  * `relocation_guarded`: a reference that is being followed from the same place
    is so after both have moved, so the guards decide alike.
  * `nested_errors_relocated`: what any rule of a schema says of a value inside
    another one is what it says of the value on its own, relocated.
-/
import JsonSchema.Proofs.Totality
import JsonSchema.Proofs.Translation

namespace JsonSchema

/-- Pointers are put behind each other as the paths are. -/
theorem Pointer.ofParts_append (before after : List String) :
    ofParts (before ++ after) = ofParts before ++ ofParts after := by
  simp [ofParts]

/-! ## Below a path -/

variable (above : List String)

namespace ValidationError

mutual

/-- An error by a value that lies below a path. -/
def relocated : ValidationError → ValidationError
  | mk path value violation causes =>
    mk (Pointer.ofParts above ++ path) value violation (relocatedAll causes)
termination_by structural e => e

/-- Errors by values that lie below a path. -/
def relocatedAll : List ValidationError → List ValidationError
  | [] => []
  | e :: es => e.relocated :: relocatedAll es
termination_by structural es => es

end

theorem relocatedAll_eq (es : List ValidationError) :
    relocatedAll above es = es.map (relocated above) := by
  induction es with
  | nil => rfl
  | cons e es ih => rw [relocatedAll, ih, List.map_cons]

end ValidationError

/-- A result for a value that lies below a path. -/
def Result.relocated : Result → Result := mapErrors (.relocated above)

/-- A reference that is being followed from below a path. -/
def Frame.relocated (f : Frame) : Frame := ⟨f.reference, above ++ f.path⟩

theorem Frame.relocated_injective : Function.Injective (Frame.relocated above) := by
  rintro ⟨r, path⟩ ⟨r', path'⟩ he
  obtain ⟨rfl, hpath⟩ := Frame.mk.inj he
  exact congrArg (Frame.mk r) (List.append_cancel_left hpath)

namespace Context

variable (c : Context)

/-- A place below a path; the references have been followed from below it, too. -/
def relocated : Context :=
  { c with path := above ++ c.path, active := c.active.map (Frame.relocated above) }

theorem relocated_push (part : String) :
    (c.push part).relocated above = (c.relocated above).push part := by
  simp [relocated, push]

theorem relocated_follow (reference : String) :
    (c.follow reference).relocated above = (c.relocated above).follow reference := by
  simp [relocated, follow, frame, Frame.relocated]

/-- A frame is met again below a path exactly if it was met before. -/
theorem isFollowing_relocated (reference : String) :
    (c.relocated above).isFollowing reference = c.isFollowing reference := by
  have hmem : (c.frame reference).relocated above ∈ c.active.map (Frame.relocated above) ↔
      c.frame reference ∈ c.active :=
    List.mem_map_of_injective (Frame.relocated_injective above)
  rw [Bool.eq_iff_iff, isFollowing, isFollowing, List.contains_iff_mem, List.contains_iff_mem]
  exact hmem

theorem causes_relocated (rs : List Result) :
    (c.relocated above).causes (rs.map (Result.relocated above)) =
      (c.causes rs).map (ValidationError.relocated above) := by
  simp only [causes, relocated, List.flatMap_map, Result.relocated, Result.mapErrors]
  split_ifs
  · exact List.map_flatMap.symm
  · rfl

theorem relocated_error (v : Json) (violation : Violation) (causes : List ValidationError) :
    (c.error v violation causes).relocated above =
      (c.relocated above).error v violation (causes.map (ValidationError.relocated above)) := by
  simp only [error, pointer, relocated, ValidationError.relocated, ValidationError.relocatedAll_eq,
    Pointer.ofParts_append]

end Context

/-- Places and errors are moved below a path. -/
def relocation : Translation where
  place := Context.relocated above
  error := ValidationError.relocated above
  place_push := Context.relocated_push above
  error_combinator c v violation rs := by
    rw [Context.relocated_error, ← Context.causes_relocated]
    rfl

theorem relocation_guarded : (relocation above).Guarded where
  place_follow := Context.relocated_follow above
  isFollowing_place := Context.isFollowing_relocated above

/-! ## Evaluation -/

/-- **Evaluation below a path is evaluation, relocated**, also while references are being followed,
as long as their frames are moved along. -/
theorem Program.evaluate_relocated (p : Program) (limit : ℕ) (rule : Rule) (c : Context) (v : Json) :
    p.evaluate limit rule (c.relocated above) v =
      (Result.relocated above <$> p.evaluate limit rule c v : Except Fault Result) := by
  -- as many references may still be followed
  have hactive : (c.relocated above).active.length = c.active.length := List.length_map _
  unfold evaluate
  rw [hactive]
  refine rule.check_translate (T := relocation above) ?_ c v
  intro reference c' v'
  exact p.enter_translate (relocation_guarded above) limit _ (fun _ => rfl) reference c' v'

/-- **The errors of a nested value are those of the value on its own, relocated.**  Every rule
anywhere in the program of a schema has a result for every value on its own, under every limit and
verbose or not; and at a path, before any reference is followed, it has the same result, but that
the path stands before those of the errors and of all their causes. -/
theorem nested_errors_relocated {D : Members} {options : Options} {s : Schema}
    (h : (Schema.build (.object D) options).schema = .ok s) {rule : Rule}
    (hrule : s.program.Node rule) (path : List String) (limit : ℕ) (verbose : Bool) (v : Json) :
    ∃ r, s.program.evaluate limit rule (.start verbose) v = (.ok r : Except Fault Result) ∧
      s.program.evaluate limit rule ⟨path, [], verbose⟩ v =
        (.ok (r.relocated path) : Except Fault Result) := by
  have hp := closed_of_build h
  obtain ⟨r, hr⟩ := @Program.evaluate_total _ limit hp _ (hp.supports hrule) (.start verbose) v
  have hplace : (Context.start verbose).relocated path = ⟨path, [], verbose⟩ := by
    simp [Context.relocated, Context.start]
  refine ⟨r, hr, ?_⟩
  rw [← hplace, Program.evaluate_relocated, hr]
  rfl

theorem nested_errors_relocated_listValue :
    listSchema.program.Node (.reference rootReference) ∧
      ∃ r, listSchema.program.evaluate 64 (.reference rootReference) (.start true) listValue =
          (.ok r : Except Fault Result) ∧
        r.errors ≠ [] ∧
        listSchema.program.evaluate 64 (.reference rootReference) ⟨["lists", "a/b"], [], true⟩
          listValue = (.ok (r.relocated ["lists", "a/b"]) : Except Fault Result) := by
  have hnode : listSchema.program.Node (.reference rootReference) := by
    rw [listSchema_program]
    exact .reference rfl rfl
  obtain ⟨r, hr, hbelow⟩ :=
    nested_errors_relocated build_listSchema hnode ["lists", "a/b"] 64 true listValue
  refine ⟨hnode, r, hr, ?_, hbelow⟩
  rw [listSchema_program] at hr
  cases hr
  exact List.cons_ne_nil _ _

end JsonSchema
