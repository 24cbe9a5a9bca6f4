/-
  Verbosity only fills in causes.

  * `ValidationError.withoutCauses`: an error without the errors of branches.
  * `quiet`: places as they would be if nothing were verbose; errors there have
    no causes.
  * `verbose_fills_causes`: verbose or not, a schema gives the same result but
    for the causes, and if it is not verbose there are none.
-/
import JsonSchema.Proofs.Totality
import JsonSchema.Proofs.Translation

namespace JsonSchema

/-! ## Without causes -/

/-- An error without the errors of branches. -/
def ValidationError.withoutCauses : ValidationError → ValidationError
  | mk path value violation _ => mk path value violation []

@[simp] theorem ValidationError.causes_withoutCauses (e : ValidationError) :
    e.withoutCauses.causes = [] := by
  cases e
  rfl

/-- A result without the errors of branches. -/
def Result.withoutCauses : Result → Result := mapErrors ValidationError.withoutCauses

/-- Any place as it would be if nothing were verbose. -/
def Context.quiet (c : Context) : Context := { c with verbose := false }

/-- Places as they would be if nothing were verbose, and errors without causes. -/
def quiet : Translation where
  place := Context.quiet
  error := ValidationError.withoutCauses
  place_push _ _ := rfl
  error_combinator _ _ _ _ := rfl

theorem quiet_guarded : quiet.Guarded where
  place_follow _ _ := rfl
  isFollowing_place _ _ := rfl

/-- **What is not verbose gives what would be given verbosely, without the causes.** -/
theorem Program.evaluate_quiet (p : Program) (limit : ℕ) (rule : Rule) (c : Context) (v : Json) :
    p.evaluate limit rule c.quiet v =
      (Result.withoutCauses <$> p.evaluate limit rule c v : Except Fault Result) := by
  refine rule.check_translate (T := quiet) ?_ c v
  intro reference c' v'
  exact p.enter_translate quiet_guarded limit _ (fun _ => rfl) reference c' v'

/-! ## Schemas -/

/-- The schema, verbose or not. -/
def Schema.withVerbose (s : Schema) (verbose : Bool) : Schema := { s with verbose := verbose }

/-- Verbosity has no part in compiling. -/
theorem build_withVerbose {D : Members} {options : Options} {s : Schema}
    (h : (Schema.build (.object D) options).schema = .ok s) (verbose : Bool) :
    (Schema.build (.object D) { options with verbose := verbose }).schema =
      .ok (s.withVerbose verbose) := by
  obtain ⟨registry, hr, hd, hf, rfl⟩ := build_eq_ok_iff.1 h
  exact build_eq_ok_iff.2 ⟨registry, hr, hd, hf, rfl⟩

/-- **Verbosity only fills in causes.**  If a document compiles, it does so verbosely and not
verbosely, and the two schemas give every value the same verdict for the same errors in the same
order, but for the causes.  If the schema is not verbose, no error has any. -/
theorem verbose_fills_causes {D : Members} {options : Options} {s : Schema}
    (h : (Schema.build (.object D) options).schema = .ok s) (v : Json) :
    ∃ terse loud, (Schema.build (.object D) { options with verbose := false }).schema = .ok terse ∧
      (Schema.build (.object D) { options with verbose := true }).schema = .ok loud ∧
      (loud.validate v).withoutCauses = terse.validate v ∧
      ∀ e ∈ (terse.validate v).errors, e.causes = [] := by
  have hterse := build_withVerbose h false
  have hloud := build_withVerbose h true
  have heval : (s.withVerbose false).validate? v =
      Result.withoutCauses <$> (s.withVerbose true).validate? v :=
    Program.evaluate_quiet s.program s.depth s.program.root (.start true) v
  rw [validate?_eq hterse, validate?_eq hloud] at heval
  have hsame : (s.withVerbose false).validate v =
      ((s.withVerbose true).validate v).withoutCauses := Except.ok.inj heval
  refine ⟨_, _, hterse, hloud, hsame.symm, ?_⟩
  intro e he
  rw [hsame] at he
  obtain ⟨e', -, rfl⟩ := List.mem_map.1 he
  exact e'.causes_withoutCauses

theorem verbose_fills_causes_listValue :
    (Schema.build (.object listDocument) .default).schema = .ok listSchema ∧
      ∃ terse loud,
        (Schema.build (.object listDocument) { Options.default with verbose := false }).schema =
          .ok terse ∧
        (Schema.build (.object listDocument) { Options.default with verbose := true }).schema =
          .ok loud ∧
        (loud.validate listValue).withoutCauses = terse.validate listValue ∧
        ∀ e ∈ (terse.validate listValue).errors, e.causes = [] :=
  ⟨build_listSchema, verbose_fills_causes build_listSchema listValue⟩

end JsonSchema
