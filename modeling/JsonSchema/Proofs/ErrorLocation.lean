/-
  Errors are located at the values that they are about.

  * `ValidationError.Located`: the path of an error leads from the root to its
    value, and the causes are located at that value or inside it.
  * `Rule.check_located`, `Program.enter_located`: evaluation locates its
    errors, as long as the context stands where the value is.
  * `validate_located`: the errors of a schema that was built.
-/
import JsonSchema.Proofs.Errors
import JsonSchema.Proofs.Pointer
import JsonSchema.Proofs.Totality

namespace JsonSchema

/-- The path of an error leads to its value, and so do the paths of its causes, which continue
that of the error. -/
inductive ValidationError.Located (root : Json) : ValidationError → Prop
  | mk {path : String} {value : Json} {violation : Violation} {causes : List ValidationError}
      {parts : List String} :
      Pointer.toParts path = .ok parts → root.at? parts = some value →
      (∀ e ∈ causes, Located root e) →
      (∀ e ∈ causes, ∃ more, Pointer.toParts e.path = .ok (parts ++ more)) →
      Located root (.mk path value violation causes)

/-- A context stands where a value is. -/
structure Context.StandsAt (root : Json) (c : Context) (v : Json) : Prop where
  leads : root.at? c.path = some v
  uniqueKeys : v.UniqueKeys

/-- An error of an evaluation at a place is located, and not outside of the place. -/
def LocatedFrom (root : Json) (c : Context) (v : Json) (e : ValidationError) : Prop :=
  c.StandsAt root v →
    e.Located root ∧ ∃ more, Pointer.toParts e.path = .ok (c.path ++ more)

variable {root : Json}

theorem Context.StandsAt.push {c : Context} {v w : Json} {part : String} (h : c.StandsAt root v)
    (hp : (part, w) ∈ v.parts) : (c.push part).StandsAt root w where
  leads := Json.at?_push h.leads (Json.child?_of_mem_parts h.uniqueKeys hp)
  uniqueKeys := Json.uniqueKeys_of_mem_parts h.uniqueKeys hp

/-- An error at a place is located there, if its causes are located from there. -/
theorem locatedFrom_error {c : Context} {v : Json} {violation : Violation}
    {causes : List ValidationError} (h : ∀ e ∈ causes, LocatedFrom root c v e) :
    LocatedFrom root c v (c.error v violation causes) := by
  intro hc
  have hp : Pointer.toParts (Pointer.ofParts c.path) = .ok c.path :=
    Pointer.toParts_ofParts c.path
  constructor
  · refine .mk hp hc.leads ?_ ?_
    · intro e he
      exact (h e he hc).1
    · intro e he
      exact (h e he hc).2
  · refine ⟨[], ?_⟩
    rw [List.append_nil]
    exact hp

/-- Being located is inherited. -/
theorem inherited_located : Inherited (LocatedFrom root) where
  own _ h := locatedFrom_error h
  part {c v part w e} hp h := by
    intro hc
    obtain ⟨hl, more, hm⟩ := h (hc.push hp)
    refine ⟨hl, part :: more, ?_⟩
    simpa [Context.push] using hm

/-- A refusal to follow a reference is located. -/
theorem fail_located (c : Context) (v : Json) (violation : Violation) :
    (c.fail v violation).ErrorsAre (LocatedFrom root) c v := by
  intro e he
  rw [List.mem_singleton.1 he]
  exact locatedFrom_error fun e he => nomatch he

/-- The errors of a rule are located if those of the references in it are. -/
theorem Rule.check_located {follow : Follow (Except Fault)}
    (hf : ∀ r c v x, follow r c v = .ok x → x.ErrorsAre (LocatedFrom root) c v) (rule : Rule)
    (c : Context) (v : Json) {x : Result} (h : rule.check follow c v = .ok x) :
    x.ErrorsAre (LocatedFrom root) c v := by
  induction rule using Rule.children_induction generalizing c v x with
  | step rule ih =>
    refine inherited_located.of_yields ((Rule.gives_check .plain).1 h) ?_ ?_
    · intro reference x _ hx
      exact hf reference c v x hx
    · intro t ht x hx
      obtain ⟨hchild, -⟩ := Rule.tasks_spec ht
      exact ih t.rule hchild t.context t.value hx

/-- The errors of following a reference are located. -/
theorem Program.enter_located (p : Program) (limit remaining : ℕ) (reference : String) (c : Context)
    (v : Json) (x : Result) (h : p.enter limit remaining reference c v = (.ok x : Except Fault Result)) :
    x.ErrorsAre (LocatedFrom root) c v := by
  induction remaining generalizing reference c v x with
  | zero =>
    by_cases hf : c.isFollowing reference = true
    · rw [Program.enter_following hf] at h
      cases h
      exact fail_located c v _
    · rw [Program.enter_zero hf] at h
      cases h
      exact fail_located c v _
  | succ remaining ih =>
    by_cases hf : c.isFollowing reference = true
    · rw [Program.enter_following hf] at h
      cases h
      exact fail_located c v _
    · cases ht : p.target? reference with
      | none =>
        rw [Program.enter_dangling hf ht] at h
        cases h
      | some target =>
        rw [Program.enter_succ hf ht] at h
        intro e he hc
        -- the frame of the reference does not move the place
        have hc' : (c.follow reference).StandsAt root v := ⟨hc.leads, hc.uniqueKeys⟩
        exact target.check_located ih (c.follow reference) v h e he hc'

/-- **Every error is located at the value that it is about**, and so are its causes.  An object
holds no key twice; as its members are a list here, this has to be said.  It is true of all that
is read (`Json.uniqueKeys_of_read`). -/
theorem validate_located {D : Members} {options : Options} {s : Schema}
    (h : (Schema.build (.object D) options).schema = .ok s) {v : Json} (hv : v.UniqueKeys) :
    ∀ e ∈ (s.validate v).errors, e.Located v := by
  intro e he
  have hc : (Context.start s.verbose).StandsAt v v := ⟨rfl, hv⟩
  have hl : (s.validate v).ErrorsAre (LocatedFrom v) (.start s.verbose) v :=
    s.program.root.check_located (s.program.enter_located s.depth _) _ _ (validate?_eq h v)
  exact (hl e he hc).1

theorem validate_located_listValue :
    listValue.UniqueKeys ∧ (listSchema.validate listValue).errors ≠ [] ∧
      ∀ e ∈ (listSchema.validate listValue).errors, e.Located listValue := by
  have hu : listValue.UniqueKeys := by
    simp [listValue, Json.UniqueKeys, Json.UniqueKeysMembers, Members.keys]
  refine ⟨hu, ?_, validate_located build_listSchema hu⟩
  rw [Schema.validate, Schema.validate?, listSchema_program]
  exact List.cons_ne_nil _ _

end JsonSchema
