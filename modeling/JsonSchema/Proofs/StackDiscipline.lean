/-
  The discipline of the stacks.

  * `Stacks.Disciplined`: the references that are being followed are distinct
    and not too many, each was met on the way from the one before to the value
    at hand, and all that is on the stacks is found where it says.
  * `Disciplined.push`, `Disciplined.enter`: what a step into the value and a
    reference preserve, with the guards that let the reference through.
  * `Program.enterStacks_keeps`: following a reference keeps the stacks, and
    gives what `Program.enter` gives for the place.
  * `Schema.perform_disciplined`: all calls of a validation.
-/
import JsonSchema.Proofs.Stacks
import JsonSchema.Proofs.Frames
import Mathlib.Data.List.Chain

namespace JsonSchema

variable {root v w : Json} {limit remaining : ℕ} {σ : Stacks} {reference part : String}

/-- What holds of the stacks whenever a rule is evaluated on a value. -/
structure Stacks.Disciplined (root : Json) (limit : ℕ) (σ : Stacks) (v : Json) : Prop where
  distinct : σ.frames.Nodup
  bounded : σ.active.length ≤ limit
  nested : List.IsChain (· <+: ·) (σ.frames.map (·.path) ++ [σ.path])
  found : root.at? σ.path = some v
  entered : ∀ e ∈ σ.active, root.at? e.frame.path = some e.value

namespace Stacks.Disciplined

/-- Nothing is on the stacks before a validation. -/
theorem empty (root : Json) (limit : ℕ) : Stacks.empty.Disciplined root limit root where
  distinct := List.nodup_nil
  bounded := Nat.zero_le limit
  nested := List.isChain_singleton _
  found := rfl
  entered _ h := nomatch h

/-- A step down into the value. -/
theorem push (h : σ.Disciplined root limit v) (hv : v.UniqueKeys) (hw : (part, w) ∈ v.parts) :
    (σ.push part).Disciplined root limit w where
  distinct := h.distinct
  bounded := h.bounded
  nested := by
    obtain ⟨hframes, -, hlast⟩ := List.isChain_append.1 h.nested
    refine List.isChain_append.2 ⟨hframes, List.isChain_singleton _, ?_⟩
    rintro path hpath _ ⟨⟩
    exact (hlast path hpath σ.path rfl).trans (List.prefix_append _ _)
  found := Json.at?_push h.found (Json.child?_of_mem_parts hv hw)
  entered := h.entered

/-- One reference more, if it is not being followed from here and there is room for it. -/
theorem enter (h : σ.Disciplined root limit v) (hnew : ⟨reference, σ.path⟩ ∉ σ.frames)
    (hroom : σ.active.length < limit) : (σ.enter reference v).Disciplined root limit v where
  distinct := by
    rw [Stacks.frames_enter]
    exact List.nodup_append'.2 ⟨h.distinct, List.nodup_singleton _, by simpa using hnew⟩
  bounded := by
    rw [Stacks.enter, List.length_append, List.length_singleton]
    exact hroom
  nested := by
    rw [Stacks.frames_enter, List.map_append]
    refine List.isChain_append.2 ⟨h.nested, List.isChain_singleton _, ?_⟩
    rintro path hpath _ ⟨⟩
    have hpath : path = σ.path := by simpa using hpath.symm
    rw [hpath]
    exact List.prefix_rfl
  found := h.found
  entered e he := by
    rcases List.mem_append.1 he with he | he
    · exact h.entered e he
    · rw [List.mem_singleton.1 he]
      exact h.found

end Stacks.Disciplined

/-- Disciplined stacks with room for just as many references as may still be followed. -/
structure Stacks.Ready (root : Json) (limit remaining : ℕ) (σ : Stacks) (v : Json) : Prop where
  disciplined : σ.Disciplined root limit v
  uniqueKeys : v.UniqueKeys
  room : σ.active.length + remaining = limit

theorem Stacks.Ready.push (h : σ.Ready root limit remaining v) (hw : (part, w) ∈ v.parts) :
    (σ.push part).Ready root limit remaining w :=
  ⟨h.disciplined.push h.uniqueKeys hw, Json.uniqueKeys_of_mem_parts h.uniqueKeys hw, h.room⟩

theorem Stacks.Ready.enter (h : σ.Ready root limit (remaining + 1) v)
    (hnew : ⟨reference, σ.path⟩ ∉ σ.frames) :
    (σ.enter reference v).Ready root limit remaining v := by
  have hroom := h.room
  refine ⟨h.disciplined.enter hnew (by omega), h.uniqueKeys, ?_⟩
  rw [Stacks.enter, List.length_append, List.length_singleton]
  omega

open Machine

/-- **Following a reference keeps the stacks.**  The induction is on how many more may be followed:
the calls inside of the reference are those of its target with one less. -/
theorem Program.enterStacks_keeps (p : Program) (verbose : Bool)
    (h : σ.Ready root limit remaining v) :
    Keeps (Stacks.Disciplined root limit) σ (p.enterStacks verbose limit remaining reference v)
      (p.enter limit remaining reference (σ.context verbose) v) := by
  induction remaining generalizing σ v reference with
  | zero =>
    rw [Program.enterStacks]
    refine .current ?_
    split_ifs with hfollowing hfull
    · rw [enter_following hfollowing]
      exact .fail v _
    · rw [enter_zero hfollowing]
      exact .fail v _
    · have := h.room
      omega
  | succ remaining ih =>
    have hroom := h.room
    rw [Program.enterStacks]
    refine .current ?_
    split_ifs with hfollowing hfull
    · rw [enter_following hfollowing]
      exact .fail v _
    · omega
    · cases ht : p.target? reference with
      | none =>
        rw [enter_dangling hfollowing ht]
        exact .throw _
      | some target =>
        rw [enter_succ hfollowing ht, ← Stacks.context_enter σ reference v]
        have hready := h.enter fun hm => hfollowing (Context.isFollowing_iff.2 hm)
        have hkept : target.Kept (Stacks.Disciplined root limit) (Stacks.Ready root limit remaining)
            verbose (p.enterStacks verbose limit remaining) (p.enter limit remaining) :=
          target.perform_keeps .push (·.disciplined) fun _ _ _ => ih
        exact .inside (hkept _ _ hready)

/-- **Every call of a validation finds disciplined stacks and leaves them as they were**, however it
ends.  The validation itself is a call, with nothing on the stacks, and gives the result that the
schema gives for the value.  That an object holds no key twice has to be said, as its members are a
list here. -/
theorem Schema.perform_disciplined (s : Schema) {v : Json} (hv : v.UniqueKeys) :
    ∃ calls, s.perform v = (s.validate? v, ⟨.empty, calls⟩) ∧
      ⟨s.program.root, v, .empty, .empty⟩ ∈ calls ∧
      ∀ call ∈ calls, call.after = call.before ∧
        call.before.Disciplined v s.depth call.value := by
  have hready : Stacks.empty.Ready v s.depth s.depth v :=
    ⟨.empty v s.depth, hv, Nat.zero_add s.depth⟩
  have hkept : s.program.root.Kept (Stacks.Disciplined v s.depth) (Stacks.Ready v s.depth s.depth)
      s.verbose (s.program.enterStacks s.verbose s.depth s.depth)
      (s.program.enter s.depth s.depth) :=
    s.program.root.perform_keeps .push (·.disciplined)
      fun _ _ _ => s.program.enterStacks_keeps s.verbose
  obtain ⟨calls, hrun, hcalls⟩ := hkept _ _ hready []
  refine ⟨calls, hrun, ?_, fun call hcall => ⟨(hcalls call hcall).1, (hcalls call hcall).2⟩⟩
  -- the log ends with the call of the root
  obtain ⟨x, hx⟩ := s.program.root.exists_perform_eq_call s.verbose
    (s.program.enterStacks s.verbose s.depth s.depth) v
  obtain ⟨ending, between, hbody⟩ : ∃ ending between, x.run.run ⟨.empty, []⟩ = (ending, between) :=
    ⟨_, _, rfl⟩
  rw [hx, run_call _ _ hbody] at hrun
  obtain ⟨hcurrent, hlog⟩ := Memory.mk.inj (Prod.mk.inj hrun).2
  rw [← List.nil_append calls, ← hlog, hcurrent]
  exact List.mem_append_right _ (List.mem_singleton_self _)

theorem perform_disciplined_listValue : listValue.UniqueKeys ∧
    ∃ calls, listSchema.perform listValue = (listSchema.validate? listValue, ⟨.empty, calls⟩) ∧
      ⟨listSchema.program.root, listValue, .empty, .empty⟩ ∈ calls ∧
      ∀ call ∈ calls, call.after = call.before ∧
        call.before.Disciplined listValue listSchema.depth call.value := by
  have hu : listValue.UniqueKeys := by
    simp [listValue, Json.UniqueKeys, Json.UniqueKeysMembers, Members.keys]
  exact ⟨hu, listSchema.perform_disciplined hu⟩

end JsonSchema
