/-
  Evaluation with two stacks that it shares.

  In `Rule.check` a place is handed down and nothing has to be undone.  Here the
  path and the references that are being followed are kept in one memory, which
  is pushed to before something is evaluated and popped from behind it.

  * `Stacks`: the path, and the references with the values they were entered
    with.
  * `Machine`: computations that change a memory, also when they fail; the
    memory has a log of calls, each with the stacks before and behind it.
  * `Rule.perform`, `Program.enterStacks`, `Schema.perform`: evaluation by such
    computations.  Guards and errors go by the stacks as they are found.
  * `Machine.Keeps`: a computation ends as is said, leaves the stacks as they
    were, and so do all its calls.
  * `Rule.perform_keeps`: rules keep the stacks if references do, and what
    comes of them is what `Rule.check` gives.

  These stacks are not the one on which the calls are made.  That is taken as
  unbounded, as in `Program.enter`: no reference is reported as too deep because
  it ran out, and nothing is unwound for that.
-/
import JsonSchema.Proofs.Plan
import JsonSchema.Schema

namespace JsonSchema

/-! ## Stacks -/

/-- A reference that is being followed, and the value that it was entered with. -/
structure Entry where
  frame : Frame
  value : Json

/-- The path to the value at hand, and the references that are being followed. -/
structure Stacks where
  path : List String
  active : List Entry

namespace Stacks

/-- Before a validation. -/
def empty : Stacks := ⟨[], []⟩

/-- The frames of the references that are being followed. -/
def frames (σ : Stacks) : List Frame := σ.active.map (·.frame)

/-- One step down. -/
def push (σ : Stacks) (part : String) : Stacks := { σ with path := σ.path ++ [part] }

/-- One step up. -/
def pop (σ : Stacks) : Stacks := { σ with path := σ.path.dropLast }

/-- One reference more, at this place. -/
def enter (σ : Stacks) (reference : String) (v : Json) : Stacks :=
  { σ with active := σ.active ++ [⟨⟨reference, σ.path⟩, v⟩] }

/-- One reference less. -/
def leave (σ : Stacks) : Stacks := { σ with active := σ.active.dropLast }

/-- The place that the stacks stand for. -/
def context (σ : Stacks) (verbose : Bool) : Context := ⟨σ.path, σ.frames, verbose⟩

@[simp] theorem pop_push (σ : Stacks) (part : String) : (σ.push part).pop = σ := by
  simp [push, pop]

@[simp] theorem leave_enter (σ : Stacks) (reference : String) (v : Json) :
    (σ.enter reference v).leave = σ := by
  simp [enter, leave]

@[simp] theorem frames_enter (σ : Stacks) (reference : String) (v : Json) :
    (σ.enter reference v).frames = σ.frames ++ [⟨reference, σ.path⟩] := by
  simp [frames, enter]

@[simp] theorem context_push (σ : Stacks) (part : String) (verbose : Bool) :
    (σ.push part).context verbose = (σ.context verbose).push part := rfl

@[simp] theorem context_enter (σ : Stacks) (reference : String) (v : Json) (verbose : Bool) :
    (σ.enter reference v).context verbose = (σ.context verbose).follow reference := by
  rw [context, frames_enter]
  rfl

end Stacks

/-! ## Machines -/

/-- A rule that was evaluated on a value, with the stacks before and behind. -/
structure Call where
  rule : Rule
  value : Json
  before : Stacks
  after : Stacks

/-- What an evaluation keeps: the stacks, and a log of the calls that have ended. -/
structure Memory where
  current : Stacks
  calls : List Call

/-- Computations on a memory, which outlives a fault. -/
abbrev Machine := ExceptT Fault (StateM Memory)

namespace Machine

variable {α β : Type}

/-- The stacks as they are. -/
def current : Machine Stacks := return (← get).current

/-- The place as it is. -/
def here (verbose : Bool) : Machine Context := return (← current).context verbose

/-- Changes the stacks. -/
def change (f : Stacks → Stacks) : Machine Unit :=
  modify fun memory => { memory with current := f memory.current }

/-- Adds a call to the log. -/
def log (call : Call) : Machine Unit :=
  modify fun memory => { memory with calls := memory.calls ++ [call] }

/-- Below a part of the value. -/
def below (part : String) (x : Machine α) : Machine α := do
  change (·.push part)
  try x finally change Stacks.pop

/-- Inside of a reference. -/
def inside (reference : String) (v : Json) (x : Machine α) : Machine α := do
  change (·.enter reference v)
  try x finally change Stacks.leave

/-- The evaluation of a rule on a value, which is logged however it ends. -/
def call (rule : Rule) (v : Json) (x : Machine Result) : Machine Result := do
  let before ← current
  try x finally
    let after ← current
    log ⟨rule, v, before, after⟩

/-- The result for a violation at the place as it is. -/
def fail (verbose : Bool) (v : Json) (violation : Violation) : Machine Result :=
  return (← here verbose).fail v violation

end Machine

/-! ## Evaluation -/

section
variable (verbose : Bool) (enter : String → Json → Machine Result)

open Machine

mutual

/-- Evaluates a rule on the value at hand.  What looks at no other rule is done as ever. -/
def Rule.perform : Rule → Json → Machine Result
  | .combined rules, v => call (.combined rules) v do
    return .merge (← Rule.performAll rules v)
  | .allOf branches, v => call (.allOf branches) v do
    return .merge (← Rule.performAll branches v)
  | .anyOf branches, v => call (.anyOf branches) v do
    Rule.performAny branches v []
  | .oneOf branches, v => call (.oneOf branches) v do
    let results ← Rule.performAll branches v
    return exactlyOne (← here verbose) v results
  | .not rule, v => call (.not rule) v do
    let result ← rule.perform v
    if result.valid then fail verbose v .not else return .success
  | .array limits items, .array values => call (.array limits items) (.array values) do
    let first := (← here verbose).check (.array values) (limits.violations values)
    return .merge (first :: (← items.perform values))
  | .object limits properties, .object members =>
    call (.object limits properties) (.object members) do
      let first := (← here verbose).check (.object members) (limits.violations members)
      return .merge [first, ← properties.perform members]
  | .dependentRule key rule, .object members =>
    call (.dependentRule key rule) (.object members) do
      if Members.has members key then rule.perform (.object members) else return .success
  | .reference reference, v => call (.reference reference) v do
    enter reference v
  | rule, v => call rule v do
    rule.check (fun reference _ _ => enter reference v) (← here verbose) v
termination_by structural r => r

/-- Evaluates rules one after the other. -/
def Rule.performAll : List Rule → Json → Machine (List Result)
  | [], _ => return []
  | rule :: rest, v => do
    let result ← rule.perform v
    return result :: (← Rule.performAll rest v)
termination_by structural rs => rs

/-- Evaluates branches until one is met. -/
def Rule.performAny : List Rule → Json → (failed : List Result) → Machine Result
  | [], v, failed => return (← here verbose).failWith v .anyOf failed.reverse
  | rule :: rest, v, failed => do
    let result ← rule.perform v
    if result.valid then return .success else Rule.performAny rest v (result :: failed)
termination_by structural rs => rs

/-- Evaluates the rules on the items of an array, each below its index. -/
def ItemRules.perform : ItemRules → List Json → Machine (List Result)
  | .unchecked, _ => return []
  | .every rule, values => values.zipIdx.mapM fun (v, i) => below (toString i) (rule.perform v)
  | .positional rules beyond, values => do
    let results ← ItemRules.performPositions rules 0 values
    return results ++ (← beyond.perform (Extra.ofItems rules.length (values.drop rules.length)))
termination_by structural r => r

/-- Evaluates rules on the items from an index on, each on its own. -/
def ItemRules.performPositions : List Rule → Nat → List Json → Machine (List Result)
  | rule :: rest, i, v :: values => do
    let result ← below (toString i) (rule.perform v)
    return result :: (← ItemRules.performPositions rest (i + 1) values)
  | _, _, _ => return []
termination_by structural rs => rs

/-- Evaluates what no other rule is for, each below its name. -/
def Additional.perform : Additional → List Extra → Machine (List Result)
  | .allowed, _ => return []
  | .forbidden, extras => extras.mapM fun e => below e.part (fail verbose e.value e.violation)
  | .governed rule, extras => extras.mapM fun e => below e.part (rule.perform e.value)
termination_by structural a => a

/-- Evaluates the rules on the properties of an object.  A malformed pattern ends it. -/
def PropertyRules.perform : PropertyRules → Members → Machine Result
  | .unchecked, _ => return .success
  | .checked declared patterned beyond, members => do
    let first ← PropertyRules.performDeclared declared members
    match ← PropertyRules.performPatterned patterned members with
    | .error source => fail verbose (.object members) (.invalidPattern source)
    | .ok second =>
      let third ← beyond.perform (Extra.ofMembers (undeclared declared patterned members))
      return .merge (first ++ second ++ third)
termination_by structural r => r

/-- Evaluates rules by key, each below its key. -/
def PropertyRules.performDeclared : List (String × Rule) → Members → Machine (List Result)
  | [], _ => return []
  | (key, rule) :: rest, members => do
    let here ← match Members.get? members key with
      | some v => do pure [← below key (rule.perform v)]
      | none => pure []
    return here ++ (← PropertyRules.performDeclared rest members)
termination_by structural rs => rs

/-- Evaluates rules by pattern, each below the keys that match. -/
def PropertyRules.performPatterned :
    List (Pattern × Rule) → Members → Machine (Except String (List Result))
  | [], _ => return .ok []
  | (p, rule) :: rest, members =>
    if p.isWellFormed then do
      let here ← (members.filter fun (name, _) => p.searches name).mapM fun (name, v) =>
        below name (rule.perform v)
      return (← PropertyRules.performPatterned rest members).map (here ++ ·)
    else return .error p.source
termination_by structural rs => rs

end

end

/-- Follows a reference, if the stacks as they are found allow it.  The recursion is on
`remaining`; as long as nothing is left behind on the stack, there is room for just as many more
references. -/
def Program.enterStacks (p : Program) (verbose : Bool) (limit : Nat) :
    (remaining : Nat) → String → Json → Machine Result
  | remaining, reference, v => do
    let σ ← Machine.current
    if (σ.context verbose).isFollowing reference then
      Machine.fail verbose v (.referenceCycle reference)
    else if limit ≤ σ.active.length then
      Machine.fail verbose v (.referenceDepth reference limit)
    else match remaining with
      | 0 => Machine.fail verbose v (.referenceDepth reference limit)
      | remaining + 1 => do
        let some rule := p.target? reference | throw (.danglingReference reference)
        Machine.inside reference v
          (rule.perform verbose (p.enterStacks verbose limit remaining) v)

/-- The validation of a value on empty stacks. -/
def Schema.perform (s : Schema) (v : Json) : Except Fault Result × Memory :=
  (s.program.root.perform s.verbose (s.program.enterStacks s.verbose s.depth s.depth) v).run.run
    ⟨.empty, []⟩

/-! ## What is kept -/

/-- A call that finds stacks which are fit for its value, and leaves them as they were. -/
structure Call.Balanced (Fit : Stacks → Json → Prop) (call : Call) : Prop where
  restored : call.after = call.before
  fit : Fit call.before call.value

namespace Machine

variable {α β : Type} {Fit : Stacks → Json → Prop} {σ : Stacks} {verbose : Bool}

/-- A computation on the stacks ends as is said and leaves them as they were; its calls are
balanced. -/
def Keeps (Fit : Stacks → Json → Prop) (σ : Stacks) (x : Machine α) (ending : Except Fault α) :
    Prop :=
  ∀ calls, ∃ more, x.run.run ⟨σ, calls⟩ = (ending, ⟨σ, calls ++ more⟩) ∧
    ∀ call ∈ more, call.Balanced Fit

/-- What is to be done in the end is done however a computation ends. -/
theorem run_finally {x : Machine α} {f : Machine Unit} {before between after : Memory}
    {ending : Except Fault α} (hx : x.run.run before = (ending, between))
    (hf : f.run.run between = (.ok (), after)) :
    (try x finally f : Machine α).run.run before = (ending, after) := by
  simp only [ExceptT.run, StateT.run] at hx hf
  cases ending <;>
    · simp only [tryFinally, tryFinally', ExceptT.run, ExceptT.map, StateT.run, Functor.map,
        ExceptT.mk, StateT.bind, bind, pure, hx, hf]
      rfl

/-- A call is logged with the stacks before and behind it, however it ends. -/
theorem run_call {x : Machine Result} {before between : Memory} {ending : Except Fault Result}
    (rule : Rule) (v : Json) (hx : x.run.run before = (ending, between)) :
    (call rule v x).run.run before = (ending, ⟨between.current,
      between.calls ++ [⟨rule, v, before.current, between.current⟩]⟩) :=
  run_finally hx rfl

namespace Keeps

theorem pure (a : α) : Keeps Fit σ (pure a) (.ok a) := by
  intro calls
  exact ⟨[], by simp only [List.append_nil]; rfl, by simp⟩

theorem throw (fault : Fault) : Keeps Fit σ (throw fault : Machine α) (.error fault) := by
  intro calls
  exact ⟨[], by simp only [List.append_nil]; rfl, by simp⟩

theorem bind {x : Machine α} {o : Except Fault α} {f : α → Machine β} {g : α → Except Fault β}
    (hx : Keeps Fit σ x o) (hf : ∀ a, Keeps Fit σ (f a) (g a)) :
    Keeps Fit σ (x >>= f) (o >>= g) := by
  intro calls
  obtain ⟨more, hrun, hmore⟩ := hx calls
  cases o with
  | error fault =>
    refine ⟨more, ?_, hmore⟩
    simp only [ExceptT.run_bind, StateT.run_bind, hrun]
    rfl
  | ok a =>
    obtain ⟨more', hrun', hmore'⟩ := hf a (calls ++ more)
    refine ⟨more ++ more', ?_, ?_⟩
    · simp only [ExceptT.run_bind, StateT.run_bind, hrun, ← List.append_assoc]
      exact hrun'
    · intro call hcall
      rcases List.mem_append.1 hcall with hcall | hcall
      · exact hmore call hcall
      · exact hmore' call hcall

theorem mapM {l : List β} {f : β → Machine α} {g : β → Except Fault α}
    (h : ∀ b ∈ l, Keeps Fit σ (f b) (g b)) : Keeps Fit σ (l.mapM f) (l.mapM g) := by
  induction l with
  | nil => exact pure []
  | cons b l ih =>
    rw [List.mapM_cons, List.mapM_cons]
    refine (h b List.mem_cons_self).bind fun a => ?_
    exact (ih fun b hb => h b (List.mem_cons_of_mem _ hb)).bind fun _ => pure _

/-- The stacks that are found are those at hand. -/
theorem current {f : Stacks → Machine α} {o : Except Fault α} (h : Keeps Fit σ (f σ) o) :
    Keeps Fit σ (current >>= f) o :=
  h

theorem here {f : Context → Machine α} {o : Except Fault α}
    (h : Keeps Fit σ (f (σ.context verbose)) o) : Keeps Fit σ (here verbose >>= f) o :=
  h

theorem fail (v : Json) (violation : Violation) :
    Keeps Fit σ (fail verbose v violation) (.ok ((σ.context verbose).fail v violation)) :=
  here (pure _)

theorem below {x : Machine α} {o : Except Fault α} {part : String}
    (hx : Keeps Fit (σ.push part) x o) : Keeps Fit σ (below part x) o := by
  intro calls
  obtain ⟨more, hrun, hmore⟩ := hx calls
  have hpop : (change Stacks.pop).run.run ⟨σ.push part, calls ++ more⟩ =
      (.ok (), ⟨(σ.push part).pop, calls ++ more⟩) := rfl
  rw [Stacks.pop_push] at hpop
  exact ⟨more, run_finally hrun hpop, hmore⟩

theorem inside {x : Machine α} {o : Except Fault α} {reference : String} {v : Json}
    (hx : Keeps Fit (σ.enter reference v) x o) : Keeps Fit σ (inside reference v x) o := by
  intro calls
  obtain ⟨more, hrun, hmore⟩ := hx calls
  have hleave : (change Stacks.leave).run.run ⟨σ.enter reference v, calls ++ more⟩ =
      (.ok (), ⟨(σ.enter reference v).leave, calls ++ more⟩) := rfl
  rw [Stacks.leave_enter] at hleave
  exact ⟨more, run_finally hrun hleave, hmore⟩

theorem call {x : Machine Result} {o : Except Fault Result} (rule : Rule) {v : Json}
    (hv : Fit σ v) (hx : Keeps Fit σ x o) : Keeps Fit σ (call rule v x) o := by
  intro calls
  obtain ⟨more, hrun, hmore⟩ := hx calls
  refine ⟨more ++ [⟨rule, v, σ, σ⟩], ?_, ?_⟩
  · rw [← List.append_assoc]
    exact run_call rule v hrun
  · intro call hcall
    rcases List.mem_append.1 hcall with hcall | hcall
    · exact hmore call hcall
    · rw [List.mem_singleton.1 hcall]
      exact ⟨rfl, hv⟩

end Keeps
end Machine

/-! ## Rules keep the stacks -/

/-- The evaluation of a rule is a call of it. -/
theorem Rule.exists_perform_eq_call (verbose : Bool) (enter : String → Json → Machine Result)
    (rule : Rule) (v : Json) : ∃ x, rule.perform verbose enter v = Machine.call rule v x := by
  cases rule with
  | array _ _ | object _ _ | dependentRule _ _ => cases v <;> exact ⟨_, rfl⟩
  | _ => exact ⟨_, rfl⟩

section
variable (Fit Stands : Stacks → Json → Prop) (verbose : Bool)
  (enter : String → Json → Machine Result) (follow : Follow (Except Fault))

/-- Wherever stacks stand for a value, a rule keeps them and gives the result for the place.  What
is known of the stacks at the rule, `Stands`, may be more than what is said of all calls, `Fit`. -/
def Rule.Kept (rule : Rule) : Prop :=
  ∀ (σ : Stacks) (v : Json), Stands σ v →
    Machine.Keeps Fit σ (rule.perform verbose enter v) (rule.check follow (σ.context verbose) v)

end

section
variable {Fit Stands : Stacks → Json → Prop} {verbose : Bool}
  {enter : String → Json → Machine Result} {follow : Follow (Except Fault)} {σ : Stacks} {v : Json}

open Machine

theorem Rule.performAll_keeps {rules : List Rule}
    (h : ∀ rule ∈ rules, rule.Kept Fit Stands verbose enter follow) (hv : Stands σ v) :
    Keeps Fit σ (Rule.performAll verbose enter rules v)
      (Rule.checkAll follow rules (σ.context verbose) v) := by
  induction rules with
  | nil => exact .pure []
  | cons rule rest ih =>
    rw [Rule.performAll, Rule.checkAll]
    refine (h rule List.mem_cons_self σ v hv).bind fun result => ?_
    exact (ih fun r hr => h r (List.mem_cons_of_mem _ hr)).bind fun _ => .pure _

theorem Rule.performAny_keeps {rules : List Rule}
    (h : ∀ rule ∈ rules, rule.Kept Fit Stands verbose enter follow) (hv : Stands σ v)
    (failed : List Result) :
    Keeps Fit σ (Rule.performAny verbose enter rules v failed)
      (Rule.checkAny follow rules (σ.context verbose) v failed) := by
  induction rules generalizing failed with
  | nil => exact .here (.pure _)
  | cons rule rest ih =>
    rw [Rule.performAny, Rule.checkAny]
    refine (h rule List.mem_cons_self σ v hv).bind fun result => ?_
    split
    · exact .pure _
    · exact ih (fun r hr => h r (List.mem_cons_of_mem _ hr)) _

variable (push : ∀ {σ : Stacks} {v w : Json} {part : String},
  Stands σ v → (part, w) ∈ v.parts → Stands (σ.push part) w)
include push

/-- A rule that is kept is kept below a part of the value. -/
theorem Rule.Kept.below {rule : Rule} (h : rule.Kept Fit Stands verbose enter follow)
    (hv : Stands σ v) {part : String} {w : Json} (hw : (part, w) ∈ v.parts) :
    Keeps Fit σ (Machine.below part (rule.perform verbose enter w))
      (rule.check follow ((σ.context verbose).push part) w) :=
  Keeps.below (h _ w (push hv hw))

theorem Additional.perform_keeps {beyond : Additional} {extras : List Extra}
    (h : ∀ rule ∈ beyond.rules, rule.Kept Fit Stands verbose enter follow) (hv : Stands σ v)
    (hextras : ∀ e ∈ extras, (e.part, e.value) ∈ v.parts) :
    Keeps Fit σ (beyond.perform verbose enter extras)
      (beyond.check follow (σ.context verbose) extras) := by
  cases beyond with
  | allowed => exact .pure []
  | forbidden =>
    rw [Additional.perform, Additional.check, ← List.mapM_pure]
    exact .mapM fun e _ => .below (.fail e.value e.violation)
  | governed rule =>
    exact .mapM fun e he => (h rule List.mem_cons_self).below push hv (hextras e he)

theorem ItemRules.performPositions_keeps {rules : List Rule} {values rest : List Json} {i : ℕ}
    (h : ∀ rule ∈ rules, rule.Kept Fit Stands verbose enter follow) (hv : Stands σ (.array values))
    (hrest : rest = values.drop i) :
    Keeps Fit σ (ItemRules.performPositions verbose enter rules i rest)
      (ItemRules.checkPositions follow rules (σ.context verbose) i rest) := by
  induction rules generalizing i rest with
  | nil => exact .pure []
  | cons rule rules ih =>
    cases rest with
    | nil => exact .pure []
    | cons w rest =>
      have hw : (toString i, w) ∈ (Json.array values).parts := by
        refine Json.mem_parts_array.2 ⟨i, ?_, rfl⟩
        rw [← Nat.add_zero i, ← List.getElem?_drop, ← hrest, List.getElem?_cons_zero]
      rw [ItemRules.performPositions, ItemRules.checkPositions]
      refine ((h rule List.mem_cons_self).below push hv hw).bind fun result => ?_
      refine (ih (fun r hr => h r (List.mem_cons_of_mem _ hr)) ?_).bind fun _ => .pure _
      rw [← List.drop_drop, ← hrest, List.drop_one, List.tail_cons]

theorem ItemRules.perform_keeps {items : ItemRules} {values : List Json}
    (h : ∀ rule ∈ items.rules, rule.Kept Fit Stands verbose enter follow)
    (hv : Stands σ (.array values)) :
    Keeps Fit σ (items.perform verbose enter values)
      (items.check follow (σ.context verbose) values) := by
  cases items with
  | unchecked => exact .pure []
  | every rule =>
    refine .mapM fun item hitem => (h rule List.mem_cons_self).below push hv ?_
    exact Json.mem_parts_array.2 ⟨_, List.mk_mem_zipIdx_iff_getElem?.1 hitem, rfl⟩
  | positional rules beyond =>
    rw [ItemRules.perform, ItemRules.check]
    have hrules : ∀ rule ∈ rules, rule.Kept Fit Stands verbose enter follow :=
      fun rule hr => h rule (List.mem_append_left _ hr)
    have hbeyond : ∀ rule ∈ beyond.rules, rule.Kept Fit Stands verbose enter follow :=
      fun rule hr => h rule (List.mem_append_right _ hr)
    refine (ItemRules.performPositions_keeps push hrules hv rfl).bind fun _ => ?_
    refine (Additional.perform_keeps push hbeyond hv ?_).bind fun _ => .pure _
    exact fun e => Extra.mem_parts_of_items

theorem PropertyRules.performDeclared_keeps {declared : List (String × Rule)} {members : Members}
    (h : ∀ rule ∈ declared.map (·.2), rule.Kept Fit Stands verbose enter follow)
    (hv : Stands σ (.object members)) :
    Keeps Fit σ (PropertyRules.performDeclared verbose enter declared members)
      (PropertyRules.checkDeclared follow declared (σ.context verbose) members) := by
  induction declared with
  | nil => exact .pure []
  | cons entry rest ih =>
    obtain ⟨key, rule⟩ := entry
    have hrest := ih fun r hr => h r (List.mem_cons_of_mem _ hr)
    rw [PropertyRules.performDeclared, PropertyRules.checkDeclared]
    cases hget : Members.get? members key with
    | none => exact hrest.bind fun _ => .pure _
    | some w =>
      have hw := (h rule List.mem_cons_self).below push hv (Members.mem_of_get? hget)
      exact hw.bind fun _ => hrest.bind fun _ => .pure _

theorem PropertyRules.performPatterned_keeps {patterned : List (Pattern × Rule)}
    {members : Members}
    (h : ∀ rule ∈ patterned.map (·.2), rule.Kept Fit Stands verbose enter follow)
    (hv : Stands σ (.object members)) :
    Keeps Fit σ (PropertyRules.performPatterned verbose enter patterned members)
      (PropertyRules.checkPatterned follow patterned (σ.context verbose) members) := by
  induction patterned with
  | nil => exact .pure _
  | cons entry rest ih =>
    obtain ⟨p, rule⟩ := entry
    have hrest := ih fun r hr => h r (List.mem_cons_of_mem _ hr)
    rw [PropertyRules.performPatterned, PropertyRules.checkPatterned]
    split_ifs
    · refine Keeps.bind (.mapM fun member hmember => ?_) fun _ => hrest.bind fun _ => .pure _
      exact (h rule List.mem_cons_self).below push hv (List.mem_filter.1 hmember).1
    · exact .pure _

theorem PropertyRules.perform_keeps {properties : PropertyRules} {members : Members}
    (h : ∀ rule ∈ properties.rules, rule.Kept Fit Stands verbose enter follow)
    (hv : Stands σ (.object members)) :
    Keeps Fit σ (properties.perform verbose enter members)
      (properties.check follow (σ.context verbose) members) := by
  cases properties with
  | unchecked => exact .pure _
  | checked declared patterned beyond =>
    simp only [PropertyRules.rules, List.forall_mem_append] at h
    obtain ⟨⟨hdeclared, hpatterned⟩, hbeyond⟩ := h
    rw [PropertyRules.perform, PropertyRules.check]
    refine (PropertyRules.performDeclared_keeps push hdeclared hv).bind fun first => ?_
    refine (PropertyRules.performPatterned_keeps push hpatterned hv).bind fun second => ?_
    cases second with
    | error source => exact .fail _ _
    | ok second =>
      refine (Additional.perform_keeps push hbeyond hv ?_).bind fun _ => .pure _
      exact fun e => PropertyRules.mem_parts_of_extras

/-- **Rules keep the stacks, if references do**, and give the same results as when the place is
handed down. -/
theorem Rule.perform_keeps (fit : ∀ {σ : Stacks} {v : Json}, Stands σ v → Fit σ v)
    (references : ∀ (reference : String) (σ : Stacks) (v : Json), Stands σ v →
      Keeps Fit σ (enter reference v) (follow reference (σ.context verbose) v))
    (rule : Rule) : rule.Kept Fit Stands verbose enter follow := by
  induction rule using Rule.children_induction with
  | step rule ih =>
    intro σ v hv
    cases rule with
    | combined rules | allOf branches =>
      exact .call _ (fit hv) ((Rule.performAll_keeps ih hv).bind fun _ => .pure _)
    | anyOf branches => exact .call _ (fit hv) (Rule.performAny_keeps ih hv [])
    | oneOf branches =>
      exact .call _ (fit hv) ((Rule.performAll_keeps ih hv).bind fun _ => .here (.pure _))
    | not rule =>
      refine .call _ (fit hv) ((ih rule List.mem_cons_self σ v hv).bind fun result => ?_)
      split
      · exact .fail _ _
      · exact .pure _
    | array limits items =>
      cases v with
      | array values =>
        refine .call _ (fit hv) (.here ?_)
        exact (ItemRules.perform_keeps push ih hv).bind fun _ => .pure _
      | _ => exact .call _ (fit hv) (.here (.pure _))
    | object limits properties =>
      cases v with
      | object members =>
        refine .call _ (fit hv) (.here ?_)
        exact (PropertyRules.perform_keeps push ih hv).bind fun _ => .pure _
      | _ => exact .call _ (fit hv) (.here (.pure _))
    | dependentRule key rule =>
      cases v with
      | object members =>
        rw [Rule.perform, Rule.check]
        refine .call _ (fit hv) ?_
        split
        · exact ih rule List.mem_cons_self σ _ hv
        · exact .pure _
      | _ => exact .call _ (fit hv) (.here (.pure _))
    | reference reference => exact .call _ (fit hv) (references reference σ v hv)
    | text limits => cases v <;> exact .call _ (fit hv) (.here (.pure _))
    | number limits =>
      refine .call _ (fit hv) (.here ?_)
      rw [Rule.check, Rule.check]
      cases v.number? with
      | none => exact .pure _
      | some n =>
        simp only [checkNumber, NumberLimits.violations_eq]
        exact .pure _
    | dependentKeys key names =>
      cases v with
      | object members =>
        refine .call _ (fit hv) (.here ?_)
        rw [Rule.check, Rule.check]
        split <;> exact .pure _
      | _ => exact .call _ (fit hv) (.here (.pure _))
    | type _ | enum _ | format _ _ | invalid _ => exact .call _ (fit hv) (.here (.pure _))

end

end JsonSchema
