/-
  The language of a regular expression.

  * `Node.Spells`: the texts that a tree stands for, read off its form without
    an order of attempts.
  * `Node.isRegular`: the trees that are made of tests on one character,
    sequences, choices, groups, and greedy repetitions of one character.
  * `Cursor.exists_skip`: skipping passes the longest text that may be passed.
  * `Matcher.isMatch_characters`: a repetition of one character that takes all
    it can and gives back finds every number of characters that lets the rest
    succeed.
  * `Node.isMatch_run`: on a regular tree, backtracking finds a way if there is
    one.
  * `Node.matchesAll_iff`: a regular tree matches the texts of its language as
    a whole, and no others.

  What remains to be matched may depend on marks only if the tree refers back to
  a group, which a regular tree does not do: `Continuation.Unmarked`.
-/
import JsonSchema.Regex.Matcher
import Mathlib.Data.List.Infix

namespace JsonSchema.Regex

/-! ## Cursors -/

namespace Cursor

/-- The characters of a text stand between two cursors. -/
structure Passes (c : Cursor) (u : List Char) (d : Cursor) : Prop where
  position : d.position = c.position + u.length
  before : d.before = u.reverse ++ c.before
  after : c.after = u ++ d.after

variable {c d e : Cursor} {u v : List Char} {x : Char} {accept : Char → Bool}

theorem passes_nil : c.Passes [] d ↔ d = c := by
  constructor
  · rintro ⟨hp, hb, ha⟩
    obtain ⟨position, before, after⟩ := c
    obtain ⟨position', before', after'⟩ := d
    simp_all
  · rintro rfl
    exact ⟨rfl, rfl, rfl⟩

theorem Passes.trans (h : c.Passes u d) (h' : d.Passes v e) : c.Passes (u ++ v) e where
  position := by simp [h'.position, h.position, Nat.add_assoc]
  before := by simp [h'.before, h.before]
  after := by simp [h.after, h'.after]

/-- Where one text stands before another, there is a cursor between them. -/
theorem passes_append : c.Passes (u ++ v) e ↔ ∃ d, c.Passes u d ∧ d.Passes v e := by
  constructor
  · intro h
    refine ⟨⟨c.position + u.length, u.reverse ++ c.before, v ++ e.after⟩, ⟨rfl, rfl, ?_⟩,
      ?_, ?_, rfl⟩
    · simp [h.after]
    · simp [h.position, Nat.add_assoc]
    · simp [h.before]
  · rintro ⟨d, hu, hv⟩
    exact hu.trans hv

/-- The text between decides where the second cursor stands. -/
theorem Passes.unique (h : c.Passes u d) (h' : c.Passes u e) : d = e := by
  obtain ⟨position, before, after⟩ := d
  obtain ⟨position', before', after'⟩ := e
  have hafter : u ++ after = u ++ after' := h.after.symm.trans h'.after
  simp only [mk.injEq]
  exact ⟨h.position.trans h'.position.symm, h.before.trans h'.before.symm,
    List.append_cancel_left hafter⟩

theorem advance?_eq_some_iff :
    c.advance? accept = some d ↔ ∃ x, accept x = true ∧ c.Passes [x] d := by
  obtain ⟨position, before, after⟩ := c
  constructor
  · intro h
    cases after with
    | nil => cases h
    | cons x after =>
      simp only [advance?] at h
      split_ifs at h with hx
      cases h
      exact ⟨x, hx, rfl, rfl, rfl⟩
  · rintro ⟨x, hx, hp, hb, ha⟩
    obtain ⟨position', before', after'⟩ := d
    simp only at hp hb ha
    subst hp hb ha
    simp [advance?, hx]

/-- One character back. -/
theorem Passes.back? (h : c.Passes [x] d) : d.back? 1 = some c := by
  obtain ⟨position, before, after⟩ := c
  obtain ⟨hp, hb, ha⟩ := h
  obtain ⟨position', before', after'⟩ := d
  simp only at hp hb ha
  subst hp hb ha
  simp [Cursor.back?]

/-- The longest text behind a cursor whose characters pass the test and which keeps to the limit. -/
structure Longest (accept : Char → Bool) (limit : Option ℕ) (c : Cursor) (t : List Char)
    (last : Cursor) : Prop where
  passes : c.Passes t last
  accepted : ∀ x ∈ t, accept x = true
  limited : ∀ n ∈ limit, t.length ≤ n
  longest : ∀ u d, c.Passes u d → (∀ x ∈ u, accept x = true) → (∀ n ∈ limit, u.length ≤ n) →
    u <+: t

variable {limit : Option ℕ} {t : List Char}

/-- If the next character may not be passed, nothing may. -/
theorem Longest.stop (h : ∀ x d, c.Passes [x] d → accept x = true → limit = some 0) :
    Longest accept limit c [] c where
  passes := passes_nil.2 rfl
  accepted := by simp
  limited := by simp
  longest u d hu haccept hlimit := by
    cases u with
    | nil => exact List.prefix_rfl
    | cons x u =>
      obtain ⟨e, hx, -⟩ := passes_append.1 (show Passes _ ([x] ++ u) d from hu)
      have hle := hlimit 0 (h x e hx (haccept x List.mem_cons_self))
      simp at hle

/-- One character before the longest text behind it. -/
theorem Longest.cons (hfirst : c.Passes [x] d) (hx : accept x = true) (hroom : limit ≠ some 0)
    (h : Longest accept (limit.map (· - 1)) d t e) : Longest accept limit c (x :: t) e where
  passes := hfirst.trans h.passes
  accepted := List.forall_mem_cons.2 ⟨hx, h.accepted⟩
  limited n hn := by
    have hn0 : n ≠ 0 := by
      rintro rfl
      exact hroom hn
    have hle := h.limited (n - 1) (by simp [Option.mem_def.1 hn])
    simp only [List.length_cons]
    omega
  longest u d' hu haccept hlimit := by
    cases u with
    | nil => exact List.nil_prefix
    | cons y u =>
      obtain ⟨e', hy, hrest⟩ := passes_append.1 (show Passes _ ([y] ++ u) d' from hu)
      obtain ⟨rfl, -⟩ : x = y ∧ d.after = e'.after := by
        simpa using hfirst.after.symm.trans hy.after
      obtain rfl := hfirst.unique hy
      refine List.cons_prefix_cons.2 ⟨rfl, h.longest u d' hrest ?_ ?_⟩
      · intro z hz
        exact haccept z (List.mem_cons_of_mem _ hz)
      · intro n hn
        obtain ⟨m, hm, rfl⟩ := Option.map_eq_some_iff.1 hn
        have hle := hlimit m hm
        simp only [List.length_cons] at hle
        omega

/-- Skipping passes the longest text that may be passed. -/
theorem exists_skip (accept : Char → Bool) (limit : Option ℕ) (c : Cursor) :
    ∃ t, Longest accept limit c t (c.skip accept limit) := by
  obtain ⟨position, before, after⟩ := c
  induction after generalizing position before limit with
  | nil =>
    refine ⟨[], .stop ?_⟩
    intro x d hx
    simpa using hx.after
  | cons x after ih =>
    by_cases hstop : (limit = some 0 || !accept x) = true
    · have hskip : skip accept limit ⟨position, before, x :: after⟩ =
          ⟨position, before, x :: after⟩ := by
        simp [skip, skipFrom, hstop]
      refine ⟨[], ?_⟩
      rw [hskip]
      refine .stop ?_
      intro y d hy haccept
      obtain ⟨rfl, -⟩ : x = y ∧ after = d.after := by simpa using hy.after
      simpa [haccept] using hstop
    · simp only [Bool.or_eq_true, decide_eq_true_eq, Bool.not_eq_true', not_or,
        Bool.not_eq_false] at hstop
      obtain ⟨hroom, hx⟩ := hstop
      have hskip : skip accept limit ⟨position, before, x :: after⟩ =
          skip accept (limit.map (· - 1)) ⟨position + 1, x :: before, after⟩ := by
        simp [skip, skipFrom, hroom, hx]
      obtain ⟨t, ht⟩ := ih (limit.map (· - 1)) (position + 1) (x :: before)
      refine ⟨x :: t, ?_⟩
      rw [hskip]
      exact ht.cons ⟨rfl, rfl, rfl⟩ hx hroom

end Cursor

/-! ## Repetition of one character -/

/-- What remains to be matched does not depend on the marks. -/
def Continuation.Unmarked (k : Continuation) : Prop :=
  ∀ c m m', (k ⟨c, m⟩).isMatch = (k ⟨c, m'⟩).isMatch

namespace Matcher

variable {k : Continuation} {repeating : Bool} {saved marks : Marks} {c last : Cursor}
  {t : List Char} {spare : ℕ}

/-- Giving back tries every cursor behind which no more than `spare` characters are left. -/
theorem isMatch_givingBack (hk : k.Unmarked) (h : c.Passes t last) (hs : spare ≤ t.length) :
    (givingBack repeating saved k spare last marks).isMatch = true ↔
      ∃ u v d, t = u ++ v ∧ v.length ≤ spare ∧ c.Passes u d ∧ (k ⟨d, marks⟩).isMatch = true := by
  induction spare generalizing t last marks with
  | zero =>
    have hk' : (givingBack repeating saved k 0 last marks).isMatch = (k ⟨last, marks⟩).isMatch := by
      rw [givingBack]
      cases k ⟨last, marks⟩ <;> rfl
    rw [hk']
    constructor
    · intro hm
      exact ⟨t, [], last, by simp, by simp, h, hm⟩
    · rintro ⟨u, v, d, rfl, hv, hu, hm⟩
      obtain rfl : v = [] := List.length_eq_zero_iff.1 (by omega)
      rw [List.append_nil] at h
      rwa [h.unique hu]
  | succ spare ih =>
    obtain ⟨front, x, rfl⟩ : ∃ front x, t = front ++ [x] := by
      have hne : t ≠ [] := by
        rintro rfl
        simp at hs
      exact ⟨t.dropLast, t.getLast hne, (List.dropLast_concat_getLast hne).symm⟩
    obtain ⟨d, hfront, hx⟩ := Cursor.passes_append.1 h
    simp only [List.length_append, List.length_singleton] at hs
    cases hm : k ⟨last, marks⟩ with
    | matched s =>
      have hmatch : (k ⟨last, marks⟩).isMatch = true := by
        rw [hm]
        rfl
      rw [givingBack, hm]
      simp only [Outcome.isMatch, true_iff]
      exact ⟨front ++ [x], [], last, by simp, by simp, h, hmatch⟩
    | failed left =>
      rw [givingBack, hm]
      simp only [hx.back?]
      rw [ih hfront (by omega)]
      constructor
      · rintro ⟨u, v, e, rfl, hv, hu, hmatch⟩
        refine ⟨u, v ++ [x], e, by simp, by simpa using hv, hu, ?_⟩
        rwa [hk e marks (saved.restore repeating left)]
      · rintro ⟨u, v, e, he, hv, hu, hmatch⟩
        -- all of the characters have been tried
        rcases List.eq_nil_or_concat v with rfl | ⟨v, y, rfl⟩
        · rw [List.append_nil] at he
          subst he
          rw [← h.unique hu, hm] at hmatch
          cases hmatch
        · rw [List.concat_eq_append, ← List.append_assoc] at he
          obtain ⟨rfl, -⟩ := List.append_inj' he rfl
          refine ⟨u, v, e, rfl, by simpa using hv, hu, ?_⟩
          rwa [hk e (saved.restore repeating left) marks]

/-- **A greedy repetition of one character tries every count within its bounds.** -/
theorem isMatch_characters {least : ℕ} {most : Option ℕ} {accept : Char → Bool} (hk : k.Unmarked)
    (s : State) : (characters repeating .greedy least most accept s k).isMatch = true ↔
      ∃ u d, s.cursor.Passes u d ∧ (∀ x ∈ u, accept x = true) ∧ least ≤ u.length ∧
        (∀ n ∈ most, u.length ≤ n) ∧ (k ⟨d, s.marks⟩).isMatch = true := by
  obtain ⟨t, ht, haccept, hlimit, hmost⟩ := Cursor.exists_skip accept most s.cursor
  have hcount : (s.cursor.skip accept most).position - s.cursor.position = t.length := by
    rw [ht.position]
    omega
  have hif : (if Greed.greedy = Greed.lazy then some least else most) = most := rfl
  simp only [characters, hif, hcount]
  split_ifs with hshort
  · simp only [Outcome.isMatch, Bool.false_eq_true, false_iff]
    rintro ⟨u, d, hu, hu', hleast, hu'', -⟩
    have hle := (hmost u d hu hu' hu'').length_le
    omega
  · rw [isMatch_givingBack hk ht (by omega)]
    constructor
    · rintro ⟨u, v, d, rfl, hv, hu, hm⟩
      simp only [List.length_append] at hv hshort hlimit
      refine ⟨u, d, hu, ?_, by omega, ?_, hm⟩
      · intro x hx
        exact haccept x (List.mem_append_left _ hx)
      · intro n hn
        have hle := hlimit n hn
        omega
    · rintro ⟨u, d, hu, hu', hleast, hu'', hm⟩
      obtain ⟨v, rfl⟩ := hmost u d hu hu' hu''
      refine ⟨u, v, d, rfl, ?_, hu, hm⟩
      simp only [List.length_append]
      omega

end Matcher

/-! ## Languages -/

namespace Node

/-- A text of the language of a tree. -/
def Spells : Node → List Char → Prop
  | .empty, u => u = []
  | .single test, u => ∃ x, test.accepts x = true ∧ u = [x]
  | .sequence a b, u => ∃ v w, u = v ++ w ∧ a.Spells v ∧ b.Spells w
  | .either a b, u => a.Spells u ∨ b.Spells u
  | .repeated _ least most body, u => ∃ parts : List (List Char), u = parts.flatten ∧
      (∀ p ∈ parts, body.Spells p) ∧ least ≤ parts.length ∧ ∀ n ∈ most, parts.length ≤ n
  | .capture _ body, u => body.Spells u
  | .scoped body, u => body.Spells u
  | _, _ => False

/-- A tree of characters, sequences, choices, groups, and greedy repetitions of one character. -/
def isRegular : Node → Bool
  | .empty => true
  | .single _ => true
  | .sequence a b => a.isRegular && b.isRegular
  | .either a b => a.isRegular && b.isRegular
  | .repeated greed _ _ body => greed = .greedy && body.single?.isSome
  | .capture _ body => body.isRegular
  | .scoped body => body.isRegular
  | _ => false

variable {node body : Node} {test : Single} {u : List Char}

/-- One tree after another spells one text after another. -/
theorem spells_append {a b : Node} :
    (a.append b).Spells u ↔ ∃ v w, u = v ++ w ∧ a.Spells v ∧ b.Spells w := by
  fun_induction append a b generalizing u with
  | case1 last => simp [Spells]
  | case2 last first second ih =>
    simp only [Spells, ih]
    constructor
    · rintro ⟨v, _, rfl, hv, w, t, rfl, hw, ht⟩
      exact ⟨v ++ w, t, by simp, ⟨v, w, rfl, hv, hw⟩, ht⟩
    · rintro ⟨_, t, rfl, ⟨v, w, rfl, hv, hw⟩, ht⟩
      exact ⟨v, w ++ t, by simp, hv, w, t, rfl, hw, ht⟩
  | case3 first => simp [Spells]
  | case4 first last => rfl

@[simp] theorem spells_concat_nil : (concat []).Spells u ↔ u = [] := Iff.rfl

@[simp] theorem spells_concat_cons {nodes : List Node} :
    (concat (node :: nodes)).Spells u ↔
      ∃ v w, u = v ++ w ∧ node.Spells v ∧ (concat nodes).Spells w :=
  spells_append

/-- What a tree that is one test stands for. -/
theorem spells_of_single? (h : node.single? = some test) :
    node.Spells u ↔ ∃ x, test.accepts x = true ∧ u = [x] := by
  induction node with
  | single test' =>
    cases h
    exact Iff.rfl
  | «scoped» body ih => exact ih h
  | _ => cases h

/-- A repetition of one character spells characters of its kind. -/
theorem spells_repeated (h : body.single? = some test) {greed : Greed} {least : ℕ}
    {most : Option ℕ} : (Node.repeated greed least most body).Spells u ↔
      (∀ x ∈ u, test.accepts x = true) ∧ least ≤ u.length ∧ ∀ n ∈ most, u.length ≤ n := by
  simp only [Spells, spells_of_single? h]
  constructor
  · rintro ⟨parts, rfl, hparts, hleast, hmost⟩
    have hones : parts.map List.length = List.replicate parts.length 1 := by
      refine List.eq_replicate_iff.2 ⟨List.length_map _, ?_⟩
      intro n hn
      obtain ⟨p, hp, rfl⟩ := List.mem_map.1 hn
      obtain ⟨x, -, rfl⟩ := hparts p hp
      rfl
    have hlength : parts.flatten.length = parts.length := by
      rw [List.length_flatten, hones, List.sum_replicate_nat, Nat.mul_one]
    rw [hlength]
    refine ⟨?_, hleast, hmost⟩
    intro x hx
    obtain ⟨p, hp, hx⟩ := List.mem_flatten.1 hx
    obtain ⟨y, hy, rfl⟩ := hparts p hp
    rwa [List.mem_singleton.1 hx]
  · rintro ⟨hu, hleast, hmost⟩
    refine ⟨u.map fun x => [x], ?_, ?_, by simpa using hleast, by simpa using hmost⟩
    · rw [← List.flatMap_def, List.flatMap_singleton']
    · intro p hp
      obtain ⟨x, hx, rfl⟩ := List.mem_map.1 hp
      exact ⟨x, hu x hx, rfl⟩

/-- With a tree before it that is decided by its language, what remains does not depend on the marks
either. -/
theorem unmarked_run {repeating : Bool} {k : Continuation} (hk : k.Unmarked)
    (h : ∀ s, (node.run repeating s k).isMatch = true ↔
      ∃ u d, s.cursor.Passes u d ∧ node.Spells u ∧ (k ⟨d, s.marks⟩).isMatch = true) :
    Continuation.Unmarked fun s => node.run repeating s k := by
  intro c m m'
  rw [Bool.eq_iff_iff, h, h]
  simp only [hk _ m m']

/-- The second branch is tried behind the first one, and the marks that the first one leaves make no
difference to it. -/
theorem isMatch_either {a b : Node} {repeating : Bool} {k : Continuation} {s : State}
    (hb : Continuation.Unmarked fun s => b.run repeating s k) :
    ((Node.either a b).run repeating s k).isMatch =
      ((a.run repeating s k).isMatch || (b.run repeating s k).isMatch) := by
  rw [run]
  cases a.run repeating s k with
  | matched t => rfl
  | failed left =>
    have hmarks : (b.run repeating { s with marks := s.marks.restore repeating left } k).isMatch =
        (b.run repeating s k).isMatch := hb _ _ _
    rw [show (Outcome.failed left).isMatch = false from rfl, Bool.false_or, ← hmarks]
    simp only
    cases b.run repeating { s with marks := s.marks.restore repeating left } k <;> rfl

/-- **Backtracking finds a way through a regular tree if there is one.** -/
theorem isMatch_run (hn : node.isRegular = true) (repeating : Bool) {k : Continuation}
    (hk : k.Unmarked) (s : State) : (node.run repeating s k).isMatch = true ↔
      ∃ u d, s.cursor.Passes u d ∧ node.Spells u ∧ (k ⟨d, s.marks⟩).isMatch = true := by
  induction node generalizing s k with
  | empty =>
    simp only [run, Spells]
    constructor
    · intro h
      exact ⟨[], s.cursor, Cursor.passes_nil.2 rfl, rfl, h⟩
    · rintro ⟨_, d, hd, rfl, h⟩
      rwa [Cursor.passes_nil.1 hd] at h
  | single test =>
    simp only [run, Spells]
    cases hadvance : s.cursor.advance? test.accepts with
    | none =>
      simp only [Outcome.isMatch, Bool.false_eq_true, false_iff]
      rintro ⟨_, d, hd, ⟨x, hx, rfl⟩, -⟩
      rw [Cursor.advance?_eq_some_iff.2 ⟨x, hx, hd⟩] at hadvance
      cases hadvance
    | some e =>
      obtain ⟨y, hy, he⟩ := Cursor.advance?_eq_some_iff.1 hadvance
      constructor
      · intro h
        exact ⟨[y], e, he, ⟨y, hy, rfl⟩, h⟩
      · rintro ⟨_, d, hd, ⟨x, hx, rfl⟩, h⟩
        rw [Cursor.advance?_eq_some_iff.2 ⟨x, hx, hd⟩] at hadvance
        cases hadvance
        exact h
  | sequence a b iha ihb =>
    obtain ⟨ha, hb⟩ := Bool.and_eq_true_iff.1 hn
    have hb' := unmarked_run hk (ihb hb hk)
    simp only [run, Spells, iha ha hb', ihb hb hk]
    constructor
    · rintro ⟨v, d, hv, hav, w, e, hw, hbw, h⟩
      exact ⟨v ++ w, e, hv.trans hw, ⟨v, w, rfl, hav, hbw⟩, h⟩
    · rintro ⟨_, e, hu, ⟨v, w, rfl, hav, hbw⟩, h⟩
      obtain ⟨d, hv, hw⟩ := Cursor.passes_append.1 hu
      exact ⟨v, d, hv, hav, w, e, hw, hbw, h⟩
  | either a b iha ihb =>
    obtain ⟨ha, hb⟩ := Bool.and_eq_true_iff.1 hn
    have hb' := unmarked_run hk (ihb hb hk)
    rw [isMatch_either hb', Bool.or_eq_true, iha ha hk, ihb hb hk]
    simp only [Spells]
    constructor
    · rintro (⟨u, d, hu, h, hm⟩ | ⟨u, d, hu, h, hm⟩)
      · exact ⟨u, d, hu, Or.inl h, hm⟩
      · exact ⟨u, d, hu, Or.inr h, hm⟩
    · rintro ⟨u, d, hu, h | h, hm⟩
      · exact Or.inl ⟨u, d, hu, h, hm⟩
      · exact Or.inr ⟨u, d, hu, h, hm⟩
  | repeated greed least most body =>
    simp only [isRegular, Bool.and_eq_true, decide_eq_true_eq] at hn
    obtain ⟨rfl, hbody⟩ := hn
    obtain ⟨test, htest⟩ := Option.isSome_iff_exists.1 hbody
    simp only [run, htest, Matcher.isMatch_characters hk, spells_repeated htest, and_assoc]
  | capture group body ih =>
    simp only [run, Spells]
    have hk' : Continuation.Unmarked fun s => k { s with marks := s.marks.closed group s.cursor } :=
      fun c m m' => hk c _ _
    rw [ih hn hk']
    simp only [hk _ _ s.marks]
  | «scoped» body ih => exact ih hn hk s
  | _ => cases hn

/-- **A regular tree matches the texts of its language, and no others.** -/
theorem matchesAll_iff (hn : node.isRegular = true) (text : List Char) :
    node.matchesAll text = true ↔ node.Spells text := by
  have hk : Continuation.Unmarked fun s =>
      if s.cursor.after.isEmpty then .matched s else .failed s.marks := by
    intro c m m'
    dsimp only
    split_ifs <;> rfl
  rw [matchesAll, isMatch_run hn false hk]
  constructor
  · rintro ⟨u, d, hu, h, hend⟩
    have hd : d.after = [] := by
      by_contra hne
      simp [hne, Outcome.isMatch] at hend
    have hafter : text = u := by simpa [hd, Cursor.start] using hu.after
    rwa [hafter]
  · intro h
    refine ⟨text, ⟨text.length, text.reverse, []⟩, ⟨?_, ?_, ?_⟩, h, rfl⟩
    · simp [Cursor.start]
    · simp [Cursor.start]
    · simp [Cursor.start]

end Node

end JsonSchema.Regex
