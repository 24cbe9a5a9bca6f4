/-
  The texts of pointers.

  * `readEscapes`: the escapes of a segment, read in one pass.
    `contract_contract`: replacing one escape and then the other does the same.
  * `TildesEscape`: every tilde of a text begins an escape.
  * `tildesEscape_ofParts`, `escaped_readEscapes`: the pointer to a location is
    such a text, and a segment that is one is written as it was read.
  * `pointers_invert`: segments are read back from their pointer, and which
    pointers are written as they were read.
-/
import JsonSchema.Proofs.Pointer

namespace JsonSchema.Pointer

variable {s : List Char} {c : Char}

/-! ## Escapes in one pass -/

/-- The segment that a text stands for, in one pass from left to right: `~1` is a slash, `~0` is a
tilde, and any other character stands for itself. -/
def readEscapes : List Char → List Char
  | '~' :: '1' :: rest => '/' :: readEscapes rest
  | '~' :: '0' :: rest => '~' :: readEscapes rest
  | c :: rest => c :: readEscapes rest
  | [] => []

/-- Reading the slashes brings no zero to the front. -/
theorem zero_of_head?_contract (h : (contract '~' '1' '/' s).head? = some '0') :
    s.head? = some '0' := by
  cases s with
  | nil => simp [contract] at h
  | cons a s =>
    cases s with
    | nil => simpa [contract] using h
    | cons b s =>
      rw [contract] at h
      split_ifs at h
      · exact absurd h (by simp)
      · exact h

theorem contract_of_head? {first second result : Char} (h : s.head? ≠ some second) :
    contract first second result (first :: s) = first :: contract first second result s := by
  cases s with
  | nil => simp [contract]
  | cons b s => rw [contract, if_neg fun hb => h (congrArg some hb.2)]

/-- **Reading the slashes and then the tildes is reading all escapes in one pass.** -/
theorem contract_contract (s : List Char) :
    contract '~' '0' '~' (contract '~' '1' '/' s) = readEscapes s := by
  fun_induction readEscapes s with
  | case1 rest ih => rw [contract_cons_cons, contract_cons_ne (by decide), ih]
  | case2 rest ih =>
    rw [contract_of_head? (by simp), contract_cons_ne (a := '0') (by decide), contract_cons_cons,
      ih]
  | case3 c rest hslash htilde ih =>
    by_cases hc : c = '~'
    · subst hc
      have hone : rest.head? ≠ some '1' := by
        intro h
        obtain ⟨tail, rfl⟩ := List.head?_eq_some_iff.1 h
        exact hslash tail rfl rfl
      have hzero : (contract '~' '1' '/' rest).head? ≠ some '0' := by
        intro h
        obtain ⟨tail, rfl⟩ := List.head?_eq_some_iff.1 (zero_of_head?_contract h)
        exact htilde tail rfl rfl
      rw [contract_of_head? hone, contract_of_head? hzero, ih]
    · rw [contract_cons_ne hc, contract_cons_ne hc, ih]
  | case4 => simp [contract]

theorem unescape_eq_readEscapes (segment : String) :
    unescape segment = String.ofList (readEscapes segment.toList) := by
  rw [unescape, contract_contract]

/-! ## Escapes as they are written -/

/-- The escaped form of a segment. -/
def escaped (s : List Char) : List Char := expand '/' '~' '1' (expand '~' '~' '0' s)

@[simp] theorem escaped_nil : escaped [] = [] := rfl

@[simp] theorem escaped_tilde (s : List Char) : escaped ('~' :: s) = '~' :: '0' :: escaped s := by
  simp [escaped, expand]

@[simp] theorem escaped_slash (s : List Char) : escaped ('/' :: s) = '~' :: '1' :: escaped s := by
  simp [escaped, expand]

theorem escaped_cons (htilde : c ≠ '~') (hslash : c ≠ '/') (s : List Char) :
    escaped (c :: s) = c :: escaped s := by
  simp [escaped, expand, htilde, hslash]

/-- Every tilde of a text is followed by a zero or a one. -/
def TildesEscape (s : List Char) : Prop :=
  ∀ i : ℕ, s[i]? = some '~' → s[i + 1]? = some '0' ∨ s[i + 1]? = some '1'

theorem tildesEscape_nil : TildesEscape [] := by
  intro i hi
  simp at hi

theorem tildesEscape_cons : TildesEscape (c :: s) ↔
    (c = '~' → s.head? = some '0' ∨ s.head? = some '1') ∧ TildesEscape s := by
  rw [List.head?_eq_getElem?]
  constructor
  · intro h
    exact ⟨fun hc => h 0 (by simp [hc]), fun i hi => h (i + 1) hi⟩
  · rintro ⟨hc, hs⟩ i hi
    cases i with
    | zero => exact hc (by simpa using hi)
    | succ i => exact hs i hi

theorem tildesEscape_cons_ne (hc : c ≠ '~') : TildesEscape (c :: s) ↔ TildesEscape s := by
  simp [tildesEscape_cons, hc]

/-- A slash ends no escape. -/
theorem tildesEscape_append (s rest : List Char) :
    TildesEscape (s ++ '/' :: rest) ↔ TildesEscape s ∧ TildesEscape rest := by
  induction s with
  | nil => simp [tildesEscape_cons, tildesEscape_nil]
  | cons c s ih =>
    have hhead : ∀ d : Char, d ≠ '/' →
        ((s ++ '/' :: rest).head? = some d ↔ s.head? = some d) := by
      intro d hd
      cases s with
      | nil => simpa using hd.symm
      | cons b s => rfl
    rw [List.cons_append, tildesEscape_cons, tildesEscape_cons, ih, hhead '0' (by decide),
      hhead '1' (by decide), and_assoc]

theorem tildesEscape_escaped (s : List Char) : TildesEscape (escaped s) := by
  induction s with
  | nil => exact tildesEscape_nil
  | cons c s ih =>
    by_cases htilde : c = '~'
    · subst htilde
      simpa [tildesEscape_cons] using ih
    · by_cases hslash : c = '/'
      · subst hslash
        simpa [tildesEscape_cons] using ih
      · rw [escaped_cons htilde hslash, tildesEscape_cons_ne htilde]
        exact ih

/-- **A segment in which every tilde begins an escape is written as it was read.** -/
theorem escaped_readEscapes (hs : '/' ∉ s) (h : TildesEscape s) : escaped (readEscapes s) = s := by
  fun_induction readEscapes s with
  | case1 rest ih =>
    simp only [tildesEscape_cons, List.mem_cons, not_or] at h hs
    rw [escaped_slash, ih hs.2.2 h.2.2]
  | case2 rest ih =>
    simp only [tildesEscape_cons, List.mem_cons, not_or] at h hs
    rw [escaped_tilde, ih hs.2.2 h.2.2]
  | case3 c rest hslash htilde ih =>
    rw [tildesEscape_cons] at h
    simp only [List.mem_cons, not_or] at hs
    have hc : c ≠ '~' := by
      rintro rfl
      rcases h.1 rfl with h | h
      · obtain ⟨tail, rfl⟩ := List.head?_eq_some_iff.1 h
        exact htilde tail rfl rfl
      · obtain ⟨tail, rfl⟩ := List.head?_eq_some_iff.1 h
        exact hslash tail rfl rfl
    rw [escaped_cons hc (Ne.symm hs.1), ih hs.2 h.2]
  | case4 => rfl

/-! ## Whole pointers -/

theorem toList_ofParts (parts : List String) :
    (ofParts parts).toList = parts.flatMap fun part => '/' :: escaped part.toList := by
  induction parts with
  | nil => rfl
  | cons part parts ih =>
    rw [toList_ofParts_cons, ih]
    simp [escape, escaped]

/-- In the pointer to a location every tilde begins an escape. -/
theorem tildesEscape_ofParts (parts : List String) : TildesEscape (ofParts parts).toList := by
  rw [toList_ofParts]
  induction parts with
  | nil => exact tildesEscape_nil
  | cons part parts ih =>
    rw [List.flatMap_cons, List.cons_append, tildesEscape_cons_ne (by decide)]
    -- what follows is nothing, or it begins with a slash
    cases parts with
    | nil => simpa using tildesEscape_escaped part.toList
    | cons next parts =>
      rw [List.flatMap_cons, List.cons_append] at ih ⊢
      rw [tildesEscape_append]
      exact ⟨tildesEscape_escaped _, (tildesEscape_cons_ne (by decide)).1 ih⟩

/-- The parts between slashes, each behind a slash, are the text again. -/
theorem flatMap_splitSlashes (s : List Char) :
    ((splitSlashes s).flatMap fun part => '/' :: part) = '/' :: s := by
  induction s with
  | nil => rfl
  | cons c s ih =>
    rw [splitSlashes]
    split_ifs with hc
    · rw [List.flatMap_cons, ih, hc]
      rfl
    · cases hs : splitSlashes s with
      | nil => simp [hs] at ih
      | cons part parts =>
        rw [hs, List.flatMap_cons, List.cons_append, List.cons.injEq] at ih
        simp [ih.2]

theorem slash_notMem_of_mem_splitSlashes {part : List Char} (h : part ∈ splitSlashes s) :
    '/' ∉ part := by
  induction s generalizing part with
  | nil => simp_all [splitSlashes]
  | cons c s ih =>
    rw [splitSlashes] at h
    split_ifs at h with hc
    · rcases List.mem_cons.1 h with rfl | h
      · simp
      · exact ih h
    · cases hs : splitSlashes s with
      | nil => simp_all [Ne.symm hc]
      | cons first parts =>
        rw [hs] at h ih
        rcases List.mem_cons.1 h with rfl | h
        · simp [Ne.symm hc, ih List.mem_cons_self]
        · exact ih (List.mem_cons_of_mem _ h)

theorem tildesEscape_of_mem_flatMap {parts : List (List Char)} {part : List Char}
    (h : TildesEscape (parts.flatMap fun part => '/' :: part)) (hpart : part ∈ parts) :
    TildesEscape part := by
  induction parts with
  | nil => cases hpart
  | cons first parts ih =>
    rw [List.flatMap_cons, List.cons_append, tildesEscape_cons_ne (by decide)] at h
    cases parts with
    | nil =>
      rw [List.mem_singleton.1 hpart]
      simpa using h
    | cons next parts =>
      rw [List.flatMap_cons, List.cons_append, tildesEscape_append] at h
      rcases List.mem_cons.1 hpart with rfl | hpart
      · exact h.1
      · refine ih ?_ hpart
        rw [List.flatMap_cons, List.cons_append, tildesEscape_cons_ne (by decide)]
        exact h.2

theorem toParts_eq_error_iff {pointer : String} : (∃ e, toParts pointer = .error e) ↔
    pointer ≠ "" ∧ pointer.toList.head? ≠ some '/' := by
  rw [Ne, ← String.toList_eq_nil_iff, toParts]
  split
  case h_1 h => simp [h]
  case h_2 rest h => simp [h]
  case h_3 hnil hslash =>
    simp only [Except.error.injEq, exists_eq', true_iff]
    refine ⟨hnil, fun h => ?_⟩
    obtain ⟨rest, h⟩ := List.head?_eq_some_iff.1 h
    exact hslash rest h

/-- **A pointer is written as it was read exactly if every tilde in it begins an escape.** -/
theorem ofParts_eq_iff {pointer : String} {parts : List String} (h : toParts pointer = .ok parts) :
    ofParts parts = pointer ↔ TildesEscape pointer.toList := by
  constructor
  · rintro rfl
    exact tildesEscape_ofParts parts
  · intro htildes
    rw [← String.toList_inj, toList_ofParts]
    rw [toParts] at h
    split at h
    case h_1 hnil =>
      cases h
      exact hnil.symm
    case h_2 rest hrest =>
      cases h
      rw [hrest, ← flatMap_splitSlashes] at htildes
      rw [hrest, ← flatMap_splitSlashes, List.flatMap_map]
      refine List.flatMap_congr fun part hpart => ?_
      rw [unescape_eq_readEscapes, String.toList_ofList, String.toList_ofList,
        escaped_readEscapes (slash_notMem_of_mem_splitSlashes hpart)
          (tildesEscape_of_mem_flatMap htildes hpart)]
    case h_3 => cases h

/-- **Writing a pointer and reading one are inverse to each other.**  The segments of a location are
read back from its pointer.  A text is refused exactly if it is not empty and does not begin with a
slash; any other is written as it was read exactly if each of its tildes is followed by a zero or a
one.  The escapes of a segment are read as in one pass from left to right. -/
theorem pointers_invert :
    (∀ parts : List String, toParts (ofParts parts) = .ok parts) ∧
    (∀ pointer : String,
      ((∃ e, toParts pointer = .error e) ↔ pointer ≠ "" ∧ pointer.toList.head? ≠ some '/') ∧
      ∀ parts : List String, toParts pointer = .ok parts →
        (ofParts parts = pointer ↔ TildesEscape pointer.toList)) ∧
    ∀ segment : String, unescape segment = String.ofList (readEscapes segment.toList) :=
  ⟨toParts_ofParts, fun _ => ⟨toParts_eq_error_iff, fun _ => ofParts_eq_iff⟩,
    unescape_eq_readEscapes⟩

/-- Escapes one behind another, empty segments, and a tilde that begins no escape. -/
theorem pointers_invert_awkward :
    toParts "//~01/~~1" = .ok ["", "~1", "~/"] ∧ ofParts ["", "~1", "~/"] ≠ "//~01/~~1" ∧
      toParts "/~01~00/" = .ok ["~1~0", ""] ∧ ofParts ["~1~0", ""] = "/~01~00/" ∧
      ∃ e, toParts "~1" = .error e := by
  obtain ⟨-, hpointer, -⟩ := pointers_invert
  have hlone : toParts "//~01/~~1" = .ok ["", "~1", "~/"] := by decide +kernel
  have hescapes : toParts "/~01~00/" = .ok ["~1~0", ""] := by decide +kernel
  refine ⟨hlone, ?_, hescapes, ?_, (hpointer _).1.2 (by decide +kernel)⟩
  · rw [Ne, (hpointer _).2 _ hlone]
    intro htildes
    exact absurd (htildes 6 (by decide +kernel)) (by decide +kernel)
  · rw [(hpointer _).2 _ hescapes]
    simp [tildesEscape_cons, tildesEscape_nil]

end JsonSchema.Pointer
