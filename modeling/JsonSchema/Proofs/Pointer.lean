/-
  Reading back a pointer.

  * `unescape_escape`: a segment is read back from its escaped form.
  * `splitSlashes_append`: a text without slashes is the first part before
    everything that a slash begins.
  * `toParts_ofParts`: the segments of a location are read back from its
    pointer, whatever characters they hold.
  * `fragmentParts?_slash`: the segments of a reference can always be read.
-/
import JsonSchema.Pointer
import Mathlib.Data.List.Basic

namespace JsonSchema.Pointer

/-! ## Segments -/

theorem contract_cons_ne {first second result a : Char} (h : a ≠ first) (s : List Char) :
    contract first second result (a :: s) = a :: contract first second result s := by
  cases s with
  | nil => simp [contract]
  | cons b s => rw [contract, if_neg fun hab => h hab.1]

theorem contract_cons_cons {first second result : Char} (s : List Char) :
    contract first second result (first :: second :: s) =
      result :: contract first second result s := by
  rw [contract, if_pos ⟨rfl, rfl⟩]

/-- The escaped slashes are read back, and nothing else is taken for one: each tilde that is left
was escaped and stands before a zero. -/
theorem contract_slash (s : List Char) :
    contract '~' '1' '/' (expand '/' '~' '1' (expand '~' '~' '0' s)) = expand '~' '~' '0' s := by
  induction s with
  | nil => simp [expand, contract]
  | cons x s ih =>
    simp only [expand, List.flatMap_cons, List.flatMap_append] at ih ⊢
    by_cases hx : x = '~'
    · subst hx
      simp only [if_true, List.flatMap_cons, List.flatMap_nil, List.append_nil, List.cons_append,
        List.nil_append, if_neg (show ('~' : Char) ≠ '/' by decide),
        if_neg (show ('0' : Char) ≠ '/' by decide)]
      rw [contract, if_neg fun h => absurd h.2 (by decide), contract_cons_ne (by decide), ih]
    · by_cases hs : x = '/'
      · subst hs
        simp only [if_neg (show ('/' : Char) ≠ '~' by decide), List.flatMap_cons, List.flatMap_nil,
          if_true, List.append_nil, List.cons_append, List.nil_append]
        rw [contract_cons_cons, ih]
      · simp only [if_neg hx, List.flatMap_cons, List.flatMap_nil, if_neg hs, List.append_nil,
          List.cons_append, List.nil_append]
        rw [contract_cons_ne hx, ih]

/-- The escaped tildes are read back. -/
theorem contract_tilde (s : List Char) : contract '~' '0' '~' (expand '~' '~' '0' s) = s := by
  induction s with
  | nil => simp [expand, contract]
  | cons x s ih =>
    simp only [expand, List.flatMap_cons] at ih ⊢
    by_cases hx : x = '~'
    · subst hx
      simp only [if_true, List.cons_append, List.nil_append]
      rw [contract_cons_cons, ih]
    · simp only [if_neg hx, List.cons_append, List.nil_append]
      rw [contract_cons_ne hx, ih]

theorem unescape_escape (segment : String) : unescape (escape segment) = segment := by
  simp [unescape, escape, contract_slash, contract_tilde]

theorem slash_notMem_escape (segment : String) : '/' ∉ (escape segment).toList := by
  simp only [escape, String.toList_ofList, expand, List.mem_flatMap, not_exists, not_and]
  intro x _
  split_ifs with hx
  · decide
  · simpa using Ne.symm hx

/-! ## Pointers -/

theorem splitSlashes_self {part : List Char} (h : '/' ∉ part) : splitSlashes part = [part] := by
  induction part with
  | nil => rfl
  | cons c part ih =>
    simp only [List.mem_cons, not_or] at h
    rw [splitSlashes, if_neg (Ne.symm h.1), ih h.2]

theorem splitSlashes_append {part : List Char} (h : '/' ∉ part) (rest : List Char) :
    splitSlashes (part ++ '/' :: rest) = part :: splitSlashes rest := by
  induction part with
  | nil => simp [splitSlashes]
  | cons c part ih =>
    simp only [List.mem_cons, not_or] at h
    rw [List.cons_append, splitSlashes, if_neg (Ne.symm h.1), ih h.2]

theorem toList_ofParts_cons (part : String) (parts : List String) :
    (ofParts (part :: parts)).toList = '/' :: ((escape part).toList ++ (ofParts parts).toList) := by
  simp [ofParts]

theorem splitSlashes_ofParts {part : List Char} (h : '/' ∉ part) (parts : List String) :
    splitSlashes (part ++ (ofParts parts).toList) =
      part :: parts.map fun p => (escape p).toList := by
  induction parts generalizing part with
  | nil => simpa [ofParts] using splitSlashes_self h
  | cons p parts ih =>
    rw [toList_ofParts_cons, splitSlashes_append h, ih (slash_notMem_escape p)]
    rfl

/-- **The segments of a location are read back from its pointer.** -/
theorem toParts_ofParts (parts : List String) : toParts (ofParts parts) = .ok parts := by
  cases parts with
  | nil => rfl
  | cons part parts =>
    unfold toParts
    rw [toList_ofParts_cons]
    simp only [splitSlashes_ofParts (slash_notMem_escape part), List.map_cons, List.map_map,
      String.ofList_toList, unescape_escape]
    have hid : (unescape ∘ String.ofList) ∘ (fun p => (escape p).toList) = id := by
      funext p
      simp [unescape_escape]
    congr 2
    exact (congrArg (List.map · parts) hid).trans (List.map_id parts)

/-! ## References into the document -/

open Text in
/-- Resolving escapes keeps a slash at the beginning. -/
theorem decodeFrom_slash (run s : List Char) :
    ∃ tail, Percent.decodeFrom (run ++ ['/']) s = '/' :: tail := by
  have hrun : ∀ run : List Char, ∃ tail,
      Utf8.decodeLossy (Percent.toBytes (run ++ ['/']).reverse) = '/' :: tail := by
    intro run
    rw [List.reverse_append, List.reverse_singleton, List.singleton_append, Percent.toBytes]
    · exact ⟨_, rfl⟩
    · exact fun _ _ _ hpercent => absurd hpercent (by decide)
  induction s generalizing run with
  | nil => exact hrun run
  | cons c s ih =>
    rw [Percent.decodeFrom]
    split_ifs
    · exact ih (c :: run)
    · obtain ⟨tail, htail⟩ := hrun run
      rw [htail]
      exact ⟨_, rfl⟩

/-- **Reading the segments of a reference never fails**: what follows the `#` is a pointer also
after its escapes have been resolved. -/
theorem fragmentParts?_slash {reference : String} {rest : List Char}
    (h : reference.toList = '#' :: '/' :: rest) :
    ∃ parts, toParts (String.ofList (Text.Percent.decode ('/' :: rest))) = .ok parts ∧
      fragmentParts? reference = some parts := by
  obtain ⟨tail, htail⟩ := decodeFrom_slash [] rest
  have hdecode : Text.Percent.decode ('/' :: rest) = '/' :: tail := htail
  refine ⟨(splitSlashes tail).map fun part => unescape (String.ofList part), ?_, ?_⟩
  · simp [hdecode, toParts]
  · simp [fragmentParts?, h, hdecode, toParts, Except.toOption]

end JsonSchema.Pointer
