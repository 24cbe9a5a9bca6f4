/-
  The objects of a document and the references to them.

  * `Text.Percent.encode`: each percent sign becomes an escape; `decode_encode`,
    the text is read back.
  * `Pointer.fragment`: the reference to the location with the given segments;
    `fragmentParts?_fragment`, the segments are read back.
  * `Spells`: a segment is the decimal form of an index, possibly with zeros in
    front.
  * `Members.Locates`: segments lead from one object down to another.
  * `Members.walk_eq_found_iff`: a walk finds what the segments lead to.
  * `Members.EndsAt`: a segment behind the longest part of the way that leads to
    an object; `walk_notFound`, a walk that finds nothing reports it.
  * `references_address_objects`: all of it for references.
-/
import JsonSchema.Proofs.Reach
import Mathlib.Data.List.Induction

namespace JsonSchema

/-! ## Percent signs -/

namespace Text.Percent

/-- The text with each percent sign as an escape. -/
def encode (s : List Char) : List Char :=
  s.flatMap fun c => if c = '%' then ['%', '2', '5'] else [c]

theorem encode_append (s t : List Char) : encode (s ++ t) = encode s ++ encode t :=
  List.flatMap_append

theorem encode_percent : encode ['%'] = ['%', '2', '5'] := rfl

theorem encode_singleton {c : Char} (h : c ≠ '%') : encode [c] = [c] := by
  simp [encode, h]

theorem encode_cons {c : Char} (h : c ≠ '%') (s : List Char) : encode (c :: s) = c :: encode s := by
  rw [← List.singleton_append, encode_append, encode_singleton h, List.singleton_append]

theorem toBytes_encode (s : List Char) : toBytes (encode s) = s.map Char.toNat := by
  induction s with
  | nil => simp [encode, toBytes]
  | cons c s ih =>
    rw [← List.singleton_append, encode_append]
    by_cases hc : c = '%'
    · subst hc
      have htwo : hexValue? '2' = some 2 := rfl
      have hfive : hexValue? '5' = some 5 := rfl
      simp only [encode_percent, List.cons_append, List.nil_append, toBytes, htwo, hfive, ih,
        List.map_cons]
      rfl
    · rw [encode_singleton hc, List.singleton_append, toBytes, ih]
      · rfl
      · exact fun _ _ _ hpercent => absurd hpercent hc

/-- The bytes of ASCII characters are these characters. -/
theorem decodeLossy_ascii {s : List Char} (h : ∀ c ∈ s, isAscii c = true) :
    Utf8.decodeLossy (s.map Char.toNat) = s := by
  unfold Utf8.decodeLossy
  induction s with
  | nil => rfl
  | cons c s ih =>
    have hc : c.toNat < 0x80 := by simpa [isAscii] using h c List.mem_cons_self
    simp only [List.map_cons, Utf8.decodeLossyFrom, Utf8.read, if_pos hc, Char.ofNat_toNat]
    rw [ih fun d hd => h d (List.mem_cons_of_mem c hd)]

/-- A run of ASCII characters goes on with the escaped form of one more. -/
theorem decodeFrom_encode_cons {c : Char} (hc : isAscii c = true) (done rest : List Char) :
    decodeFrom (encode done).reverse (encode [c] ++ rest) =
      decodeFrom (encode (done ++ [c])).reverse rest := by
  rw [encode_append, List.reverse_append]
  by_cases h : c = '%'
  · subst h
    simp [encode_percent, decodeFrom, isAscii]
  · simp [encode_singleton h, decodeFrom, hc]

theorem decodeFrom_encode {done : List Char} (hdone : ∀ c ∈ done, isAscii c = true)
    (s : List Char) : decodeFrom (encode done).reverse (encode s) = done ++ s := by
  have hrun : ∀ {done : List Char}, (∀ c ∈ done, isAscii c = true) →
      Utf8.decodeLossy (toBytes (encode done).reverse.reverse) = done := by
    intro done hdone
    rw [List.reverse_reverse, toBytes_encode, decodeLossy_ascii hdone]
  induction s generalizing done with
  | nil => simpa [encode, decodeFrom] using hrun hdone
  | cons c s ih =>
    rw [← List.singleton_append, encode_append]
    by_cases hc : isAscii c = true
    · have hmore : ∀ d ∈ done ++ [c], isAscii d = true := by
        simpa [or_imp, forall_and] using ⟨hdone, hc⟩
      rw [decodeFrom_encode_cons hc, ih hmore, List.append_assoc]
    · -- a character beyond ASCII ends the run, and is no percent sign
      have hpercent : c ≠ '%' := by
        rintro rfl
        exact hc rfl
      have hrest := ih (List.forall_mem_nil _)
      rw [encode_singleton hpercent, List.singleton_append, decodeFrom, if_neg hc, hrun hdone]
      exact congrArg (done ++ c :: ·) hrest

/-- **The text with its percent signs escaped is read back.** -/
theorem decode_encode (s : List Char) : decode (encode s) = s :=
  decodeFrom_encode (List.forall_mem_nil _) s

end Text.Percent

/-! ## References to locations -/

namespace Pointer

/-- The reference to the location with the given segments in the same document. -/
def fragment (segments : List String) : String :=
  "#" ++ String.ofList (Text.Percent.encode (ofParts segments).toList)

theorem toList_fragment_cons (segment : String) (segments : List String) :
    (fragment (segment :: segments)).toList = '#' :: '/' ::
      Text.Percent.encode ((escape segment).toList ++ (ofParts segments).toList) := by
  have hsign : "#".toList = ['#'] := rfl
  simp only [fragment, String.toList_append, String.toList_ofList, toList_ofParts_cons]
  rw [Text.Percent.encode_cons (by decide), hsign, List.singleton_append]

/-- **The segments of a location are read back from the reference to it.** -/
theorem fragmentParts?_fragment (segments : List String) :
    fragmentParts? (fragment segments) = some segments := by
  cases segments with
  | nil => rfl
  | cons segment segments =>
    obtain ⟨parts, hread, hparts⟩ := fragmentParts?_slash (toList_fragment_cons segment segments)
    rw [← Text.Percent.encode_cons (by decide), Text.Percent.decode_encode, ← toList_ofParts_cons,
      String.ofList_toList, toParts_ofParts] at hread
    rw [hparts, Except.ok.inj hread]

end Pointer

/-! ## Indices -/

/-- A segment is the decimal form of an index, possibly with zeros in front. -/
def Spells (segment : String) (index : ℕ) : Prop :=
  ∃ zeros, segment.toList = List.replicate zeros '0' ++ Nat.toDigits 10 index

/-- A digit is the decimal form of its value. -/
theorem toDigits_digit {c : Char} (h : isJsonDigit c = true) :
    c.toNat - '0'.toNat < 10 ∧ Nat.toDigits 10 (c.toNat - '0'.toNat) = [c] := by
  simp only [isJsonDigit, Bool.and_eq_true, decide_eq_true_eq] at h
  have hbounds : '0'.toNat ≤ c.toNat ∧ c.toNat ≤ '9'.toNat := h
  have hlt : c.toNat - '0'.toNat < 10 := by
    have hnine : '9'.toNat = '0'.toNat + 9 := rfl
    omega
  have hchar : ∀ d < 10, Nat.digitChar d = Char.ofNat ('0'.toNat + d) := by decide
  refine ⟨hlt, ?_⟩
  rw [Nat.toDigits_of_lt_base hlt, hchar _ hlt, Nat.add_sub_of_le hbounds.1, Char.ofNat_toNat]

theorem digitsValue_concat (digits : List Char) (c : Char) :
    digitsValue (digits ++ [c]) = 10 * digitsValue digits + (c.toNat - '0'.toNat) := by
  simp [digitsValue]

/-- **Digits spell their value.** -/
theorem spells_digitsValue {digits : List Char} (hne : digits ≠ [])
    (h : digits.all isJsonDigit = true) : ∃ zeros,
    digits = List.replicate zeros '0' ++ Nat.toDigits 10 (digitsValue digits) := by
  induction digits using List.reverseRecOn with
  | nil => exact absurd rfl hne
  | append_singleton digits c ih =>
    simp only [List.all_append, List.all_cons, List.all_nil, Bool.and_true, Bool.and_eq_true] at h
    obtain ⟨hlt, hdigit⟩ := toDigits_digit h.2
    rw [digitsValue_concat]
    by_cases hdigits : digits = []
    · subst hdigits
      have hempty : digitsValue [] = 0 := rfl
      refine ⟨0, ?_⟩
      rw [hempty, Nat.mul_zero, Nat.zero_add, hdigit, List.replicate_zero]
    · obtain ⟨zeros, hzeros⟩ := ih hdigits h.1
      rcases Nat.eq_zero_or_pos (digitsValue digits) with hv | hv
      · -- there are only zeros so far
        have hzero : Nat.toDigits 10 0 = ['0'] := rfl
        refine ⟨zeros + 1, ?_⟩
        rw [hv, Nat.mul_zero, Nat.zero_add, hdigit, List.replicate_succ', ← hzero, ← hv, ← hzeros]
      · refine ⟨zeros, ?_⟩
        rw [← Nat.toDigits_append_toDigits (by decide) hv hlt, hdigit, ← List.append_assoc,
          ← hzeros]

theorem indexDigits?_of_spells {segment : String} {index : ℕ} (h : Spells segment index) :
    indexDigits? segment = some segment.toList ∧ digitsValue segment.toList = index := by
  obtain ⟨zeros, hzeros⟩ := h
  have hvalue : digitsValue segment.toList = index := by
    have hread : Nat.ofDigitChars 10 segment.toList 0 = index := by
      rw [hzeros, Nat.ofDigitChars_append, Nat.ofDigitChars_replicate_zero, Nat.mul_zero,
        Nat.ofDigitChars_ten_toDigits]
    exact hread
  have hdigits : (Nat.toDigits 10 index).all isJsonDigit = true := by
    have hcanonical := indexDigits?_toString index
    obtain ⟨-, hall, heq⟩ := Members.indexDigits?_eq_some_iff.1 hcanonical
    rwa [heq] at hall
  refine ⟨Members.indexDigits?_eq_some_iff.2 ⟨?_, ?_, rfl⟩, hvalue⟩
  · rw [hzeros]
    exact List.append_ne_nil_of_right_ne_nil _ Nat.toDigits_ne_nil
  · rw [hzeros, List.all_append, hdigits, Bool.and_true]
    exact List.all_replicate.trans (by simp [isJsonDigit])

/-- **A segment is read as the index that it spells.** -/
theorem spells_iff {segment : String} {index : ℕ} : Spells segment index ↔
    ∃ digits, indexDigits? segment = some digits ∧ digitsValue digits = index := by
  constructor
  · intro h
    obtain ⟨hdigits, hvalue⟩ := indexDigits?_of_spells h
    exact ⟨_, hdigits, hvalue⟩
  · rintro ⟨digits, hdigits, rfl⟩
    obtain ⟨hne, hall, rfl⟩ := Members.indexDigits?_eq_some_iff.1 hdigits
    exact spells_digitsValue hne hall

/-- The decimal form of an index spells it. -/
theorem spells_toString (index : ℕ) : Spells (toString index) index :=
  ⟨0, by simp⟩

/-! ## Ways down -/

namespace Members

/-- Segments lead from an object down to an object.  Each step is a key of an object, or a key of an
array and the index of an object in it, which may have as many digits as are read. -/
inductive Locates : Members → List String → Members → Prop
  | here {S : Members} : Locates S [] S
  | key {S T U : Members} {key : String} {rest : List String} : S.get? key = some (.object T) →
      Locates T rest U → Locates S (key :: rest) U
  | index {S T U : Members} {key index : String} {rest : List String} {items : List Json} {i : ℕ} :
      S.get? key = some (.array items) → Spells index i → index.toList.length ≤ digitLimit →
      items[i]? = some (.object T) → Locates T rest U → Locates S (key :: index :: rest) U

variable {D T U : Members} {segments rest : List String} {key index : String}
  {items : List Json} {i : ℕ}

theorem objectAt?_eq_some_iff : objectAt? items i = some T ↔ items[i]? = some (.object T) := by
  simp only [objectAt?, Option.bind_eq_some_iff]
  constructor
  · rintro ⟨v, hv, hT⟩
    rw [hv, eq_object_of_members? hT]
  · intro h
    exact ⟨_, h, rfl⟩

/-- **A walk finds an object exactly if the segments lead to it.** -/
theorem walk_eq_found_iff : D.walk segments = .ok (.found T) ↔ D.Locates segments T := by
  constructor
  · intro h
    fun_induction Members.walk D segments with
    | case1 => cases h; exact .here
    | case2 D key rest U hU ih => exact .key hU (ih h)
    | case6 D key items hi index rest digits hd hl U hU ih =>
      have hspells : Spells index (digitsValue digits) := spells_iff.2 ⟨digits, hd, rfl⟩
      obtain ⟨-, -, rfl⟩ := indexDigits?_eq_some_iff.1 hd
      exact .index hi hspells (Nat.le_of_not_lt hl) (objectAt?_eq_some_iff.1 hU) (ih h)
    | _ => cases h
  · intro h
    induction h with
    | here => rfl
    | key hT _ ih => simp only [Members.walk, hT, ih]
    | index hi hs hl hT _ ih =>
      obtain ⟨hd, rfl⟩ := indexDigits?_of_spells hs
      simp only [Members.walk, hi, hd, if_neg (Nat.not_lt.2 hl), objectAt?_eq_some_iff.2 hT, ih]

/-! ## Ways that end -/

/-- A segment stands behind the longest part of the way that leads to an object. -/
def EndsAt (D : Members) (segments : List String) (segment : String) : Prop :=
  ∃ way rest, segments = way ++ segment :: rest ∧ (∃ T, D.Locates way T) ∧
    ∀ other, other <+: segments → (∃ T, D.Locates other T) → other.length ≤ way.length

/-- The end of a way behind an object is the end of the way through it. -/
theorem EndsAt.behind {before : List String} {segment : String} (hU : D.Locates before U)
    (h : U.EndsAt segments segment) : D.EndsAt (before ++ segments) segment := by
  have hwalk := walk_append (walk_eq_found_iff.2 hU)
  obtain ⟨way, rest, rfl, ⟨T, hT⟩, hlongest⟩ := h
  refine ⟨before ++ way, rest, (List.append_assoc ..).symm, ⟨T, ?_⟩, ?_⟩
  · rw [← walk_eq_found_iff, hwalk]
    exact walk_eq_found_iff.2 hT
  · rintro other hother ⟨V, hV⟩
    rw [List.length_append]
    rcases List.prefix_or_prefix_of_prefix hother (List.prefix_append before _) with hle | hle
    · exact hle.length_le.trans (Nat.le_add_right ..)
    · obtain ⟨more, rfl⟩ := hle
      rw [← walk_eq_found_iff, hwalk] at hV
      have hmore := hlongest more ((List.prefix_append_right_inj before).1 hother)
        ⟨V, walk_eq_found_iff.1 hV⟩
      rw [List.length_append]
      omega

/-- No part of the way but the empty one leads to an object. -/
theorem EndsAt.here (h : ∀ (more : List String) (T : Members), more <+: rest →
    D.walk (key :: more) ≠ .ok (.found T)) : D.EndsAt (key :: rest) key := by
  refine ⟨[], rest, rfl, ⟨D, .here⟩, ?_⟩
  rintro other hother ⟨T, hT⟩
  cases other with
  | nil => rfl
  | cons segment more =>
    rw [List.cons_prefix_cons] at hother
    obtain ⟨rfl, hmore⟩ := hother
    exact absurd (walk_eq_found_iff.2 hT) (h more T hmore)

/-- The next segment, if there is one, is not the index of an object in the array. -/
theorem EndsAt.array (hi : D.get? key = some (.array items)) (h : ∀ next ∈ rest.head?,
    ∀ (more : List String) (T : Members), D.walk (key :: next :: more) ≠ .ok (.found T)) :
    D.EndsAt (key :: rest) key := by
  refine .here fun more T hmore => ?_
  cases more with
  | nil => simp [Members.walk, hi]
  | cons next more =>
    obtain ⟨after, rfl⟩ := hmore
    exact h next rfl more T

/-- **A walk that finds nothing reports where the longest way to an object ends.** -/
theorem walk_notFound {segment : String} (h : D.walk segments = .ok (.notFound segment)) :
    D.EndsAt segments segment := by
  fun_induction Members.walk D segments with
  | case2 D key rest U hU ih => exact (ih h).behind (.key hU .here)
  | case3 D key items hi =>
    cases h
    refine .array hi fun next hnext more T => ?_
    cases hnext
  | case4 D key items hi next rest hd =>
    cases h
    refine .array hi fun next' hnext more T => ?_
    cases hnext
    simp [Members.walk, hi, hd]
  | case6 D key items hi index rest digits hd hl U hU ih =>
    have hfound : D.walk [key, index] = .ok (.found U) := by
      simp only [Members.walk, hi, hd, if_neg hl, hU]
    exact (ih h).behind (walk_eq_found_iff.1 hfound)
  | case7 D key items hi next rest digits hd hl hU =>
    cases h
    refine .array hi fun next' hnext more T => ?_
    cases hnext
    simp [Members.walk, hi, hd, hl, hU]
  | case8 D key rest hobject harray =>
    cases h
    refine .here fun more T _ => ?_
    rw [Members.walk]
    split
    case h_1 T' hT => exact absurd hT (hobject T')
    case h_2 items hi => exact absurd hi (harray items)
    case h_3 => simp
  | _ => cases h

/-- A walk that leads to no object and comes to no index that is too long finds nothing. -/
theorem exists_walk_notFound (hfound : ∀ T : Members, ¬D.Locates segments T)
    (hlong : ∀ digits, ¬D.LongIndexAt segments digits) :
    ∃ segment, D.walk segments = .ok (.notFound segment) := by
  cases h : D.walk segments with
  | error e =>
    obtain ⟨digits, -, hdigits⟩ := walk_eq_error_iff.1 h
    exact absurd hdigits (hlong digits)
  | ok resolution =>
    cases resolution with
    | remote => exact absurd h (walk_ne_remote segments)
    | notFound segment => exact ⟨segment, rfl⟩
    | found T => exact absurd (walk_eq_found_iff.1 h) (hfound T)

end Members

/-! ## References that address objects -/

theorem resolve_eq_walk (D : Members) {reference : String} {segments : List String}
    (h : Pointer.fragmentParts? reference = some segments) :
    resolve (some D) reference = D.walk segments := by
  simp only [resolve, h]

/-- **References address objects.**  Wherever segments lead to an object of a document, whatever
characters the keys hold, the reference to the location is resolved to that object.  The other way
round, what a reference is resolved to is the object that its segments lead to.  If they lead to
none, the reference is resolved to nothing, unless there is an index of too many digits on the way;
and the segment that is then reported is the one behind the longest part of the way that leads to an
object. -/
theorem references_address_objects (D : Members) :
    (∀ (segments : List String) (T : Members), D.Locates segments T →
      resolve (some D) (Pointer.fragment segments) = .ok (.found T)) ∧
    ∀ (reference : String) (segments : List String),
      Pointer.fragmentParts? reference = some segments →
        (∀ T : Members, resolve (some D) reference = .ok (.found T) ↔ D.Locates segments T) ∧
        (∀ segment, resolve (some D) reference = .ok (.notFound segment) →
          D.EndsAt segments segment) ∧
        ((∀ T : Members, ¬D.Locates segments T) → (∀ digits, ¬D.LongIndexAt segments digits) →
          ∃ segment, resolve (some D) reference = .ok (.notFound segment)) := by
  refine ⟨?_, ?_⟩
  · intro segments T hT
    rw [resolve_eq_walk D (Pointer.fragmentParts?_fragment segments)]
    exact Members.walk_eq_found_iff.2 hT
  · intro reference segments h
    rw [resolve_eq_walk D h]
    exact ⟨fun T => Members.walk_eq_found_iff, fun segment => Members.walk_notFound,
      Members.exists_walk_notFound⟩

/-! ### Keys that look like escapes -/

/-- A slash, a tilde, a percent sign with digits, the empty key. -/
def awkwardDocument : Members :=
  [("a/b~%25", .object [("", .array [.null, .object [("ä~1", .object [])]])])]

theorem references_address_objects_awkward :
    awkwardDocument.Locates ["a/b~%25", "", "1", "ä~1"] [] ∧
      Pointer.fragment ["a/b~%25", "", "1", "ä~1"] = "#/a~1b~0%2525//1/ä~01" ∧
      resolve (some awkwardDocument) "#/a~1b~0%2525//1/ä~01" = .ok (.found []) ∧
      awkwardDocument.Locates ["a/b~%25", "", "01"] [("ä~1", .object [])] ∧
      awkwardDocument.EndsAt ["a/b~%25", "", "0", "ä~1"] "" := by
  obtain ⟨hcomplete, hsound⟩ := references_address_objects awkwardDocument
  have hlocates : awkwardDocument.Locates ["a/b~%25", "", "1", "ä~1"] [] :=
    .key rfl (.index rfl (spells_toString 1) (by decide) rfl (.key rfl .here))
  have hreference : Pointer.fragment ["a/b~%25", "", "1", "ä~1"] = "#/a~1b~0%2525//1/ä~01" := by
    decide +kernel
  obtain ⟨hzero, -⟩ := hsound _ _ (Pointer.fragmentParts?_fragment ["a/b~%25", "", "01"])
  obtain ⟨-, hnull, -⟩ := hsound _ _ (Pointer.fragmentParts?_fragment ["a/b~%25", "", "0", "ä~1"])
  refine ⟨hlocates, hreference, ?_, ?_, ?_⟩
  · rw [← hreference]
    exact hcomplete _ _ hlocates
  · refine (hzero _).1 ?_
    rw [resolve_eq_walk _ (Pointer.fragmentParts?_fragment _)]
    rfl
  · refine hnull _ ?_
    rw [resolve_eq_walk _ (Pointer.fragmentParts?_fragment _)]
    rfl

end JsonSchema
