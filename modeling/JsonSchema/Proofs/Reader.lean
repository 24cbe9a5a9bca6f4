/-
  What is read: code points, and objects that hold no key twice.

  * `isCodePoint_readString`: a string consists of characters and surrogates.
  * `toNat_textOf_iff`: the text for it has just these code points if they are
    characters.
  * `Members.uniqueKeys_ofReversed`: of a repeated key an object keeps one member.
  * `wellFormed_of_mem_lexemes`: a token by itself stands for a scalar.
  * `holdsSurrogate`, `toNat_textOf_of_mem_lexemes`: in a text without surrogates
    every string is kept as it is written.
  * `Unfinished`: the values that a reader holds on to have unique keys.
  * `Unfinished.takeToken`, `Unfinished.takeAll`: what one token, and what all
    tokens of a text, preserve.
  * `Json.uniqueKeys_of_read`: the value of a text.
-/
import JsonSchema.Proofs.Location

namespace JsonSchema

/-! ## Code points -/

/-- A character, or one half of a surrogate pair. -/
def IsCodePoint (n : ℕ) : Prop := n.isValidChar ∨ 0xd800 ≤ n ∧ n ≤ 0xdfff

theorem isCodePoint_char (c : Char) : IsCodePoint c.toNat := Or.inl c.valid

theorem hexValue?_lt {c : Char} {n : ℕ} (h : Text.Percent.hexValue? c = some n) : n < 16 := by
  have hle : ∀ {a b : Char}, a ≤ b ↔ a.toNat ≤ b.toNat := Iff.rfl
  simp only [Text.Percent.hexValue?, hle, Char.reduceToNat] at h
  split_ifs at h <;> cases h <;> omega

theorem codeUnit?_lt {s : List Char} {unit : ℕ} (h : codeUnit? s = some unit) :
    unit < 0x10000 := by
  unfold codeUnit? at h
  split at h
  · simp only [Option.bind_eq_bind, Option.bind_eq_some_iff, Option.pure_def,
      Option.some.injEq] at h
    obtain ⟨a, ha, b, hb, c, hc, d, hd, rfl⟩ := h
    have := hexValue?_lt ha
    have := hexValue?_lt hb
    have := hexValue?_lt hc
    have := hexValue?_lt hd
    omega
  · cases h

/-- A Unicode escape denotes a code point. -/
theorem isCodePoint_unicodeEscape {unit : ℕ} (h : unit < 0x10000) (rest : List Char) :
    IsCodePoint (unicodeEscape unit rest).1 := by
  have hunit : IsCodePoint unit := by
    simp only [IsCodePoint, Nat.isValidChar]
    omega
  unfold unicodeEscape
  split_ifs with hhigh
  · split
    · split
      · split_ifs with hlow
        · simp only [IsCodePoint, Nat.isValidChar]
          omega
        · exact hunit
      · exact hunit
    · exact hunit
  · exact hunit

theorem isCodePoint_readString {start position skip : ℕ} {done points : List ℕ} {stop : ℕ}
    {s : List Char} (hd : ∀ n ∈ done, IsCodePoint n)
    (h : readString start position skip done s = .ok (points, stop)) :
    ∀ n ∈ points, IsCodePoint n := by
  fun_induction readString start position skip done s with
  | case2 position done c rest skip ih => exact ih hd h
  | case3 position done rest =>
    cases h
    exact fun n hn => hd n (List.mem_reverse.1 hn)
  | case7 position done more unit hunit _ point size hpoint _ ih =>
    have hescape := isCodePoint_unicodeEscape (codeUnit?_lt hunit) (more.drop 4)
    rw [hpoint] at hescape
    exact ih (List.forall_mem_cons.2 ⟨hescape, hd⟩) h
  | case8 position done e rest _ c _ _ ih | case11 position done c rest _ _ _ ih =>
    exact ih (List.forall_mem_cons.2 ⟨isCodePoint_char c, hd⟩) h
  | _ => cases h

/-- **The text of code points has just these if they are characters.** -/
theorem toNat_textOf_iff {points : List ℕ} :
    (textOf points).toList.map Char.toNat = points ↔ ∀ n ∈ points, n.isValidChar := by
  have hpoint : ∀ n : ℕ, (if n.isValidChar then Char.ofNat n else Text.Utf8.replacement).toNat = n ↔
      n.isValidChar := by
    intro n
    split_ifs with hn
    · refine iff_of_true ?_ hn
      rw [Char.ofNat, dif_pos hn]
      rfl
    · refine iff_of_false ?_ hn
      rintro rfl
      exact hn (by decide)
  rw [textOf, String.toList_ofList, List.map_map]
  induction points with
  | nil => simp
  | cons n points ih => simp [hpoint, ih]

/-! ## Repeated keys -/

namespace Members

variable {S : Members} {key k : String} {v : Json}

theorem mem_insert {m : String × Json} (h : m ∈ Members.insert S key v) :
    m ∈ S ∨ m = (key, v) := by
  induction S with
  | nil => exact Or.inr (List.mem_singleton.1 h)
  | cons member S ih =>
    obtain ⟨k, w⟩ := member
    rw [Members.insert] at h
    split_ifs at h with hk
    · rcases List.mem_cons.1 h with rfl | h
      · exact Or.inr (by rw [hk])
      · exact Or.inl (List.mem_cons_of_mem _ h)
    · rcases List.mem_cons.1 h with rfl | h
      · exact Or.inl List.mem_cons_self
      · rcases ih h with h | h
        · exact Or.inl (List.mem_cons_of_mem _ h)
        · exact Or.inr h

theorem mem_keys_insert (h : k ∈ Members.keys (Members.insert S key v)) :
    k ∈ Members.keys S ∨ k = key := by
  obtain ⟨m, hm, rfl⟩ := List.mem_map.1 h
  rcases mem_insert hm with hm | rfl
  · exact Or.inl (List.mem_map.2 ⟨m, hm, rfl⟩)
  · exact Or.inr rfl

/-- A key that is there already keeps its place. -/
theorem nodup_keys_insert (h : (Members.keys S).Nodup) :
    (Members.keys (Members.insert S key v)).Nodup := by
  induction S with
  | nil => exact List.nodup_singleton key
  | cons member S ih =>
    obtain ⟨k, w⟩ := member
    obtain ⟨hk, hS⟩ := List.nodup_cons.1 h
    rw [Members.insert]
    split_ifs with he
    · exact List.nodup_cons.2 ⟨hk, hS⟩
    · refine List.nodup_cons.2 ⟨?_, ih hS⟩
      intro hmem
      rcases mem_keys_insert hmem with hmem | hmem
      · exact hk hmem
      · exact he hmem

/-- **An object that is closed has unique keys.** -/
theorem uniqueKeys_ofReversed {members : Members} (h : ∀ m ∈ members, m.2.UniqueKeys) :
    (Json.object (Members.ofReversed members)).UniqueKeys := by
  suffices hs : (Members.keys (Members.ofReversed members)).Nodup ∧
      ∀ m ∈ Members.ofReversed members, m.2.UniqueKeys from
    ⟨hs.1, Json.uniqueKeysMembers_iff.2 hs.2⟩
  induction members with
  | nil => exact ⟨List.nodup_nil, List.forall_mem_nil _⟩
  | cons member members ih =>
    obtain ⟨key, v⟩ := member
    obtain ⟨hn, hv⟩ := ih fun m hm => h m (List.mem_cons_of_mem _ hm)
    refine ⟨nodup_keys_insert hn, ?_⟩
    intro m hm
    rcases mem_insert hm with hm | rfl
    · exact hv m hm
    · exact h _ List.mem_cons_self

end Members

/-! ## Tokens -/

/-- The value of a token has unique keys, and a string consists of code points. -/
def Token.WellFormed : Token → Prop
  | scalar v => v.UniqueKeys
  | string points => ∀ n ∈ points, IsCodePoint n
  | _ => True

theorem wellFormed_of_readNumber? {negative : Bool} {s : List Char} {t : Token} {size : ℕ}
    (h : readNumber? negative s = some (t, size)) : t.WellFormed := by
  unfold readNumber? at h
  dsimp only at h
  split_ifs at h <;> cases h <;> trivial

theorem wellFormed_of_readWord? {s : List Char} {t : Token} {size : ℕ}
    (h : readWord? s = some (t, size)) : t.WellFormed := by
  obtain ⟨⟨word, v⟩, hm, hw⟩ := List.exists_of_findSome?_eq_some h
  have hv : ∀ e ∈ words, e.2.UniqueKeys := by simp [words, Json.UniqueKeys]
  dsimp only at hw
  split_ifs at hw
  cases hw
  exact hv _ hm

theorem wellFormed_readToken (position : ℕ) (first : Char) (rest : List Char) :
    (readToken position first rest).1.WellFormed := by
  have number : ∀ negative s, ∀ found ∈ readNumber? negative s, found.1.WellFormed :=
    fun _ _ _ h => wellFormed_of_readNumber? h
  unfold readToken
  split
  case h_7 =>
    cases h : readString position (position + 1) 0 [] rest with
    | error e => trivial
    | ok read => exact isCodePoint_readString (List.forall_mem_nil _) h
  case h_8 =>
    split
    · next found hw => exact wellFormed_of_readWord? hw
    · split_ifs
      · cases hn : readNumber? true rest with
        | none => trivial
        | some found => exact number _ _ found hn
      · cases hn : readNumber? false (first :: rest) with
        | none => trivial
        | some found => exact number _ _ found hn
  all_goals trivial

theorem wellFormed_of_mem_lexemesFrom {text : List Char} {position skip : ℕ} {done : List Lexeme}
    (hd : ∀ l ∈ done, l.token.WellFormed) :
    ∀ l ∈ lexemesFrom position skip done text, l.token.WellFormed := by
  induction text generalizing position skip done with
  | nil => simpa [lexemesFrom] using hd
  | cons c text ih =>
    have more : ∀ t : Token, t.WellFormed → ∀ l ∈ (⟨position, t⟩ :: done : List Lexeme),
        l.token.WellFormed := by
      intro t ht l hl
      rcases List.mem_cons.1 hl with rfl | hl
      · exact ht
      · exact hd l hl
    cases skip with
    | succ skip => exact ih hd
    | zero =>
      rw [lexemesFrom]
      split_ifs
      · exact ih hd
      · have ht := wellFormed_readToken position c text
        split
        · next e _ _ =>
          intro l hl
          exact more (.brokenString e) trivial l (List.mem_reverse.1 hl)
        · intro l hl
          exact more .unknown trivial l (List.mem_reverse.1 hl)
        · next token size _ _ he =>
          rw [he] at ht
          exact ih (more token ht)

/-- **The tokens of a text are well-formed.**  A scalar holds no object, and a string consists of
characters and surrogates. -/
theorem wellFormed_of_mem_lexemes {text : List Char} {l : Lexeme} (h : l ∈ lexemes text) :
    l.token.WellFormed :=
  wellFormed_of_mem_lexemesFrom (List.forall_mem_nil _) l h

/-- A string has one half of a surrogate pair without the other half. -/
def Token.holdsSurrogate : Token → Bool
  | string points => points.any fun n => 0xd800 ≤ n && n ≤ 0xdfff
  | _ => false

/-- Some string of a text has one half of a surrogate pair without the other half. -/
def holdsSurrogate (text : List Char) : Bool := (lexemes text).any (·.token.holdsSurrogate)

/-- **In a text without surrogates every string is kept as it is written.** -/
theorem toNat_textOf_of_mem_lexemes {text : List Char} {position : ℕ} {points : List ℕ}
    (h : ⟨position, .string points⟩ ∈ lexemes text) (hs : holdsSurrogate text = false) :
    (textOf points).toList.map Char.toNat = points := by
  have hpoints : ∀ n ∈ points, IsCodePoint n := wellFormed_of_mem_lexemes h
  have htoken : (Token.string points).holdsSurrogate = false := by
    simpa using List.any_eq_false.1 hs _ h
  have hnone : ∀ n ∈ points, ¬(0xd800 ≤ n ∧ n ≤ 0xdfff) := by
    simpa [Token.holdsSurrogate] using htoken
  exact toNat_textOf_iff.2 fun n hn => (hpoints n hn).resolve_right (hnone n hn)

/-- The halves of a pair have to be in one string. -/
example : holdsSurrogate "[\"\\ud800\", \"\\udc00\"]".toList = true ∧
    holdsSurrogate "[\"\\ud800\\udc00\"]".toList = false := by
  decide +kernel

/-! ## Readings -/

/-- The values in a container that is still open have unique keys. -/
def Enclosing.UniqueKeys : Enclosing → Prop
  | array items => ∀ v ∈ items, v.UniqueKeys
  | object members | member members _ => ∀ m ∈ members, m.2.UniqueKeys

/-- The values that a reader holds while it waits have unique keys. -/
def Expecting.UniqueKeys : Expecting → Prop
  | keyOrClose members | key members | colon members _ => ∀ m ∈ members, m.2.UniqueKeys
  | nothing v => v.UniqueKeys
  | _ => True

/-- **All values that a reader holds on to have unique keys.** -/
structure Unfinished (reading : Expecting × List Enclosing) : Prop where
  expecting : reading.1.UniqueKeys
  stack : ∀ e ∈ reading.2, e.UniqueKeys

namespace Unfinished

variable {v : Json} {stack : List Enclosing} {l : Lexeme} {reading : Expecting × List Enclosing}

theorem afterValue (hv : v.UniqueKeys) (hs : ∀ e ∈ stack, e.UniqueKeys) :
    Unfinished (JsonSchema.afterValue v stack) := by
  cases stack with
  | nil => exact ⟨hv, hs⟩
  | cons e outer =>
    obtain ⟨he, ho⟩ := List.forall_mem_cons.1 hs
    cases e with
    | array items => exact ⟨trivial, List.forall_mem_cons.2 ⟨List.forall_mem_cons.2 ⟨hv, he⟩, ho⟩⟩
    | object members => exact ⟨trivial, hs⟩
    | member members key =>
      exact ⟨trivial, List.forall_mem_cons.2 ⟨List.forall_mem_cons.2 ⟨hv, he⟩, ho⟩⟩

theorem takeValue {mayClose : Bool} (hl : l.token.WellFormed) (hs : ∀ e ∈ stack, e.UniqueKeys)
    (h : JsonSchema.takeValue mayClose l stack = .ok reading) : Unfinished reading := by
  unfold JsonSchema.takeValue at h
  split at h <;> cases h
  · next v ht =>
    rw [ht] at hl
    exact afterValue hl hs
  · exact afterValue trivial hs
  · exact ⟨trivial, List.forall_mem_cons.2 ⟨List.forall_mem_nil _, hs⟩⟩
  · exact ⟨List.forall_mem_nil _, hs⟩
  · exact afterValue trivial (List.forall_mem_cons.1 hs).2

theorem takeKey {mayClose : Bool} {members : Members} (hm : ∀ m ∈ members, m.2.UniqueKeys)
    (hs : ∀ e ∈ stack, e.UniqueKeys)
    (h : JsonSchema.takeKey mayClose members l stack = .ok reading) : Unfinished reading := by
  unfold JsonSchema.takeKey at h
  split at h <;> cases h
  · exact ⟨hm, hs⟩
  · exact afterValue ⟨List.nodup_nil, trivial⟩ hs

theorem takeDelimiter (hs : ∀ e ∈ stack, e.UniqueKeys)
    (h : JsonSchema.takeDelimiter l stack = .ok reading) : Unfinished reading := by
  unfold JsonSchema.takeDelimiter at h
  split at h
  · next items outer =>
    obtain ⟨he, ho⟩ := List.forall_mem_cons.1 hs
    split at h <;> cases h
    · exact ⟨trivial, hs⟩
    · refine afterValue (Json.uniqueKeysItems_iff.2 ?_) ho
      intro v hv
      exact he v (List.mem_reverse.1 hv)
  · next members outer =>
    obtain ⟨he, ho⟩ := List.forall_mem_cons.1 hs
    split at h <;> cases h
    · exact ⟨he, ho⟩
    · exact afterValue (Members.uniqueKeys_ofReversed he) ho
  · cases h

/-- **One token leaves only values with unique keys.** -/
theorem takeToken {expecting : Expecting} (hr : Unfinished (expecting, stack))
    (hl : l.token.WellFormed) (h : JsonSchema.takeToken l expecting stack = .ok reading) :
    Unfinished reading := by
  obtain ⟨he, hs⟩ := hr
  cases expecting with
  | value | valueOrClose => exact takeValue hl hs h
  | keyOrClose members | key members => exact takeKey he hs h
  | colon members key =>
    simp only [JsonSchema.takeToken] at h
    split at h <;> cases h
    exact ⟨trivial, List.forall_mem_cons.2 ⟨he, hs⟩⟩
  | commaOrClose => exact takeDelimiter hs h
  | nothing v => cases h

/-- The value of all tokens has unique keys. -/
theorem takeAll {stop : ℕ} {tokens : List Lexeme} {expecting : Expecting}
    (hr : Unfinished (expecting, stack)) (hl : ∀ l ∈ tokens, l.token.WellFormed)
    (h : JsonSchema.takeAll stop tokens expecting stack = .ok v) : v.UniqueKeys := by
  induction tokens generalizing expecting stack with
  | nil =>
    cases expecting with
    | nothing w =>
      cases h
      exact hr.expecting
    | _ => cases h
  | cons l tokens ih =>
    obtain ⟨hfirst, hrest⟩ := List.forall_mem_cons.1 hl
    rw [JsonSchema.takeAll] at h
    split at h
    · next expecting' stack' ht => exact ih (hr.takeToken hfirst ht) hrest h
    · cases h

end Unfinished

/-- **A value that is read has unique keys.** -/
theorem Json.uniqueKeys_of_read {text : List Char} {v : Json} (h : Json.read text = .ok v) :
    v.UniqueKeys := by
  have hstart : Unfinished (.value, []) := ⟨trivial, List.forall_mem_nil _⟩
  unfold Json.read at h
  split at h
  · cases h
  · exact hstart.takeAll (fun l hl => wellFormed_of_mem_lexemes hl) h

end JsonSchema
