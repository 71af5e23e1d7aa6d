import HouseRules.Diff.Quoted
import HouseRules.Proofs.Text.Search
import Mathlib.Data.List.Basic

/-! # Quoted names

Between quotes a byte can be written in several ways (`Spells`), and each byte of a name in any of
them (`IsQuotingOf`). Reading undoes every such writing (`unquote_of_isQuotingOf`): escapes are
resolved from the left, and behind each of them the reader stands at the next byte of the name.

A name with a control byte, a delete byte, a quote or a backslash is written between quotes, each
such byte as an escape (`writeName`). With one outside ASCII it may be written so as well, and these
bytes as octal numbers (`writeAsciiName`). All other names are written as they are. Both writings
are read as the name (`unquote_writeName`, `unquote_writeAsciiName`). -/

namespace HouseRules.Diff

/-- A byte that is not written as it is. -/
def isSpecial (x : UInt8) : Bool := x < 0x20 || x == 0x7F || x == quote || x == backslash

/-- The digit of the octal place `place` of a byte. -/
def octalDigit (x : UInt8) (place : Nat) : UInt8 := (0x30 + x.toNat / place % 8).toUInt8

/-- The control bytes that have a letter, with their letters. -/
def letters : List (UInt8 × UInt8) :=
  [(0x07, 0x61), (0x08, 0x62), (0x09, 0x74), (0x0A, 0x6E), (0x0B, 0x76), (0x0C, 0x66), (0x0D, 0x72)]

/-- A byte inside quotes. -/
def writeByte (x : UInt8) : Bytes :=
  if !isSpecial x then [x]
  else if x = quote ∨ x = backslash then [backslash, x]
  else match letters.find? (·.1 == x) with
    | some (_, letter) => [backslash, letter]
    | none => [backslash, octalDigit x 64, octalDigit x 8, octalDigit x 1]

/-- A name, between quotes if it holds a special byte. -/
def writeName (name : Bytes) : Bytes :=
  if name.any isSpecial then quote :: name.flatMap writeByte ++ [quote] else name

/-- A byte inside quotes, in ASCII. -/
def writeAsciiByte (x : UInt8) : Bytes :=
  if 0x80 ≤ x then [backslash, octalDigit x 64, octalDigit x 8, octalDigit x 1] else writeByte x

/-- A name in ASCII, between quotes if it holds a special byte or one that is not ASCII. -/
def writeAsciiName (name : Bytes) : Bytes :=
  if name.any (fun x => isSpecial x || 0x80 ≤ x) then
    quote :: name.flatMap writeAsciiByte ++ [quote]
  else name

/-- The ways to write a byte between quotes. -/
inductive Spells (x : UInt8) : Bytes → Prop where
  /-- The byte itself, unless it is a quote, a backslash or a line feed. -/
  | itself (hq : x ≠ quote) (hb : x ≠ backslash) (hn : x ≠ Bytes.newline) : Spells x [x]
  /-- The letter of a control byte, behind a backslash. -/
  | letter {l : UInt8} (h : (x, l) ∈ letters) : Spells x [backslash, l]
  /-- A quote or a backslash, behind a backslash. -/
  | mark (h : x = quote ∨ x = backslash) : Spells x [backslash, x]
  /-- Three octal digits, behind a backslash. -/
  | digits : Spells x [backslash, octalDigit x 64, octalDigit x 8, octalDigit x 1]

/-- The ways to write a byte string between quotes, byte by byte. -/
inductive SpellsAll : Bytes → Bytes → Prop where
  /-- Nothing is written as nothing. -/
  | nil : SpellsAll [] []
  /-- The first byte is written in some way, then the others. -/
  | cons {x : UInt8} {part name text : Bytes} (h : Spells x part) (r : SpellsAll name text) :
      SpellsAll (x :: name) (part ++ text)

/-- The byte string is a name between quotes, each byte written in some way. -/
def IsQuotingOf (name raw : Bytes) : Prop :=
  ∃ text, SpellsAll name text ∧ raw = quote :: (text ++ [quote])

/-! ### Reading escapes -/

theorem unescape_cons_of_ne {x : UInt8} (h : x ≠ backslash) (r : Bytes) :
    unescape (x :: r) = (x :: ·) <$> unescape r := by
  rcases r with _ | ⟨y, _ | ⟨z, _ | ⟨w, r⟩⟩⟩ <;> simp [unescape, h]

/-- A backslash and a byte that is neither an octal digit nor a line feed. -/
theorem unescape_escape {y : UInt8} (hd : Bytes.isOctalDigit y = false) (hn : y ≠ Bytes.newline)
    (r : Bytes) : unescape (backslash :: y :: r) = (escaped y :: ·) <$> unescape r := by
  rcases r with _ | ⟨z, _ | ⟨w, r⟩⟩ <;> simp [unescape, hd, hn]

/-- A backslash and three octal digits. -/
theorem unescape_octal {a b c x : UInt8} (ha : Bytes.isOctalDigit a = true)
    (hb : Bytes.isOctalDigit b = true) (hc : Bytes.isOctalDigit c = true)
    (hx : octal a b c = .ok x) (r : Bytes) :
    unescape (backslash :: a :: b :: c :: r) = (x :: ·) <$> unescape r := by
  simp only [unescape, ha, hb, hc, hx, if_true, Bool.and_self]
  rfl

theorem isOctalDigit_octalDigit (x : UInt8) (place : Nat) :
    Bytes.isOctalDigit (octalDigit x place) = true := by
  have h : (octalDigit x place).toNat = 0x30 + x.toNat / place % 8 := by
    rw [octalDigit, Nat.toUInt8, UInt8.toNat_ofNat']
    omega
  simp only [Bytes.isOctalDigit, Bool.and_eq_true, decide_eq_true_eq, UInt8.le_iff_toNat_le, h,
    UInt8.reduceToNat]
  omega

theorem octal_octalDigit (x : UInt8) :
    octal (octalDigit x 64) (octalDigit x 8) (octalDigit x 1) = .ok x := by
  have hd : ∀ place, (octalDigit x place).toNat - 0x30 = x.toNat / place % 8 := by
    intro place
    rw [octalDigit, Nat.toUInt8, UInt8.toNat_ofNat']
    omega
  have hx : x.toNat < 256 := x.toNat_lt
  have hn : Bytes.number 8 [octalDigit x 64, octalDigit x 8, octalDigit x 1] = x.toNat := by
    simp only [Bytes.number, List.foldl_cons, List.foldl_nil, hd]
    omega
  rw [octal, hn, if_pos hx]
  exact congrArg Except.ok (UInt8.ofNat_toNat)

/-- **The four ways to write a byte.** -/
theorem writeByte_cases (x : UInt8) :
    (isSpecial x = false ∧ writeByte x = [x]) ∨
    ((x = quote ∨ x = backslash) ∧ writeByte x = [backslash, x]) ∨
    (∃ letter, (x, letter) ∈ letters ∧ writeByte x = [backslash, letter]) ∨
    writeByte x = [backslash, octalDigit x 64, octalDigit x 8, octalDigit x 1] := by
  unfold writeByte
  by_cases hs : isSpecial x = true
  · rw [if_neg (by simp [hs])]
    by_cases hq : x = quote ∨ x = backslash
    · rw [if_pos hq]
      exact Or.inr (Or.inl ⟨hq, rfl⟩)
    · rw [if_neg hq]
      cases hl : letters.find? (·.1 == x) with
      | none => exact Or.inr (Or.inr (Or.inr rfl))
      | some q =>
        obtain ⟨y, letter⟩ := q
        have hy : y = x := by simpa using List.find?_some hl
        subst hy
        exact Or.inr (Or.inr (Or.inl ⟨letter, List.mem_of_find?_eq_some hl, rfl⟩))
  · rw [Bool.not_eq_true] at hs
    rw [if_pos (by simp [hs])]
    exact Or.inl ⟨hs, rfl⟩

/-- A letter is no octal digit, it is read as its control byte, and it is printable. -/
theorem letters_spec : ∀ q ∈ letters, Bytes.isOctalDigit q.2 = false ∧ q.2 ≠ Bytes.newline ∧
    escaped q.2 = q.1 ∧ 0x20 < q.2 := by
  have h : (letters.all fun q => !Bytes.isOctalDigit q.2 && (q.2 ≠ Bytes.newline &&
      (escaped q.2 = q.1 && 0x20 < q.2))) = true := by decide
  simpa only [List.all_eq_true, Bool.and_eq_true, Bool.not_eq_true', decide_eq_true_eq] using h

/-! ### Reading what is written -/

/-- **Behind a written byte the reader stands at the next one**, in whatever way it is written and
whatever follows: a letter or a mark is no octal digit, and of octal digits three are read. -/
theorem unescape_spells {x : UInt8} {part : Bytes} (h : Spells x part) (r : Bytes) :
    unescape (part ++ r) = (x :: ·) <$> unescape r := by
  cases h with
  | itself hq hb hn => exact unescape_cons_of_ne hb r
  | @letter l h =>
    obtain ⟨hd, hn, he, -⟩ := letters_spec (x, l) h
    rw [List.cons_append, List.singleton_append, unescape_escape hd hn, he]
  | mark h =>
    rcases h with rfl | rfl
    · exact unescape_escape (by decide) (by decide) r
    · exact unescape_escape (by decide) (by decide) r
  | digits =>
    exact unescape_octal (isOctalDigit_octalDigit x 64) (isOctalDigit_octalDigit x 8)
      (isOctalDigit_octalDigit x 1) (octal_octalDigit x) r

theorem unescape_spellsAll {name text : Bytes} (h : SpellsAll name text) :
    unescape text = .ok name := by
  induction h with
  | nil => rw [unescape]
  | cons h _ ih =>
    rw [unescape_spells h, ih]
    rfl

theorem isQuoted_quoted (text : Bytes) : isQuoted (quote :: (text ++ [quote])) = true := by
  have hl : (quote :: (text ++ [quote])).getLast? = some quote :=
    List.getLast?_concat (l := quote :: text)
  rw [isQuoted, hl]
  simp

/-- **Reading undoes every quoting.** -/
theorem unquote_of_isQuotingOf {name raw : Bytes} (h : IsQuotingOf name raw) :
    unquote raw = .ok name := by
  obtain ⟨text, htext, rfl⟩ := h
  rw [unquote, if_pos (isQuoted_quoted text), List.drop_one, List.tail_cons, List.dropLast_concat]
  exact unescape_spellsAll htext

/-- A byte string that lacks one of the quotes is read as it is. -/
theorem unquote_of_not_quoted {raw : Bytes}
    (h : ¬ (raw.head? = some quote ∧ raw.getLast? = some quote)) : unquote raw = .ok raw := by
  have hq : ¬ isQuoted raw = true := by
    rw [isQuoted, Bool.and_eq_true, Bool.and_eq_true, beq_iff_eq, beq_iff_eq]
    exact fun hc => h ⟨hc.1.2, hc.2⟩
  rw [unquote, if_neg hq]

theorem spellsAll_flatMap {write : UInt8 → Bytes} (hw : ∀ x, Spells x (write x)) :
    ∀ name : Bytes, SpellsAll name (name.flatMap write)
  | [] => .nil
  | x :: name => by
    rw [List.flatMap_cons]
    exact .cons (hw x) (spellsAll_flatMap hw name)

/-- **Reading a written name gives the name**, whichever bytes call for quotes and however bytes are
written between them, so long as a quote calls for quotes. -/
theorem unquote_written {special : UInt8 → Bool} {write : UInt8 → Bytes}
    (hs : special quote = true) (hw : ∀ x, Spells x (write x)) (name : Bytes) :
    unquote (if name.any special then quote :: name.flatMap write ++ [quote] else name) =
      .ok name := by
  split_ifs with hany
  · exact unquote_of_isQuotingOf ⟨_, spellsAll_flatMap hw name, rfl⟩
  · refine unquote_of_not_quoted fun hc => hany ?_
    exact List.any_eq_true.mpr ⟨quote, List.mem_of_mem_head? hc.1, hs⟩

theorem spells_writeByte (x : UInt8) : Spells x (writeByte x) := by
  rcases writeByte_cases x with ⟨hs, hw⟩ | ⟨hq, hw⟩ | ⟨letter, hl, hw⟩ | hw
  · have hne : ∀ y, isSpecial y = true → x ≠ y := by
      rintro y hy rfl
      rw [hs] at hy
      cases hy
    rw [hw]
    exact .itself (hne _ (by decide)) (hne _ (by decide)) (hne _ (by decide))
  · rw [hw]
    exact .mark hq
  · rw [hw]
    exact .letter hl
  · rw [hw]
    exact .digits

theorem spells_writeAsciiByte (x : UInt8) : Spells x (writeAsciiByte x) := by
  unfold writeAsciiByte
  split_ifs
  · exact .digits
  · exact spells_writeByte x

theorem unquote_writeName (name : Bytes) : unquote (writeName name) = .ok name :=
  unquote_written (by decide) spells_writeByte name

theorem unquote_writeAsciiName (name : Bytes) : unquote (writeAsciiName name) = .ok name :=
  unquote_written (by decide) spells_writeAsciiByte name

/-- **Quoting does not change a path.** A name between quotes is read as the name, in whatever way
each of its bytes is written, and a byte string that does not start and end with quotes is read as
it is. So it does not matter whether bytes outside ASCII are escaped. -/
theorem unquote_quotings :
    (∀ name raw : Bytes, IsQuotingOf name raw → unquote raw = .ok name) ∧
    (∀ raw : Bytes, ¬ (raw.head? = some quote ∧ raw.getLast? = some quote) →
      unquote raw = .ok raw) ∧
    ∀ name : Bytes, unquote (writeName name) = .ok name ∧
      unquote (writeAsciiName name) = .ok name :=
  ⟨fun _ _ => unquote_of_isQuotingOf, fun _ => unquote_of_not_quoted,
    fun name => ⟨unquote_writeName name, unquote_writeAsciiName name⟩⟩

/-- A backslash stands before digits that are no number, a line feed has its letter, and a quote
its number before one more digit; without the last quote nothing is changed. -/
theorem unquote_quotings_digits :
    IsQuotingOf (Bytes.ofAscii "\\101\n\"7") (Bytes.ofAscii "\"\\\\101\\n\\0427\"") ∧
    unquote (Bytes.ofAscii "\"\\\\101\\n\\0427\"") = .ok (Bytes.ofAscii "\\101\n\"7") ∧
    (Bytes.ofAscii "\"\\101").getLast? ≠ some quote ∧
    unquote (Bytes.ofAscii "\"\\101") = .ok (Bytes.ofAscii "\"\\101") := by
  have hitself : ∀ x : UInt8, x ∈ Bytes.ofAscii "017" → Spells x [x] := by
    intro x hx
    refine .itself ?_ ?_ ?_ <;> rintro rfl <;> exact absurd hx (by decide)
  have hquoting :
      IsQuotingOf (Bytes.ofAscii "\\101\n\"7") (Bytes.ofAscii "\"\\\\101\\n\\0427\"") :=
    ⟨_, .cons (.mark (by decide)) <| .cons (hitself _ (by decide)) <|
      .cons (hitself _ (by decide)) <| .cons (hitself _ (by decide)) <|
      .cons (.letter (l := 0x6E) (by decide)) <| .cons .digits <|
      .cons (hitself _ (by decide)) .nil, by decide⟩
  have hopen : (Bytes.ofAscii "\"\\101").getLast? ≠ some quote := by decide
  exact ⟨hquoting, unquote_quotings.1 _ _ hquoting, hopen,
    unquote_quotings.2.1 _ fun h => hopen h.2⟩

/-! ### Bytes of a written name -/

theorem lt_octalDigit (x : UInt8) (place : Nat) : 0x20 < octalDigit x place := by
  have h := isOctalDigit_octalDigit x place
  simp only [Bytes.isOctalDigit, Bool.and_eq_true, decide_eq_true_eq, UInt8.le_iff_toNat_le,
    UInt8.reduceToNat] at h
  simp only [UInt8.lt_iff_toNat_lt, UInt8.reduceToNat]
  omega

/-- A byte is written as it is, or by a backslash and printable bytes. -/
theorem writeByte_printable (x : UInt8) :
    (isSpecial x = false ∧ writeByte x = [x]) ∨
      ∃ t, writeByte x = backslash :: t ∧ ∀ y ∈ t, 0x20 < y := by
  rcases writeByte_cases x with h | ⟨hq, hw⟩ | ⟨letter, hl, hw⟩ | hw
  · exact Or.inl h
  · refine Or.inr ⟨_, hw, ?_⟩
    rcases hq with rfl | rfl <;> decide +kernel
  · refine Or.inr ⟨_, hw, fun y hy => ?_⟩
    rw [List.mem_singleton.mp hy]
    exact (letters_spec (x, letter) hl).2.2.2
  · refine Or.inr ⟨_, hw, fun y hy => ?_⟩
    simp only [List.mem_cons, List.not_mem_nil, or_false] at hy
    rcases hy with rfl | rfl | rfl <;> exact lt_octalDigit x _

theorem newline_not_mem_writeByte (x : UInt8) : Bytes.newline ∉ writeByte x := by
  rcases writeByte_printable x with ⟨hs, hw⟩ | ⟨t, hw, ht⟩
  · rw [hw, List.mem_singleton]
    rintro rfl
    exact absurd hs (by decide)
  · rw [hw, List.mem_cons, not_or]
    exact ⟨by decide, fun hm => absurd (ht _ hm) (by decide)⟩

theorem newline_not_mem_writeName (name : Bytes) : Bytes.newline ∉ writeName name := by
  unfold writeName
  split_ifs with h
  · intro hm
    have hm' : Bytes.newline ∈ name.flatMap writeByte := by
      have hq : Bytes.newline ≠ quote := by decide
      simpa [hq] using hm
    obtain ⟨x, -, hx⟩ := List.mem_flatMap.mp hm'
    exact newline_not_mem_writeByte x hx
  · intro hm
    exact h (List.any_eq_true.mpr ⟨Bytes.newline, hm, by decide⟩)

/-- A written byte does not start with a quote. -/
theorem head?_writeByte (x : UInt8) : (writeByte x).head? ≠ some quote := by
  rcases writeByte_printable x with ⟨hs, hw⟩ | ⟨t, hw, -⟩
  · rw [hw, List.head?_cons, Ne, Option.some.injEq]
    rintro rfl
    exact absurd hs (by decide)
  · rw [hw, List.head?_cons, Ne, Option.some.injEq]
    decide

theorem occurs_append_of_not_mem {x : UInt8} {word t r : Bytes} (hx : x ∉ t)
    (h : Search.occurs (x :: word) r = false) : Search.occurs (x :: word) (t ++ r) = false := by
  induction t with
  | nil => exact h
  | cons y t ih =>
    rw [List.mem_cons, not_or] at hx
    have hp : (x :: word).isPrefixOf (y :: (t ++ r)) = false := by simp [List.isPrefixOf, hx.1]
    rw [List.cons_append, Search.occurs, hp, ih hx.2]
    rfl

/-- Inside a quoted name no blank is followed by a quote and more: the quotes of the name are
escaped, and its last one ends it. -/
theorem occurs_blank_quote {word : Bytes} (hw : word ≠ []) : ∀ name : Bytes,
    Search.occurs (0x20 :: quote :: word) (name.flatMap writeByte ++ [quote]) = false
  | [] => by
    obtain ⟨y, ys, rfl⟩ := List.exists_cons_of_ne_nil hw
    rfl
  | x :: name => by
    have ih := occurs_blank_quote hw name
    rw [List.flatMap_cons, List.append_assoc]
    rcases writeByte_printable x with ⟨hs, hx⟩ | ⟨t, hx, ht⟩
    · rw [hx, List.singleton_append, Search.occurs, ih, Bool.or_false]
      cases name with
      | nil =>
        obtain ⟨y, ys, rfl⟩ := List.exists_cons_of_ne_nil hw
        simp [List.isPrefixOf]
      | cons z name =>
        have hz := head?_writeByte z
        rw [List.flatMap_cons, List.append_assoc]
        rcases hzw : writeByte z with _ | ⟨a, t⟩
        · rcases writeByte_printable z with ⟨-, h⟩ | ⟨_, h, -⟩ <;> rw [hzw] at h <;> cases h
        · rw [hzw, List.head?_cons, Ne, Option.some.injEq] at hz
          simp [List.isPrefixOf, Ne.symm hz]
    · refine occurs_append_of_not_mem ?_ ih
      rw [hx, List.mem_cons, not_or]
      exact ⟨by decide, fun hm => absurd (ht _ hm) (by decide)⟩

end HouseRules.Diff
