import HouseRules.Json.Quoted
import Mathlib.Data.List.Basic

/-! # Reading JSON

A reader for JSON texts (`parse`), and what it reads back: literals (`readText_literalChars`), lists
and objects whose parts are read back (`Reads.array`, `Reads.object`). Reading goes by steps, of
which a text needs at most as many as it has characters; `Reads` leaves open how many are taken. -/

namespace HouseRules.Json

/-- A JSON value. A number is kept as it is written. -/
inductive Value where
  /-- Nothing. -/
  | null
  /-- A truth value. -/
  | bool (b : Bool)
  /-- A number. -/
  | number (written : String)
  /-- A text. -/
  | string (s : String)
  /-- A list. -/
  | array (vs : List Value)
  /-- An object with its members in their order. -/
  | object (members : List (String × Value))

/-! ### Literals -/

/-- The value of a hexadecimal digit. -/
def hexValue? (c : Char) : Option Nat :=
  if '0' ≤ c ∧ c ≤ '9' then some (c.toNat - '0'.toNat)
  else if 'a' ≤ c ∧ c ≤ 'f' then some (c.toNat - 'a'.toNat + 10)
  else if 'A' ≤ c ∧ c ≤ 'F' then some (c.toNat - 'A'.toNat + 10)
  else none

/-- The unit of 16 bits that four digits write. -/
def unit? (a b c d : Char) : Option Nat := do
  return (((← hexValue? a) * 16 + (← hexValue? b)) * 16 + (← hexValue? c)) * 16 + (← hexValue? d)

/-- The character that a short escape stands for. -/
def escaped? : Char → Option Char
  | '"' => some '"'
  | '\\' => some '\\'
  | '/' => some '/'
  | 'b' => some '\x08'
  | 'f' => some '\x0c'
  | 'n' => some '\n'
  | 'r' => some '\r'
  | 't' => some '\t'
  | _ => none

/-- Puts a character in front of a text that was read. -/
def consText (c : Char) (p : List Char × List Char) : List Char × List Char := (c :: p.1, p.2)

/-- Reads a text up to its closing quote. A unit of the upper half of the surrogates must be
followed by one of the lower half, which must not stand alone. -/
def readText : List Char → Option (List Char × List Char)
  | [] => none
  | '"' :: r => some ([], r)
  | '\\' :: 'u' :: a :: b :: c :: d :: r => do
    let n ← unit? a b c d
    if n < 0xD800 ∨ 0xDFFF < n then consText (Char.ofNat n) <$> readText r
    else if n < 0xDC00 then
      match r with
      | '\\' :: 'u' :: a' :: b' :: c' :: d' :: r' => do
        let m ← unit? a' b' c' d'
        if 0xDC00 ≤ m ∧ m ≤ 0xDFFF then
          consText (Char.ofNat (0x10000 + (n - 0xD800) * 0x400 + (m - 0xDC00))) <$> readText r'
        else none
      | _ => none
    else none
  | '\\' :: e :: r => do
    let c ← escaped? e
    consText c <$> readText r
  | c :: r => if c = '\\' ∨ c.toNat < 0x20 then none else consText c <$> readText r

/-! ### Numbers -/

/-- The exponent of a number, which may be missing. -/
def isExponent : List Char → Bool
  | [] => true
  | e :: r =>
    let digits := match r with
      | '+' :: r => r
      | '-' :: r => r
      | r => r
    (e = 'e' || e = 'E') && !digits.isEmpty && digits.all Char.isDigit

/-- The fraction of a number, which may be missing, and its exponent. -/
def isFraction : List Char → Bool
  | '.' :: r => !(r.takeWhile Char.isDigit).isEmpty && isExponent (r.dropWhile Char.isDigit)
  | r => isExponent r

/-- A number without its sign. -/
def isUnsigned : List Char → Bool
  | '0' :: r => isFraction r
  | c :: r => c.isDigit && isFraction (r.dropWhile Char.isDigit)
  | [] => false

/-- The characters write a number. -/
def isNumber : List Char → Bool
  | '-' :: r => isUnsigned r
  | r => isUnsigned r

/-- Reads a number. -/
def readNumber (cs : List Char) : Option (Value × List Char) :=
  let isPart (c : Char) : Bool := c.isDigit || "+-.eE".toList.contains c
  let written := cs.takeWhile isPart
  if isNumber written then some (.number (String.ofList written), cs.dropWhile isPart) else none

/-! ### Values -/

/-- White space between values. -/
def isSpace (c : Char) : Bool := c = ' ' || c = '\n' || c = '\r' || c = '\t'

/-- The text behind the white space at its head. -/
def skip (cs : List Char) : List Char := cs.dropWhile isSpace

mutual

/-- Reads a value in at most `n` steps. -/
def readValue : (n : Nat) → List Char → Option (Value × List Char)
  | 0, _ => none
  | n + 1, cs =>
    match skip cs with
    | '"' :: r => (readText r).map fun p => (.string (String.ofList p.1), p.2)
    | '[' :: r =>
      match skip r with
      | ']' :: r => some (.array [], r)
      | _ => (readItems n r).map fun p => (.array p.1, p.2)
    | '\x7b' :: r =>
      match skip r with
      | '\x7d' :: r => some (.object [], r)
      | _ => (readMembers n r).map fun p => (.object p.1, p.2)
    | 'n' :: 'u' :: 'l' :: 'l' :: r => some (.null, r)
    | 't' :: 'r' :: 'u' :: 'e' :: r => some (.bool true, r)
    | 'f' :: 'a' :: 'l' :: 's' :: 'e' :: r => some (.bool false, r)
    | r => readNumber r

/-- Reads the values of a list, at least one, up to its closing bracket. -/
def readItems : (n : Nat) → List Char → Option (List Value × List Char)
  | 0, _ => none
  | n + 1, cs => do
    let (v, r) ← readValue n cs
    match skip r with
    | ',' :: r =>
      let (vs, r) ← readItems n r
      return (v :: vs, r)
    | ']' :: r => return ([v], r)
    | _ => none

/-- Reads the members of an object, at least one, up to its closing brace. -/
def readMembers : (n : Nat) → List Char → Option (List (String × Value) × List Char)
  | 0, _ => none
  | n + 1, cs => do
    match skip cs with
    | '"' :: r =>
      let (key, r) ← readText r
      match skip r with
      | ':' :: r =>
        let (v, r) ← readValue n r
        match skip r with
        | ',' :: r =>
          let (ms, r) ← readMembers n r
          return ((String.ofList key, v) :: ms, r)
        | '\x7d' :: r => return ([(String.ofList key, v)], r)
        | _ => none
      | _ => none
    | _ => none

end

/-- The value that a whole text writes. -/
def parse (s : String) : Option Value :=
  match readValue (s.toList.length + 1) s.toList with
  | some (v, r) => if skip r = [] then some v else none
  | none => none

/-! ### Literals are read back -/

theorem hexValue?_digitChar : ∀ d < 16, hexValue? (Nat.digitChar d) = some d := by decide

theorem hexDigits_eq (width n : Nat) : Text.hexDigits width n =
    List.replicate (width - (Nat.toDigits 16 n).length) '0' ++ Nat.toDigits 16 n := rfl

theorem hexDigits_succ {k : Nat} (hk : 0 < k) (n : Nat) :
    Text.hexDigits (k + 1) n = Text.hexDigits k (n / 16) ++ [Nat.digitChar (n % 16)] := by
  rw [hexDigits_eq, hexDigits_eq, Nat.toDigits_eq_if (by decide)]
  by_cases hn : n < 16
  · have hzero : n / 16 = 0 := Nat.div_eq_of_lt hn
    have hpad : List.replicate k '0' = List.replicate (k - 1) '0' ++ ['0'] := by
      rw [← List.replicate_succ', Nat.sub_add_cancel hk]
    rw [if_pos hn, hzero, Nat.mod_eq_of_lt hn, Nat.toDigits_zero, List.length_singleton,
      List.length_singleton, Nat.add_sub_cancel, hpad]
  · rw [if_neg hn, List.length_append, List.length_singleton, Nat.add_sub_add_right,
      List.append_assoc]

/-- The digits of a unit of 16 bits. -/
theorem hexDigits_four {n : Nat} (h : n < 0x10000) : Text.hexDigits 4 n =
    [Nat.digitChar (n / 16 / 16 / 16), Nat.digitChar (n / 16 / 16 % 16),
      Nat.digitChar (n / 16 % 16), Nat.digitChar (n % 16)] := by
  have hone : ∀ d < 16, Text.hexDigits 1 d = [Nat.digitChar d] := by
    intro d hd
    rw [hexDigits_eq, Nat.toDigits_of_lt_base hd]
    rfl
  rw [hexDigits_succ (by decide), hexDigits_succ (by decide), hexDigits_succ (by decide),
    hone (n / 16 / 16 / 16) (by omega)]
  rfl

/-- Four digits write a unit of 16 bits. -/
theorem exists_hexDigits {n : Nat} (h : n < 0x10000) :
    ∃ a b c d, Text.hexDigits 4 n = [a, b, c, d] ∧ unit? a b c d = some n := by
  refine ⟨_, _, _, _, hexDigits_four h, ?_⟩
  simp only [unit?, hexValue?_digitChar (n / 16 / 16 / 16) (by omega),
    hexValue?_digitChar (n / 16 / 16 % 16) (by omega), hexValue?_digitChar (n / 16 % 16) (by omega),
    hexValue?_digitChar (n % 16) (by omega)]
  refine congrArg some ?_
  omega

theorem readText_unitEscape {n : Nat} (h : n < 0xD800 ∨ 0xDFFF < n) (hn : n < 0x10000)
    (r : List Char) : readText (unitEscape n ++ r) = consText (Char.ofNat n) <$> readText r := by
  obtain ⟨a, b, c, d, hdigits, hunit⟩ := exists_hexDigits hn
  simp only [unitEscape, hdigits, List.cons_append, List.nil_append, readText, hunit]
  exact if_pos h

/-- A pair of surrogates is read as one character. -/
theorem readText_surrogates {high low : Nat} (h₁ : 0xD800 ≤ high) (h₂ : high < 0xDC00)
    (h₃ : 0xDC00 ≤ low) (h₄ : low ≤ 0xDFFF) (r : List Char) :
    readText (unitEscape high ++ (unitEscape low ++ r)) =
      consText (Char.ofNat (0x10000 + (high - 0xD800) * 0x400 + (low - 0xDC00))) <$>
        readText r := by
  obtain ⟨a, b, c, d, hhigh, hunit⟩ := exists_hexDigits (n := high) (by omega)
  obtain ⟨a', b', c', d', hlow, hunit'⟩ := exists_hexDigits (n := low) (by omega)
  simp only [unitEscape, hhigh, hlow, List.cons_append, List.nil_append, readText, hunit, hunit',
    Option.bind_eq_bind, Option.bind_some]
  rw [if_neg (by omega), if_pos h₂, if_pos ⟨h₃, h₄⟩]

theorem readText_codeEscape (c : Char) (r : List Char) :
    readText (codeEscape c.toNat ++ r) = consText c <$> readText r := by
  have hof : Char.ofNat c.toNat = c := Char.ofNat_toNat c
  have hvalid : c.toNat < 0xD800 ∨ 0xDFFF < c.toNat ∧ c.toNat < 0x110000 := c.valid
  unfold codeEscape
  split_ifs with h
  · rw [readText_unitEscape (by omega) h, hof]
  · have hcode : 0x10000 + (0xD800 + (c.toNat - 0x10000) / 0x400 - 0xD800) * 0x400 +
        (0xDC00 + (c.toNat - 0x10000) % 0x400 - 0xDC00) = c.toNat := by omega
    rw [List.append_assoc, readText_surrogates (by omega) (by omega) (by omega) (by omega), hcode,
      hof]

/-- A character of a literal is read back. -/
theorem readText_literalChar (charset : Charset) (c : Char) (r : List Char) :
    readText (literalChar charset c ++ r) = consText c <$> readText r := by
  have hof : Char.ofNat c.toNat = c := Char.ofNat_toNat c
  unfold literalChar
  split_ifs with h₁ h₂ h₃ h₄ h₅ h₆ h₇ h₈ h₉
  · subst h₁
    rfl
  · subst h₂
    rfl
  · subst h₃
    rfl
  · subst h₄
    rfl
  · subst h₅
    rfl
  · have hc : c = '\x08' := by rw [← hof, h₆]
    subst hc
    rfl
  · have hc : c = '\x0c' := by rw [← hof, h₇]
    subst hc
    rfl
  · rw [readText_unitEscape (by omega) (by omega), hof]
  · exact readText_codeEscape c r
  · have hplain : ¬ (c = '\\' ∨ c.toNat < 0x20) := by
      rintro (h | h)
      · exact h₂ h
      · exact h₈ h
    rw [List.singleton_append, readText, if_neg hplain]
    · exact h₁
    · exact fun a b c' d r' hc => absurd hc h₂
    · exact fun e r' hc => absurd hc h₂

/-- **A literal is read back.** -/
theorem readText_literalChars (charset : Charset) (cs r : List Char) :
    readText (cs.flatMap (literalChar charset) ++ '"' :: r) = some (cs, r) := by
  induction cs with
  | nil => rfl
  | cons c cs ih =>
    rw [List.flatMap_cons, List.append_assoc, readText_literalChar, ih]
    rfl

/-! ### Values are read back -/

theorem intercalate_cons (sep x : List Char) (l : List (List Char)) :
    sep.intercalate (x :: l) = x ++ l.flatMap (sep ++ ·) := by
  induction l generalizing x with
  | nil => simp
  | cons y l ih =>
    simp only [List.intercalate_cons_cons, ih y, List.flatMap_cons, List.append_assoc]

/-- The text is read as the value, in `n` or more steps and whatever follows. -/
def Reads (n : Nat) (cs : List Char) (v : Value) : Prop :=
  ∀ m, n ≤ m → ∀ r, readValue m (cs ++ r) = some (v, r)

/-- The characters are white space. -/
def Blank (cs : List Char) : Prop := ∀ c ∈ cs, isSpace c = true

theorem blank_append {cs ds : List Char} : Blank (cs ++ ds) ↔ Blank cs ∧ Blank ds :=
  List.forall_mem_append

theorem blank_newline : Blank ['\n'] := by
  simp [Blank, isSpace]

variable {n : Nat} {cs gap : List Char} {v : Value}

theorem skip_append (h : Blank gap) (r : List Char) : skip (gap ++ r) = skip r :=
  List.dropWhile_append_of_pos h

theorem skip_cons_of_not_space {c : Char} (h : isSpace c = false) (r : List Char) :
    skip (c :: r) = c :: r :=
  List.dropWhile_cons_of_neg (by simp [h])

theorem readValue_append (h : Blank gap) (m : Nat) (r : List Char) :
    readValue m (gap ++ r) = readValue m r := by
  cases m with
  | zero => rfl
  | succ m => rw [readValue, readValue, skip_append h]

theorem readItems_append (h : Blank gap) (m : Nat) (r : List Char) :
    readItems m (gap ++ r) = readItems m r := by
  cases m with
  | zero => rfl
  | succ m => rw [readItems, readItems, readValue_append h]

theorem readMembers_append (h : Blank gap) (m : Nat) (r : List Char) :
    readMembers m (gap ++ r) = readMembers m r := by
  cases m with
  | zero => rfl
  | succ m => rw [readMembers, readMembers, skip_append h]

theorem Reads.mono (h : Reads n cs v) {n' : Nat} (hn : n ≤ n') : Reads n' cs v :=
  fun m hm r => h m (Nat.le_trans hn hm) r

theorem reads_literal (charset : Charset) (s : String) :
    Reads 1 (literalChars charset s.toList) (.string s) := by
  intro m hm r
  obtain ⟨k, rfl⟩ := Nat.exists_eq_add_of_le' hm
  have hcs : literalChars charset s.toList ++ r =
      '"' :: (s.toList.flatMap (literalChar charset) ++ '"' :: r) := by
    simp [literalChars]
  rw [hcs, readValue, skip_cons_of_not_space (by decide)]
  simp only [readText_literalChars, Option.map_some, String.ofList_toList]

theorem reads_null : Reads 1 "null".toList .null := by
  intro m hm r
  obtain ⟨k, rfl⟩ := Nat.exists_eq_add_of_le' hm
  rfl

/-- A text that is read as a value does not start with a closing bracket. -/
theorem Reads.skip_ne (h : Reads n cs v) (r r' : List Char) : skip (cs ++ r) ≠ ']' :: r' := by
  intro hskip
  have hread := h (n + 1) (Nat.le_succ n) r
  rw [readValue, hskip] at hread
  cases hread

/-- The items of a list are read back. -/
theorem readItems_intercalate (hgap : Blank gap) {tail r : List Char}
    (htail : skip tail = ']' :: r) :
    ∀ {parts : List (List Char × Value)}, parts ≠ [] → (∀ q ∈ parts, Reads n q.1 q.2) →
      ∀ m, n + parts.length ≤ m →
        readItems m ((',' :: gap).intercalate (parts.map (·.1)) ++ tail) =
          some (parts.map (·.2), r)
  | [], hne, _, _, _ => absurd rfl hne
  | [q], _, hparts, m, hm => by
    obtain ⟨k, rfl⟩ : ∃ k, m = k + 1 := ⟨m - 1, by simp at hm; omega⟩
    have hread := hparts q List.mem_cons_self k (by simp at hm; omega) tail
    simp only [List.map_cons, List.map_nil, List.intercalate_singleton]
    rw [readItems, hread]
    simp [htail]
  | q :: q' :: parts, _, hparts, m, hm => by
    obtain ⟨k, rfl⟩ : ∃ k, m = k + 1 := ⟨m - 1, by simp at hm; omega⟩
    have hread := hparts q List.mem_cons_self k (by simp at hm; omega)
    have hrest := readItems_intercalate hgap htail (List.cons_ne_nil q' parts)
      (fun p hp => hparts p (List.mem_cons_of_mem q hp)) k (by simp at hm ⊢; omega)
    have hcut : (',' :: gap).intercalate ((q :: q' :: parts).map (·.1)) ++ tail =
        q.1 ++ (',' :: (gap ++ ((',' :: gap).intercalate ((q' :: parts).map (·.1)) ++ tail))) := by
      simp [List.intercalate_cons_cons]
    rw [hcut, readItems, hread]
    simp only [Option.bind_eq_bind, Option.bind_some]
    rw [skip_cons_of_not_space (by decide)]
    simp only [readItems_append hgap, hrest]
    rfl

/-- **A list is read back** if its items are. -/
theorem Reads.array {parts : List (List Char × Value)} (hne : parts ≠ [])
    (hparts : ∀ q ∈ parts, Reads n q.1 q.2) (hgap : Blank gap) {space : List Char}
    (hspace : Blank space) :
    Reads (n + parts.length + 1)
      ('[' :: (gap ++ ((',' :: gap).intercalate (parts.map (·.1)) ++ (space ++ [']']))))
      (.array (parts.map (·.2))) := by
  intro m hm r
  obtain ⟨k, rfl⟩ : ∃ k, m = k + 1 := ⟨m - 1, by omega⟩
  have htail : skip (space ++ [']'] ++ r) = ']' :: r := by
    rw [List.append_assoc, skip_append hspace]
    exact skip_cons_of_not_space (by decide) r
  have hitems := readItems_intercalate hgap htail hne hparts k (by omega)
  have hcut :
      '[' :: (gap ++ ((',' :: gap).intercalate (parts.map (·.1)) ++ (space ++ [']']))) ++ r =
        '[' :: (gap ++ ((',' :: gap).intercalate (parts.map (·.1)) ++ (space ++ [']'] ++ r))) := by
    simp
  rw [hcut, readValue, skip_cons_of_not_space (by decide)]
  simp only [skip_append hgap, readItems_append hgap, hitems]
  obtain ⟨q, parts, rfl⟩ := List.exists_cons_of_ne_nil hne
  have hfirst : ∀ r', skip ((',' :: gap).intercalate ((q :: parts).map (·.1)) ++
      (space ++ [']'] ++ r)) ≠ ']' :: r' := by
    intro r'
    rw [List.map_cons, intercalate_cons, List.append_assoc]
    exact (hparts q List.mem_cons_self).skip_ne _ r'
  split
  · rename_i r' hskip
    exact absurd hskip (hfirst r')
  · rfl

/-- A member of an object, and how its value is written. -/
structure Member where
  /-- The key. -/
  key : String
  /-- The written value. -/
  written : List Char
  /-- The value. -/
  value : Value

/-- A written member on a line of its own, with white space in front of it. -/
def Member.line (indent : List Char) (q : Member) : List Char :=
  indent ++ literalChars .ascii q.key.toList ++ ':' :: ' ' :: q.written

/-- A member is read, and then what follows it. -/
theorem readMembers_line {indent : List Char} (hindent : Blank indent) {q : Member}
    (hread : Reads n q.written q.value) {k : Nat} (hk : n ≤ k) (rest : List Char) :
    readMembers (k + 1) (q.line indent ++ rest) =
      match skip rest with
      | ',' :: r => (readMembers k r).bind fun p => some ((q.key, q.value) :: p.1, p.2)
      | '\x7d' :: r => some ([(q.key, q.value)], r)
      | _ => none := by
  have hcut : q.line indent ++ rest =
      indent ++ ('"' :: (q.key.toList.flatMap (literalChar .ascii) ++
        '"' :: ':' :: ([' '] ++ (q.written ++ rest)))) := by
    simp [Member.line, literalChars]
  have hspace : Blank [' '] := by simp [Blank, isSpace]
  rw [hcut, readMembers_append hindent, readMembers, skip_cons_of_not_space (by decide)]
  simp only [readText_literalChars, Option.bind_eq_bind, Option.bind_some]
  rw [skip_cons_of_not_space (by decide)]
  simp only [readValue_append hspace, hread k hk rest, Option.bind_some, String.ofList_toList]
  rfl

/-- The members of an object are read back. -/
theorem readMembers_intercalate (hgap : Blank gap) {indent : List Char} (hindent : Blank indent)
    {tail r : List Char} (htail : skip tail = '\x7d' :: r) :
    ∀ {parts : List Member}, parts ≠ [] → (∀ q ∈ parts, Reads n q.written q.value) →
      ∀ m, n + parts.length ≤ m →
        readMembers m ((',' :: gap).intercalate (parts.map (·.line indent)) ++ tail) =
          some (parts.map fun q => (q.key, q.value), r)
  | [], hne, _, _, _ => absurd rfl hne
  | [q], _, hparts, m, hm => by
    obtain ⟨k, rfl⟩ : ∃ k, m = k + 1 := ⟨m - 1, by simp at hm; omega⟩
    have hk : n ≤ k := by simp at hm; omega
    rw [List.map_singleton, List.intercalate_singleton,
      readMembers_line hindent (hparts q List.mem_cons_self) hk, htail]
    rfl
  | q :: q' :: parts, _, hparts, m, hm => by
    obtain ⟨k, rfl⟩ : ∃ k, m = k + 1 := ⟨m - 1, by simp at hm; omega⟩
    have hk : n ≤ k := by simp at hm; omega
    have hrest := readMembers_intercalate hgap hindent htail (List.cons_ne_nil q' parts)
      (fun p hp => hparts p (List.mem_cons_of_mem q hp)) k (by simp at hm ⊢; omega)
    have hcut : (',' :: gap).intercalate ((q :: q' :: parts).map (·.line indent)) ++ tail =
        q.line indent ++ (',' :: (gap ++
          ((',' :: gap).intercalate ((q' :: parts).map (·.line indent)) ++ tail))) := by
      simp [List.intercalate_cons_cons]
    rw [hcut, readMembers_line hindent (hparts q List.mem_cons_self) hk,
      skip_cons_of_not_space (by decide)]
    simp only [readMembers_append hgap, hrest]
    rfl

/-- **An object is read back** if its members are. -/
theorem Reads.object {parts : List Member} (hne : parts ≠ [])
    (hparts : ∀ q ∈ parts, Reads n q.written q.value) (hgap : Blank gap) {indent : List Char}
    (hindent : Blank indent) {space : List Char} (hspace : Blank space) :
    Reads (n + parts.length + 1)
      ('\x7b' :: (gap ++ ((',' :: gap).intercalate (parts.map (·.line indent)) ++
        (space ++ ['\x7d']))))
      (.object (parts.map fun q => (q.key, q.value))) := by
  intro m hm r
  obtain ⟨k, rfl⟩ : ∃ k, m = k + 1 := ⟨m - 1, by omega⟩
  have htail : skip (space ++ ['\x7d'] ++ r) = '\x7d' :: r := by
    rw [List.append_assoc, skip_append hspace]
    exact skip_cons_of_not_space (by decide) r
  have hmembers := readMembers_intercalate hgap hindent htail hne hparts k (by omega)
  have hcut : '\x7b' :: (gap ++ ((',' :: gap).intercalate (parts.map (·.line indent)) ++
        (space ++ ['\x7d']))) ++ r =
      '\x7b' :: (gap ++ ((',' :: gap).intercalate (parts.map (·.line indent)) ++
        (space ++ ['\x7d'] ++ r))) := by
    simp
  rw [hcut, readValue, skip_cons_of_not_space (by decide)]
  simp only [skip_append hgap, readMembers_append hgap, hmembers]
  obtain ⟨q, parts, rfl⟩ := List.exists_cons_of_ne_nil hne
  have hfirst : ∃ r', skip ((',' :: gap).intercalate ((q :: parts).map (·.line indent)) ++
      (space ++ ['\x7d'] ++ r)) = '"' :: r' := by
    rw [List.map_cons, intercalate_cons, List.append_assoc, Member.line, List.append_assoc,
      List.append_assoc, skip_append hindent]
    exact ⟨_, skip_cons_of_not_space (by decide) _⟩
  obtain ⟨r', hskip⟩ := hfirst
  rw [hskip]
  rfl

/-- **A text that is read back is parsed**, with white space behind it. -/
theorem Reads.parse {s : String} (h : Reads n s.toList v) (hn : n ≤ s.toList.length + 1)
    {space : String} (hspace : Blank space.toList) : parse (s ++ space) = some v := by
  have hread := h ((s ++ space).toList.length + 1) (by simp at hn ⊢; omega) space.toList
  have hskip : skip space.toList = [] := by
    have hnil := skip_append hspace []
    rwa [List.append_nil] at hnil
  unfold Json.parse
  rw [String.toList_append] at hread ⊢
  rw [hread]
  simp [hskip]

end HouseRules.Json
