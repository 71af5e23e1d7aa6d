import HouseRules.Proofs.Text.Search
import HouseRules.Text.Utf8
import Mathlib.Data.List.Basic
import Mathlib.Tactic.SplitIfs

/-! # UTF-8: the laws

Which bytes spell a character is said by `Spells`: exactly the bytes of its encoding do. An item
that is a character covers bytes that spell it (`spells_of_firstItem`), and such bytes are read as
the character whatever follows them (`items_encodeList_append`). So a byte string is decoded
exactly if it is the encoding of the result (`decode_eq_ok_iff`).

Faults do not spread: a byte below 128 ends the item before it (`firstItem_append`), so a byte
string is cut in front of it (`decodeLossyList_append`) and a word of such bytes occurs in the
decoded text exactly if it occurs in the byte string (`occurs_decodeLossyList`). -/

namespace HouseRules.Utf8

/-! ### The first item, by the first byte -/

/-- The first byte tells how many bytes a character has. -/
theorem sizeOfStart_cases (x : UInt8) :
    (sizeOfStart x = 1 ∧ x.toNat < 128) ∨ (sizeOfStart x = 0 ∧ 128 ≤ x.toNat ∧ x.toNat < 194) ∨
    (sizeOfStart x = 2 ∧ 194 ≤ x.toNat ∧ x.toNat < 224) ∨
    (sizeOfStart x = 3 ∧ 224 ≤ x.toNat ∧ x.toNat < 240) ∨
    (sizeOfStart x = 4 ∧ 240 ≤ x.toNat ∧ x.toNat < 245) ∨
    (sizeOfStart x = 0 ∧ 245 ≤ x.toNat) := by
  unfold sizeOfStart
  simp only [UInt8.le_iff_toNat_le, UInt8.lt_iff_toNat_lt, UInt8.reduceToNat]
  split_ifs <;> omega

theorem isContinuation_iff (x : UInt8) :
    isContinuation x = true ↔ 128 ≤ x.toNat ∧ x.toNat < 192 := by
  simp only [isContinuation, Bool.and_eq_true, decide_eq_true_eq, UInt8.le_iff_toNat_le,
    UInt8.reduceToNat]
  omega

/-- The second byte of a longer character may follow the first. -/
def isSecond (x y : UInt8) : Bool := (secondRange x).1 ≤ y && y ≤ (secondRange x).2

theorem isSecond_iff (x y : UInt8) : isSecond x y = true ↔
    128 ≤ y.toNat ∧ y.toNat < 192 ∧ (x.toNat = 0xE0 → 160 ≤ y.toNat) ∧
      (x.toNat = 0xED → y.toNat < 160) ∧ (x.toNat = 0xF0 → 144 ≤ y.toNat) ∧
      (x.toNat = 0xF4 → y.toNat < 144) := by
  unfold isSecond secondRange
  simp only [Bool.and_eq_true, decide_eq_true_eq, ← UInt8.toNat_inj, UInt8.le_iff_toNat_le,
    UInt8.reduceToNat]
  split_ifs <;> simp only [UInt8.reduceToNat] <;> omega

theorem toNat_char {v : Nat} (h : v < 0xD800 ∨ 0xDFFF < v ∧ v < 0x110000) :
    (Char.ofNat v).toNat = v := by
  have hv : v.isValidChar := h
  rw [Char.ofNat, dif_pos hv]
  rfl

theorem firstItem_ascii {x : UInt8} (h : x.toNat < 128) (r : Bytes) :
    firstItem x r = .char (Char.ofNat x.toNat) 1 := by
  have hs : sizeOfStart x = 1 := by have := sizeOfStart_cases x; omega
  rw [firstItem, hs]
  rfl

theorem firstItem_two {x : UInt8} (h : sizeOfStart x = 2) (r : Bytes) : firstItem x r =
    match r with
    | [] => .fault x 1 .endOfData
    | y :: _ => if isContinuation y then .char (Char.ofNat (x.toNat % 32 * 64 + low6 y)) 2
      else .fault x 1 .badContinuation := by
  rw [firstItem, h]
  rcases r with _ | ⟨y, r⟩ <;> rfl

theorem firstItem_three {x : UInt8} (h : sizeOfStart x = 3) (r : Bytes) : firstItem x r =
    match r with
    | [] => .fault x 1 .endOfData
    | [y] => if isSecond x y then .fault x 2 .endOfData else .fault x 1 .badContinuation
    | y :: z :: _ =>
      if !isSecond x y then .fault x 1 .badContinuation
      else if isContinuation z then
        .char (Char.ofNat (x.toNat % 16 * 4096 + low6 y * 64 + low6 z)) 3
      else .fault x 2 .badContinuation := by
  rw [firstItem, h]
  rcases r with _ | ⟨y, _ | ⟨z, r⟩⟩ <;> rfl

theorem firstItem_four {x : UInt8} (h : sizeOfStart x = 4) (r : Bytes) : firstItem x r =
    match r with
    | [] => .fault x 1 .endOfData
    | [y] => if isSecond x y then .fault x 2 .endOfData else .fault x 1 .badContinuation
    | [y, z] =>
      if !isSecond x y then .fault x 1 .badContinuation
      else if isContinuation z then .fault x 3 .endOfData else .fault x 2 .badContinuation
    | y :: z :: w :: _ =>
      if !isSecond x y then .fault x 1 .badContinuation
      else if !isContinuation z then .fault x 2 .badContinuation
      else if isContinuation w then
        .char (Char.ofNat (x.toNat % 8 * 262144 + low6 y * 4096 + low6 z * 64 + low6 w)) 4
      else .fault x 3 .badContinuation := by
  rw [firstItem, h]
  rcases r with _ | ⟨y, _ | ⟨z, _ | ⟨w, r⟩⟩⟩ <;> rfl

theorem firstItem_zero {x : UInt8} (h : sizeOfStart x = 0) (r : Bytes) :
    firstItem x r = .fault x 1 .badStart := by
  rw [firstItem, h]
  rfl

/-! ### Characters and the bytes that spell them -/

/-- The bytes spell the character: of which classes they are, and which number they hold. -/
inductive Spells (c : Char) : Bytes → Prop where
  /-- One byte. -/
  | one {x : UInt8} (hx : x.toNat < 128) (hc : c.toNat = x.toNat) : Spells c [x]
  /-- Two bytes. -/
  | two {x y : UInt8} (hx : 194 ≤ x.toNat ∧ x.toNat < 224) (hy : 128 ≤ y.toNat ∧ y.toNat < 192)
    (hc : c.toNat = x.toNat % 32 * 64 + y.toNat % 64) : Spells c [x, y]
  /-- Three bytes. -/
  | three {x y z : UInt8} (hx : 224 ≤ x.toNat ∧ x.toNat < 240) (hy : isSecond x y = true)
    (hz : 128 ≤ z.toNat ∧ z.toNat < 192)
    (hc : c.toNat = x.toNat % 16 * 4096 + y.toNat % 64 * 64 + z.toNat % 64) : Spells c [x, y, z]
  /-- Four bytes. -/
  | four {x y z w : UInt8} (hx : 240 ≤ x.toNat ∧ x.toNat < 245) (hy : isSecond x y = true)
    (hz : 128 ≤ z.toNat ∧ z.toNat < 192) (hw : 128 ≤ w.toNat ∧ w.toNat < 192)
    (hc : c.toNat =
      x.toNat % 8 * 262144 + y.toNat % 64 * 4096 + z.toNat % 64 * 64 + w.toNat % 64) :
    Spells c [x, y, z, w]

/-- The encoding of a character spells it. -/
theorem spells_encodeChar (c : Char) : Spells c (String.utf8EncodeChar c) := by
  have hc : c.toNat < 0xD800 ∨ 0xDFFF < c.toNat ∧ c.toNat < 0x110000 := c.valid
  have hn : c.val.toNat = c.toNat := rfl
  unfold String.utf8EncodeChar
  simp only [hn]
  split_ifs with h1 h2 h3
  · apply Spells.one <;> simp only [UInt8.toNat_ofNat'] <;> omega
  · apply Spells.two <;> simp only [UInt8.toNat_ofNat'] <;> omega
  · apply Spells.three <;> simp only [isSecond_iff, UInt8.toNat_ofNat'] <;> omega
  · apply Spells.four <;> simp only [isSecond_iff, UInt8.toNat_ofNat'] <;> omega

/-- Nothing else spells it. -/
theorem Spells.encodeChar_eq {c : Char} {b : Bytes} (h : Spells c b) :
    String.utf8EncodeChar c = b := by
  have hn : c.val.toNat = c.toNat := rfl
  unfold String.utf8EncodeChar
  cases h with
  | one hx hc =>
    simp only [hn, hc]
    rw [if_pos (by omega), UInt8.ofNat_toNat]
  | two hx hy hc =>
    simp only [hn, hc]
    rw [if_neg (by omega), if_pos (by omega)]
    simp only [List.cons.injEq, ← UInt8.toNat_inj, UInt8.toNat_ofNat', and_true]
    omega
  | three hx hy hz hc =>
    rw [isSecond_iff] at hy
    simp only [hn, hc]
    rw [if_neg (by omega), if_neg (by omega), if_pos (by omega)]
    simp only [List.cons.injEq, ← UInt8.toNat_inj, UInt8.toNat_ofNat', and_true]
    omega
  | four hx hy hz hw hc =>
    rw [isSecond_iff] at hy
    simp only [hn, hc]
    rw [if_neg (by omega), if_neg (by omega), if_neg (by omega)]
    simp only [List.cons.injEq, ← UInt8.toNat_inj, UInt8.toNat_ofNat', and_true]
    omega

/-- A byte below 128 is a character of its own. -/
theorem toNat_of_mem_encodeChar {c : Char} {b : UInt8} (hb : b ∈ String.utf8EncodeChar c)
    (hlt : b.toNat < 128) : c.toNat = b.toNat := by
  have h := spells_encodeChar c
  generalize String.utf8EncodeChar c = bytes at hb h
  cases h with
  | one hx hc => rw [List.mem_singleton.mp hb, hc]
  | two hx hy hc =>
    simp only [List.mem_cons, List.not_mem_nil, or_false] at hb
    rcases hb with rfl | rfl <;> omega
  | three hx hy hz hc =>
    rw [isSecond_iff] at hy
    simp only [List.mem_cons, List.not_mem_nil, or_false] at hb
    rcases hb with rfl | rfl | rfl <;> omega
  | four hx hy hz hw hc =>
    rw [isSecond_iff] at hy
    simp only [List.mem_cons, List.not_mem_nil, or_false] at hb
    rcases hb with rfl | rfl | rfl | rfl <;> omega

theorem newline_not_mem_encodeChar {c : Char} (h : c ≠ '\n') :
    Bytes.newline ∉ String.utf8EncodeChar c := by
  intro hm
  have hc := toNat_of_mem_encodeChar hm (by decide)
  exact h (Char.toNat_inj.mp hc)

theorem encodeChar_newline : String.utf8EncodeChar '\n' = [Bytes.newline] := by decide

section FirstItem

variable {c : Char} {x : UInt8} {n : Nat}

/-- The bytes that spell a character are read as that character, whatever follows them. -/
theorem Spells.firstItem_eq {t : Bytes} (h : Spells c (x :: t)) (r : Bytes) :
    firstItem x (t ++ r) = .char c (t.length + 1) := by
  have hs := sizeOfStart_cases x
  cases h with
  | one hx hc =>
    rw [firstItem_ascii hx, ← hc, Char.ofNat_toNat]
    rfl
  | @two _ y hx hy hc =>
    have hcont := (isContinuation_iff y).mpr hy
    have hi := firstItem_two (by omega : sizeOfStart x = 2) ([y] ++ r)
    simp only [List.cons_append, hcont, if_true] at hi
    unfold low6 at hi
    rwa [← hc, Char.ofNat_toNat] at hi
  | @three _ y z hx hy hz hc =>
    have hcont := (isContinuation_iff z).mpr hz
    have hi := firstItem_three (by omega : sizeOfStart x = 3) ([y, z] ++ r)
    simp only [List.cons_append, hy, hcont, Bool.not_true, Bool.false_eq_true, if_true,
      if_false] at hi
    unfold low6 at hi
    rwa [← hc, Char.ofNat_toNat] at hi
  | @four _ y z w hx hy hz hw hc =>
    have hcont := (isContinuation_iff z).mpr hz
    have hcont' := (isContinuation_iff w).mpr hw
    have hi := firstItem_four (by omega : sizeOfStart x = 4) ([y, z, w] ++ r)
    simp only [List.cons_append, hy, hcont, hcont', Bool.not_true, Bool.false_eq_true, if_true,
      if_false] at hi
    unfold low6 at hi
    rwa [← hc, Char.ofNat_toNat] at hi

theorem spells_of_firstItem_two {r : Bytes}
    (hx : sizeOfStart x = 2 ∧ 194 ≤ x.toNat ∧ x.toNat < 224) (h : firstItem x r = .char c n) :
    ∃ y r', r = y :: r' ∧ n = 2 ∧ Spells c [x, y] := by
  rw [firstItem_two hx.1] at h
  rcases r with _ | ⟨y, r⟩
  · cases h
  · simp only at h
    split at h
    · next hy =>
      rw [Item.char.injEq] at h
      obtain ⟨rfl, rfl⟩ := h
      rw [isContinuation_iff] at hy
      exact ⟨y, r, rfl, rfl, .two hx.2 hy (toNat_char (by unfold low6; omega))⟩
    · cases h

theorem spells_of_firstItem_three {r : Bytes}
    (hx : sizeOfStart x = 3 ∧ 224 ≤ x.toNat ∧ x.toNat < 240) (h : firstItem x r = .char c n) :
    ∃ y z r', r = y :: z :: r' ∧ n = 3 ∧ Spells c [x, y, z] := by
  rw [firstItem_three hx.1] at h
  rcases r with _ | ⟨y, _ | ⟨z, r⟩⟩
  · cases h
  · simp only at h
    split at h <;> cases h
  · simp only [Bool.not_eq_true'] at h
    split at h
    · cases h
    · next hy =>
      split at h
      · next hz =>
        rw [Item.char.injEq] at h
        obtain ⟨rfl, rfl⟩ := h
        rw [Bool.not_eq_false] at hy
        rw [isContinuation_iff] at hz
        have hy' := (isSecond_iff x y).mp hy
        exact ⟨y, z, r, rfl, rfl, .three hx.2 hy hz (toNat_char (by unfold low6; omega))⟩
      · cases h

theorem spells_of_firstItem_four {r : Bytes}
    (hx : sizeOfStart x = 4 ∧ 240 ≤ x.toNat ∧ x.toNat < 245) (h : firstItem x r = .char c n) :
    ∃ y z w r', r = y :: z :: w :: r' ∧ n = 4 ∧ Spells c [x, y, z, w] := by
  rw [firstItem_four hx.1] at h
  rcases r with _ | ⟨y, _ | ⟨z, _ | ⟨w, r⟩⟩⟩
  · cases h
  · simp only at h
    split at h <;> cases h
  · simp only at h
    split at h
    · cases h
    · split at h <;> cases h
  · simp only [Bool.not_eq_true'] at h
    split at h
    · cases h
    · next hy =>
      split at h
      · cases h
      · next hz =>
        split at h
        · next hw =>
          rw [Item.char.injEq] at h
          obtain ⟨rfl, rfl⟩ := h
          rw [Bool.not_eq_false] at hy hz
          rw [isContinuation_iff] at hz hw
          have hy' := (isSecond_iff x y).mp hy
          exact ⟨y, z, w, r, rfl, rfl, .four hx.2 hy hz hw (toNat_char (by unfold low6; omega))⟩
        · cases h

/-- **A character that is read is spelled by the bytes that it is read from.** -/
theorem spells_of_firstItem {r : Bytes} (h : firstItem x r = .char c n) :
    ∃ t r', r = t ++ r' ∧ n = t.length + 1 ∧ Spells c (x :: t) := by
  rcases sizeOfStart_cases x with hx | hx | hx | hx | hx | hx
  · rw [firstItem_ascii hx.2, Item.char.injEq] at h
    obtain ⟨rfl, rfl⟩ := h
    exact ⟨[], r, rfl, rfl, .one hx.2 (toNat_char (by omega))⟩
  · rw [firstItem_zero hx.1] at h
    cases h
  · obtain ⟨y, r', rfl, rfl, hc⟩ := spells_of_firstItem_two hx h
    exact ⟨[y], r', rfl, rfl, hc⟩
  · obtain ⟨y, z, r', rfl, rfl, hc⟩ := spells_of_firstItem_three hx h
    exact ⟨[y, z], r', rfl, rfl, hc⟩
  · obtain ⟨y, z, w, r', rfl, rfl, hc⟩ := spells_of_firstItem_four hx h
    exact ⟨[y, z, w], r', rfl, rfl, hc⟩
  · rw [firstItem_zero hx.1] at h
    cases h

end FirstItem

/-! ### Items of a byte string -/

@[simp]
theorem items_nil : items [] = [] := by rw [items]

theorem items_cons (x : UInt8) (r : Bytes) :
    items (x :: r) = firstItem x r :: items (r.drop ((firstItem x r).size - 1)) := by rw [items]

theorem items_encodeChar_append (c : Char) (r : Bytes) :
    items (String.utf8EncodeChar c ++ r) = .char c (String.utf8EncodeChar c).length :: items r := by
  obtain ⟨x, t, ht⟩ := List.exists_cons_of_ne_nil (String.utf8EncodeChar_ne_nil (c := c))
  have hs : Spells c (x :: t) := ht ▸ spells_encodeChar c
  rw [ht, List.cons_append, items_cons, hs.firstItem_eq, Item.size, Nat.add_sub_cancel,
    List.drop_left, List.length_cons]

/-- The item of a character. -/
def Item.ofChar (c : Char) : Item := .char c (String.utf8EncodeChar c).length

/-- **Encoded characters are read back**, whatever follows them. -/
theorem items_encodeList_append (r : Bytes) : ∀ cs : List Char,
    items (encodeList cs ++ r) = cs.map Item.ofChar ++ items r
  | [] => rfl
  | c :: cs => by
    have hc : encodeList (c :: cs) ++ r = String.utf8EncodeChar c ++ (encodeList cs ++ r) := by
      simp [encodeList]
    rw [hc, items_encodeChar_append, items_encodeList_append r cs]
    rfl

theorem items_encodeList (cs : List Char) : items (encodeList cs) = cs.map Item.ofChar := by
  have h := items_encodeList_append [] cs
  rwa [List.append_nil, items_nil, List.append_nil] at h

@[simp]
theorem encodeList_nil : encodeList [] = [] := rfl

@[simp]
theorem encodeList_cons (c : Char) (cs : List Char) :
    encodeList (c :: cs) = String.utf8EncodeChar c ++ encodeList cs := rfl

@[simp]
theorem encodeList_append (cs ds : List Char) :
    encodeList (cs ++ ds) = encodeList cs ++ encodeList ds := by simp [encodeList]

theorem decodeLossyList_encodeList_append (cs : List Char) (r : Bytes) :
    decodeLossyList (encodeList cs ++ r) = cs ++ decodeLossyList r := by
  have hc : (cs.map Item.ofChar).map (fun i => i.char?.getD replacement) = cs := by
    rw [List.map_map]
    exact List.map_id cs
  rw [decodeLossyList, items_encodeList_append, List.map_append, hc]
  rfl

@[simp]
theorem decodeLossyList_encodeList (cs : List Char) : decodeLossyList (encodeList cs) = cs := by
  have h := decodeLossyList_encodeList_append cs []
  rw [List.append_nil] at h
  rw [h]
  simp [decodeLossyList]

theorem decodeIgnoringList_encodeList_append (cs : List Char) (r : Bytes) :
    decodeIgnoringList (encodeList cs ++ r) = cs ++ decodeIgnoringList r := by
  have hc : (cs.map Item.ofChar).filterMap Item.char? = cs := by
    rw [List.filterMap_map]
    exact List.filterMap_some
  rw [decodeIgnoringList, items_encodeList_append, List.filterMap_append, hc]
  rfl

/-! ### Decoding whole texts -/

theorem charsOf_ofChar (cs : List Char) : ∀ start, charsOf start (cs.map Item.ofChar) = .ok cs := by
  induction cs with
  | nil => intro start; rfl
  | cons c cs ih =>
    intro start
    rw [List.map_cons, Item.ofChar, charsOf, ih]
    rfl

theorem decode_encode (s : String) : decode (encode s) = .ok s := by
  rw [decode, encode, items_encodeList, charsOf_ofChar]
  exact congrArg Except.ok String.ofList_toList

theorem encodeList_of_charsOf : ∀ (b : Bytes) (start : Nat) (cs : List Char),
    charsOf start (items b) = .ok cs → encodeList cs = b
  | [], start, cs, h => by
    rw [items_nil, charsOf, Except.ok.injEq] at h
    rw [← h, encodeList_nil]
  | x :: r, start, cs, h => by
    rw [items_cons] at h
    cases hi : firstItem x r with
    | fault y n reason => rw [hi, charsOf] at h; cases h
    | char c n =>
      obtain ⟨t, r', rfl, rfl, hc⟩ := spells_of_firstItem hi
      rw [hi, charsOf] at h
      simp only [Item.size, Nat.add_sub_cancel, List.drop_left] at h
      cases hr : charsOf (start + (t.length + 1)) (items r') with
      | error e => rw [hr] at h; cases h
      | ok ds =>
        rw [hr] at h
        have hcs : c :: ds = cs := Except.ok.inj h
        have ih := encodeList_of_charsOf r' (start + (t.length + 1)) ds hr
        rw [← hcs, encodeList_cons, ih, hc.encodeChar_eq, List.cons_append]
termination_by b => b.length
decreasing_by subst_vars; simp only [List.length_append, List.length_cons]; omega

/-- **A byte string is decoded exactly if it is an encoding.** -/
theorem decode_eq_ok_iff {b : Bytes} {s : String} : decode b = .ok s ↔ b = encode s := by
  constructor
  · intro h
    cases hc : charsOf 0 (items b) with
    | error e => rw [decode, hc] at h; cases h
    | ok cs =>
      rw [decode, hc] at h
      have hs : String.ofList cs = s := Except.ok.inj h
      rw [← encodeList_of_charsOf b 0 cs hc, ← hs, encode, String.toList_ofList]
  · rintro rfl
    exact decode_encode s

/-! ### Bytes below 128

Such a byte is a character of its own wherever it stands, also next to a fault. So a byte string
can be cut in front of it, and a word of such characters occurs in the text exactly where its
bytes occur in the byte string. -/

/-- A byte below 128 is never taken into the item before it. -/
theorem firstItem_append {b : Bytes} (hb : ∀ y ∈ b.head?, y.toNat < 128) (x : UInt8) (r : Bytes) :
    (firstItem x (r ++ b)).char? = (firstItem x r).char? ∧
      (firstItem x (r ++ b)).size = (firstItem x r).size := by
  rcases b with _ | ⟨b0, b⟩
  · simp
  have hb0 : b0.toNat < 128 := hb b0 rfl
  have hc : isContinuation b0 = false := by
    rw [Bool.eq_false_iff, Ne, isContinuation_iff]; omega
  have hs : isSecond x b0 = false := by
    rw [Bool.eq_false_iff, Ne, isSecond_iff]; omega
  rcases sizeOfStart_cases x with h | h | h | h | h | h
  · rw [firstItem_ascii h.2, firstItem_ascii h.2]; exact ⟨rfl, rfl⟩
  · rw [firstItem_zero h.1, firstItem_zero h.1]; exact ⟨rfl, rfl⟩
  · rw [firstItem_two h.1, firstItem_two h.1]
    rcases r with _ | ⟨y, r⟩ <;> simp [hc, Item.char?, Item.size]
  · rw [firstItem_three h.1, firstItem_three h.1]
    rcases r with _ | ⟨y, _ | ⟨z, r⟩⟩
    · rcases b with _ | ⟨b1, b⟩ <;> simp [hs, Item.char?, Item.size]
    · by_cases hy : isSecond x y <;> simp [hy, hc, Item.char?, Item.size]
    · simp
  · rw [firstItem_four h.1, firstItem_four h.1]
    rcases r with _ | ⟨y, _ | ⟨z, _ | ⟨w, r⟩⟩⟩
    · rcases b with _ | ⟨b1, _ | ⟨b2, b⟩⟩ <;> simp [hs, Item.char?, Item.size]
    · rcases b with _ | ⟨b1, b⟩ <;> by_cases hy : isSecond x y <;>
        simp [hy, hc, Item.char?, Item.size]
    · by_cases hy : isSecond x y <;> by_cases hz : isContinuation z <;>
        simp [hy, hz, hc, Item.char?, Item.size]
    · simp
  · rw [firstItem_zero h.1, firstItem_zero h.1]; exact ⟨rfl, rfl⟩

theorem firstItem_size (x : UInt8) (r : Bytes) :
    1 ≤ (firstItem x r).size ∧ (firstItem x r).size ≤ r.length + 1 := by
  rcases sizeOfStart_cases x with h | h | h | h | h | h
  · rw [firstItem_ascii h.2]; simp [Item.size]
  · rw [firstItem_zero h.1]; simp [Item.size]
  · rw [firstItem_two h.1]
    rcases r with _ | ⟨y, r⟩
    · simp [Item.size]
    all_goals
      simp only
      split_ifs <;> simp [Item.size]
  · rw [firstItem_three h.1]
    rcases r with _ | ⟨y, _ | ⟨z, r⟩⟩
    · simp [Item.size]
    all_goals
      simp only
      split_ifs <;> simp [Item.size]
  · rw [firstItem_four h.1]
    rcases r with _ | ⟨y, _ | ⟨z, _ | ⟨w, r⟩⟩⟩
    · simp [Item.size]
    all_goals
      simp only
      split_ifs <;> simp [Item.size]
  · rw [firstItem_zero h.1]; simp [Item.size]

@[simp]
theorem decodeLossyList_nil : decodeLossyList [] = [] := by rw [decodeLossyList, items_nil]; rfl

theorem decodeLossyList_cons (x : UInt8) (r : Bytes) :
    decodeLossyList (x :: r) = (firstItem x r).char?.getD replacement ::
      decodeLossyList (r.drop ((firstItem x r).size - 1)) := by
  rw [decodeLossyList, items_cons]
  rfl

theorem decodeLossyList_ne_nil {b : Bytes} (h : b ≠ []) : decodeLossyList b ≠ [] := by
  obtain ⟨x, r, rfl⟩ := List.exists_cons_of_ne_nil h
  rw [decodeLossyList_cons]
  exact List.cons_ne_nil _ _

/-- **A byte string is cut in front of a byte below 128.** -/
theorem decodeLossyList_append {b : Bytes} (hb : ∀ y ∈ b.head?, y.toNat < 128) : ∀ a : Bytes,
    decodeLossyList (a ++ b) = decodeLossyList a ++ decodeLossyList b
  | [] => by rw [List.nil_append, decodeLossyList_nil, List.nil_append]
  | x :: r => by
    obtain ⟨hchar, hsize⟩ := firstItem_append hb x r
    have hle := (firstItem_size x r).2
    have ih := decodeLossyList_append hb (r.drop ((firstItem x r).size - 1))
    rw [List.cons_append, decodeLossyList_cons, decodeLossyList_cons, hchar, hsize,
      List.drop_append_of_le_length (by omega), ih, List.cons_append]
termination_by a => a.length
decreasing_by simp only [List.length_drop, List.length_cons]; omega

/-- The bytes of a word of characters below 128. -/
def asciiBytes (word : List Char) : Bytes := word.map fun c => c.toNat.toUInt8

theorem encodeList_ascii {word : List Char} (h : ∀ c ∈ word, c.toNat < 128) :
    encodeList word = asciiBytes word := by
  induction word with
  | nil => rfl
  | cons c cs ih =>
    have hc : c.toNat < 128 := h c (by simp)
    have hx : c.toNat.toUInt8.toNat = c.toNat := by
      rw [Nat.toUInt8, UInt8.toNat_ofNat']; omega
    rw [encodeList_cons, (Spells.one (by omega) hx.symm).encodeChar_eq,
      ih fun d hd => h d (List.mem_cons_of_mem c hd)]
    rfl

/-- A character below 128 is read only from its own byte. -/
theorem firstItem_char_ascii {x : UInt8} {r : Bytes} {c : Char} (hc : c.toNat < 128)
    (h : (firstItem x r).char?.getD replacement = c) :
    x = c.toNat.toUInt8 ∧ (firstItem x r).size = 1 := by
  cases hi : firstItem x r with
  | fault y n reason =>
    rw [hi] at h
    have hr : replacement = c := h
    rw [← hr] at hc
    exact absurd hc (by decide)
  | char d n =>
    rw [hi] at h
    have hd : d = c := h
    subst hd
    have hx : d.toNat.toUInt8.toNat = d.toNat := by
      rw [Nat.toUInt8, UInt8.toNat_ofNat']; omega
    obtain ⟨t, r', rfl, rfl, hs⟩ := spells_of_firstItem hi
    have he := (Spells.one (by omega) hx.symm).encodeChar_eq.symm.trans hs.encodeChar_eq
    rw [List.cons.injEq] at he
    rw [← he.1, ← he.2]
    exact ⟨rfl, rfl⟩

theorem prefix_of_prefix_decodeLossyList {b : Bytes} : ∀ {word : List Char},
    (∀ c ∈ word, c.toNat < 128) →
    word <+: decodeLossyList b → asciiBytes word <+: b := by
  intro word
  induction word generalizing b with
  | nil => intro _ _; exact List.nil_prefix
  | cons c cs ih =>
    intro h hp
    obtain ⟨t, ht⟩ := hp
    rcases b with _ | ⟨x, r⟩
    · rw [decodeLossyList_nil] at ht
      cases ht
    · rw [decodeLossyList_cons, List.cons_append, List.cons.injEq] at ht
      obtain ⟨hx, hsize⟩ := firstItem_char_ascii (h c (by simp)) ht.1.symm
      rw [hsize, Nat.sub_self, List.drop_zero] at ht
      rw [asciiBytes, List.map_cons, ← hx, List.cons_prefix_cons]
      exact ⟨rfl, ih (fun d hd => h d (List.mem_cons_of_mem c hd)) ⟨t, ht.2⟩⟩

theorem infix_of_infix_decodeLossyList {word : List Char} (h : ∀ c ∈ word, c.toNat < 128) :
    ∀ b : Bytes, word <:+: decodeLossyList b → asciiBytes word <:+: b
  | [], hw => by
    rw [decodeLossyList_nil, List.infix_nil] at hw
    rw [hw]
    exact List.nil_infix
  | x :: r, hw => by
    have hw' := hw
    rw [decodeLossyList_cons, List.infix_cons_iff, ← decodeLossyList_cons] at hw'
    rcases hw' with hp | hp
    · exact (prefix_of_prefix_decodeLossyList h hp).isInfix
    · have ih := infix_of_infix_decodeLossyList h (r.drop ((firstItem x r).size - 1)) hp
      exact List.infix_cons (ih.trans (List.drop_suffix _ r).isInfix)
termination_by b => b.length
decreasing_by simp only [List.length_drop, List.length_cons]; omega

/-- **A word of characters below 128 occurs in the text exactly if its bytes occur.** -/
theorem occurs_decodeLossyList {word : List Char} (hne : word ≠ [])
    (h : ∀ c ∈ word, c.toNat < 128) (b : Bytes) :
    Search.occurs word (decodeLossyList b) = Search.occurs (asciiBytes word) b := by
  rw [Bool.eq_iff_iff, Search.occurs_iff, Search.occurs_iff]
  constructor
  · exact infix_of_infix_decodeLossyList h b
  · rintro ⟨u, v, rfl⟩
    have hw : ∀ y ∈ (asciiBytes word ++ v).head?, y.toNat < 128 := by
      obtain ⟨c, cs, rfl⟩ := List.exists_cons_of_ne_nil hne
      intro y hy
      have hy' : c.toNat.toUInt8 = y := by simpa [asciiBytes] using hy
      have hc := h c (by simp)
      rw [← hy', Nat.toUInt8, UInt8.toNat_ofNat']
      omega
    rw [List.append_assoc, decodeLossyList_append hw, ← encodeList_ascii h,
      decodeLossyList_encodeList_append]
    exact ⟨_, _, List.append_assoc _ _ _⟩

end HouseRules.Utf8
