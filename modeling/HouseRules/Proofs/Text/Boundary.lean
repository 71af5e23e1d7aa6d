import HouseRules.Proofs.Text.Utf8

/-! # Offsets in an encoded text

An offset of an encoded text stands between two characters or cuts one (`exists_cut`). What is left
of a character that is cut is read as one fault, however much of it is left
(`items_take_encodeChar`); so a part of a text that starts with it is read as its whole characters
and at most one item more.

In any byte string the encoding of the first character that is read stands somewhere, behind the
faults before it (`exists_of_decodeIgnoringList`). -/

namespace HouseRules.Utf8

/-- The byte string is a text, and the offset stands in front of a character or at the end. -/
def IsBoundary (b : Bytes) (o : Nat) : Prop :=
  ∃ cs ds, b = encodeList (cs ++ ds) ∧ o = (encodeList cs).length

/-- The offset of the first byte of character `i`. -/
def charOffset (cs : List Char) (i : Nat) : Nat := (encodeList (cs.take i)).length

theorem encodeList_injective {cs ds : List Char} (h : encodeList cs = encodeList ds) : cs = ds := by
  rw [← decodeLossyList_encodeList cs, h, decodeLossyList_encodeList]

/-! ### Offsets of characters -/

theorem charOffset_lt {cs : List Char} {i j : Nat} (hij : i < j) (hj : j ≤ cs.length) :
    charOffset cs i < charOffset cs j := by
  have htake : cs.take j = cs.take i ++ (cs.take j).drop i := by
    conv_lhs => rw [← List.take_append_drop i (cs.take j), List.take_take, Nat.min_eq_left hij.le]
  have hlen : ((cs.take j).drop i).length = j - i := by simp; omega
  obtain ⟨c, ds, hc⟩ : ∃ c ds, (cs.take j).drop i = c :: ds :=
    List.exists_cons_of_length_pos (by omega)
  have hpos := c.utf8Size_pos
  unfold charOffset
  rw [htake, hc]
  simp only [encodeList_append, encodeList_cons, List.length_append, String.length_utf8EncodeChar]
  omega

theorem charOffset_lt_iff {cs : List Char} {i j : Nat} (hi : i ≤ cs.length) (hj : j ≤ cs.length) :
    charOffset cs i < charOffset cs j ↔ i < j := by
  constructor
  · intro h
    by_contra hge
    rcases Nat.lt_or_ge j i with hji | hji
    · have := charOffset_lt hji hi
      omega
    · have heq : i = j := by omega
      rw [heq] at h
      omega
  · exact fun h => charOffset_lt h hj

theorem isBoundary_encodeList_iff {cs : List Char} {o : Nat} :
    IsBoundary (encodeList cs) o ↔ ∃ i ≤ cs.length, o = charOffset cs i := by
  constructor
  · rintro ⟨ds, es, hcs, rfl⟩
    rw [encodeList_injective hcs]
    refine ⟨ds.length, by simp, ?_⟩
    rw [charOffset, List.take_left]
  · rintro ⟨i, -, rfl⟩
    exact ⟨cs.take i, cs.drop i, by rw [List.take_append_drop], rfl⟩

/-- **An offset stands between two characters or cuts one.** -/
theorem exists_cut : ∀ {cs : List Char} {o : Nat}, o ≤ (encodeList cs).length →
    (∃ pre post, cs = pre ++ post ∧ o = (encodeList pre).length) ∨
    ∃ pre c post n, cs = pre ++ c :: post ∧ 0 < n ∧ n < (String.utf8EncodeChar c).length ∧
      o = (encodeList pre).length + n
  | [], o, h => Or.inl ⟨[], [], rfl, by simpa using h⟩
  | c :: cs, o, h => by
    rw [encodeList_cons, List.length_append] at h
    rcases Nat.lt_or_ge o (String.utf8EncodeChar c).length with hlt | hge
    · rcases Nat.eq_zero_or_pos o with rfl | hpos
      · exact Or.inl ⟨[], c :: cs, rfl, rfl⟩
      · exact Or.inr ⟨[], c, cs, o, rfl, hpos, hlt, by simp⟩
    · have hrest : o - (String.utf8EncodeChar c).length ≤ (encodeList cs).length := by omega
      rcases exists_cut hrest with ⟨pre, post, rfl, ho⟩ | ⟨pre, d, post, n, rfl, hpos, hlt, ho⟩
      · refine Or.inl ⟨c :: pre, post, rfl, ?_⟩
        rw [encodeList_cons, List.length_append]
        omega
      · refine Or.inr ⟨c :: pre, d, post, n, rfl, hpos, hlt, ?_⟩
        rw [encodeList_cons, List.length_append]
        omega

/-! ### Parts of a character -/

/-- **A character that is cut is read as one fault.** -/
theorem items_take_encodeChar {c : Char} {n : Nat} (hpos : 0 < n)
    (hlt : n < (String.utf8EncodeChar c).length) :
    ∃ x reason, items ((String.utf8EncodeChar c).take n) = [.fault x n reason] := by
  have hs := spells_encodeChar c
  generalize String.utf8EncodeChar c = bytes at hlt hs ⊢
  cases hs with
  | one hx hc =>
    rw [List.length_singleton] at hlt
    omega
  | @two x y hx hy hc =>
    have hsize : sizeOfStart x = 2 := by have := sizeOfStart_cases x; omega
    simp only [List.length_cons, List.length_nil] at hlt
    have hn : n = 1 := by omega
    refine ⟨x, .endOfData, ?_⟩
    rw [hn, List.take_succ_cons, List.take_zero, items_cons, firstItem_two hsize]
    simp
  | @three x y z hx hy hz hc =>
    have hsize : sizeOfStart x = 3 := by have := sizeOfStart_cases x; omega
    simp only [List.length_cons, List.length_nil] at hlt
    have hn : n = 1 ∨ n = 2 := by omega
    refine ⟨x, .endOfData, ?_⟩
    rcases hn with rfl | rfl <;>
      simp only [List.take_succ_cons, List.take_zero, items_cons, firstItem_three hsize, hy,
        if_true] <;> simp [Item.size]
  | @four x y z w hx hy hz hw hc =>
    have hsize : sizeOfStart x = 4 := by have := sizeOfStart_cases x; omega
    have hcont : isContinuation z = true := (isContinuation_iff z).mpr hz
    simp only [List.length_cons, List.length_nil] at hlt
    have hn : n = 1 ∨ n = 2 ∨ n = 3 := by omega
    refine ⟨x, .endOfData, ?_⟩
    rcases hn with rfl | rfl | rfl <;>
      simp only [List.take_succ_cons, List.take_zero, items_cons, firstItem_four hsize, hy, hcont,
        Bool.not_true, Bool.false_eq_true, if_true, if_false] <;> simp [Item.size]

theorem decodeIgnoringList_take_encodeChar {c : Char} {n : Nat}
    (hlt : n < (String.utf8EncodeChar c).length) :
    decodeIgnoringList ((String.utf8EncodeChar c).take n) = [] := by
  rcases Nat.eq_zero_or_pos n with rfl | hpos
  · rw [List.take_zero, decodeIgnoringList, items_nil]
    rfl
  · obtain ⟨x, reason, hitems⟩ := items_take_encodeChar hpos hlt
    rw [decodeIgnoringList, hitems]
    rfl

/-! ### Characters among other bytes -/

theorem exists_of_decodeIgnoringList {c : Char} {cs : List Char} : ∀ {b : Bytes},
    decodeIgnoringList b = c :: cs → ∃ front back, b = front ++ (String.utf8EncodeChar c ++ back)
  | [], h => by
    rw [decodeIgnoringList, items_nil] at h
    cases h
  | x :: r, h => by
    rw [decodeIgnoringList, items_cons] at h
    cases hi : firstItem x r with
    | char d n =>
      obtain ⟨t, back, rfl, -, hs⟩ := spells_of_firstItem hi
      have hchar : Item.char? (.char d n) = some d := rfl
      rw [hi, List.filterMap_cons_some hchar, List.cons.injEq] at h
      refine ⟨[], back, ?_⟩
      rw [← h.1, hs.encodeChar_eq]
      rfl
    | fault y n reason =>
      rw [hi, List.filterMap_cons_none rfl] at h
      obtain ⟨front, back, hrest⟩ := exists_of_decodeIgnoringList h
      refine ⟨x :: (r.take (n - 1) ++ front), back, ?_⟩
      rw [List.cons_append, List.append_assoc, ← hrest]
      exact congrArg (x :: ·) (List.take_append_drop (n - 1) r).symm
termination_by b => b.length
decreasing_by simp only [List.length_drop, List.length_cons]; omega

end HouseRules.Utf8
