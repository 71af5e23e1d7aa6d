import HouseRules.Text.Search
import Mathlib.Data.List.Basic
import Mathlib.Data.List.Infix

/-! # Searching in lists: the laws

A word occurs in a list exactly if the list has it as a part (`occurs_iff`), and its last occurrence
is found where no later one follows (`lastIndexOf?_append`, `lastIndexOf?_self_append`). A list is
cut at a separator into what stands before it and the pieces of the rest (`pieces_append`), and its
pieces, joined again, make it up (`join_pieces`, `pieces_join`). -/

namespace HouseRules.Search

variable {α : Type}

/-! ### Tails of a class -/

theorem dropEndWhile_append_of_neg {p : α → Bool} {x : α} (h : p x = false) (l : List α) :
    dropEndWhile p (l ++ [x]) = l ++ [x] := by
  rw [dropEndWhile, List.reverse_append]
  simp [h]

theorem dropEndWhile_append_of_pos {p : α → Bool} {x : α} (h : p x = true) (l : List α) :
    dropEndWhile p (l ++ [x]) = dropEndWhile p l := by
  rw [dropEndWhile, List.reverse_append]
  simp [h, dropEndWhile]

theorem dropEndWhile_eq_self {p : α → Bool} {l : List α} (h : ∀ x ∈ l, p x = false) :
    dropEndWhile p l = l := by
  rcases List.eq_nil_or_concat' l with rfl | ⟨front, x, rfl⟩
  · rfl
  · have hx := h x (List.mem_append_right _ (List.mem_singleton_self x))
    exact dropEndWhile_append_of_neg hx front

/-- What is cut off is a tail of the class. -/
theorem eq_dropEndWhile_append (p : α → Bool) (l : List α) :
    ∃ tail, l = dropEndWhile p l ++ tail ∧ ∀ x ∈ tail, p x = true := by
  refine ⟨(l.reverse.takeWhile p).reverse, ?_, fun x hx => ?_⟩
  · rw [dropEndWhile, ← List.reverse_append, List.takeWhile_append_dropWhile, List.reverse_reverse]
  · exact List.all_eq_true.mp List.all_takeWhile x (List.mem_reverse.mp hx)

/-! ### Joined lists -/

theorem join_cons_of_ne_nil (sep p : List α) {ps : List (List α)} (h : ps ≠ []) :
    join sep (p :: ps) = p ++ sep ++ join sep ps := by
  cases ps with
  | nil => exact absurd rfl h
  | cons q r => rfl

theorem join_cons_append (sep l p : List α) (ps : List (List α)) :
    join sep ((l ++ p) :: ps) = l ++ join sep (p :: ps) := by
  cases ps with
  | nil => rfl
  | cons q r => simp only [join, List.append_assoc]

theorem join_append (sep : List α) {qs : List (List α)} (hqs : qs ≠ []) :
    ∀ {ps : List (List α)}, ps ≠ [] → join sep (ps ++ qs) = join sep ps ++ sep ++ join sep qs
  | [], h => absurd rfl h
  | [p], _ => join_cons_of_ne_nil sep p hqs
  | p :: q :: ps, _ => by
    have ih := join_append sep hqs (List.cons_ne_nil q ps)
    rw [List.cons_append, join_cons_of_ne_nil sep p (by simp), ih,
      join_cons_of_ne_nil sep p (List.cons_ne_nil q ps)]
    simp only [List.append_assoc]

theorem mem_join {sep : List α} {x : α} : ∀ {ps : List (List α)},
    x ∈ join sep ps → x ∈ sep ∨ ∃ p ∈ ps, x ∈ p
  | [], h => by cases h
  | [p], h => Or.inr ⟨p, List.mem_singleton_self p, h⟩
  | p :: q :: r, h => by
    rw [join, List.mem_append, List.mem_append] at h
    rcases h with (h | h) | h
    · exact Or.inr ⟨p, List.mem_cons_self, h⟩
    · exact Or.inl h
    · rcases mem_join h with h | ⟨p', hp', h⟩
      · exact Or.inl h
      · exact Or.inr ⟨p', List.mem_cons_of_mem p hp', h⟩

theorem intercalate_eq_join (sep : List α) : ∀ ps : List (List α),
    sep.intercalate ps = join sep ps
  | [] => rfl
  | [p] => by rw [List.intercalate_singleton, join]
  | p :: q :: ps => by
    rw [List.intercalate_cons_cons, intercalate_eq_join sep (q :: ps), join]

/-! ### Occurrences -/

variable [BEq α]

theorem lastIndexOf?_eq_none_iff {word : List α} :
    ∀ {l : List α}, lastIndexOf? word l = none ↔ occurs word l = false
  | [] => by cases word <;> simp [lastIndexOf?, occurs]
  | x :: r => by
    rw [lastIndexOf?, occurs]
    cases h : lastIndexOf? word r with
    | none =>
      rw [lastIndexOf?_eq_none_iff.mp h, Bool.or_false]
      cases word.isPrefixOf (x :: r) <;> simp
    | some i =>
      have hr : occurs word r ≠ false := fun hc => by
        rw [lastIndexOf?_eq_none_iff.mpr hc] at h
        cases h
      simp [hr]

/-- What precedes the last occurrence only moves it. -/
theorem lastIndexOf?_append {word r : List α} {i : Nat} (h : lastIndexOf? word r = some i) :
    ∀ l : List α, lastIndexOf? word (l ++ r) = some (l.length + i)
  | [] => by simpa using h
  | x :: l => by
    rw [List.cons_append, lastIndexOf?, lastIndexOf?_append h l]
    simp only [List.length_cons, Option.some.injEq]
    omega

variable [LawfulBEq α]

theorem occurs_iff {word : List α} : ∀ {l : List α}, occurs word l = true ↔ word <:+: l
  | [] => by simp [occurs]
  | x :: r => by
    rw [occurs, Bool.or_eq_true, List.isPrefixOf_iff_prefix, occurs_iff, List.infix_cons_iff]

theorem occurs_of_infix {word l l' : List α} (h : l <:+: l') (hw : occurs word l = true) :
    occurs word l' = true :=
  occurs_iff.mpr ((occurs_iff.mp hw).trans h)

/-- A word at the head of a list that does not occur again behind its first element. -/
theorem lastIndexOf?_self_append {x : α} {word r : List α}
    (h : occurs (x :: word) (word ++ r) = false) :
    lastIndexOf? (x :: word) (x :: word ++ r) = some 0 := by
  have hp : (x :: word).isPrefixOf (x :: (word ++ r)) = true :=
    List.isPrefixOf_iff_prefix.mpr ⟨r, rfl⟩
  rw [List.cons_append, lastIndexOf?, lastIndexOf?_eq_none_iff.mpr h]
  exact if_pos hp

/-! ### Tables -/

/-- The first entry of a key in a table holds the value of the key. -/
theorem map_find?_key {β : Type} (key : α) (table : List (α × β)) :
    (table.find? (·.1 == key)).map (·.2) = table.lookup key := by
  induction table with
  | nil => rfl
  | cons p table ih =>
    obtain ⟨k, v⟩ := p
    by_cases h : key = k
    · rw [h, List.lookup_cons_self, List.find?_cons_of_pos (by simp)]
      rfl
    · rw [List.lookup_cons, beq_eq_false_iff_ne.mpr h, ← ih,
        List.find?_cons_of_neg (by simpa using Ne.symm h)]

/-! ### Leading words -/

@[simp]
theorem after?_self_append (word r : List α) : after? word (word ++ r) = some r := by
  have hp : word.isPrefixOf (word ++ r) = true := List.isPrefixOf_iff_prefix.mpr ⟨r, rfl⟩
  rw [after?, if_pos hp, List.drop_left]

theorem after?_cons_of_ne {x y : α} (h : x ≠ y) (word r : List α) :
    after? (x :: word) (y :: r) = none := by
  have hp : (x :: word).isPrefixOf (y :: r) = false := by simp [List.isPrefixOf, h]
  rw [after?, hp]
  rfl

/-! ### Pieces -/

theorem pieces_cons_of_ne {sep x : α} (h : x ≠ sep) (r : List α) :
    ∃ p ps, pieces sep r = p :: ps ∧ pieces sep (x :: r) = (x :: p) :: ps := by
  obtain ⟨p, ps, hp⟩ := List.exists_cons_of_ne_nil (pieces_ne_nil sep r)
  refine ⟨p, ps, hp, ?_⟩
  rw [pieces, hp]
  simp [h]

theorem pieces_sep_cons (sep : α) (r : List α) : pieces sep (sep :: r) = [] :: pieces sep r := by
  obtain ⟨p, ps, hp⟩ := List.exists_cons_of_ne_nil (pieces_ne_nil sep r)
  rw [pieces, hp]
  simp

/-- **A list is cut at its first separator.** -/
theorem pieces_append {sep : α} (r : List α) :
    ∀ {l : List α}, sep ∉ l → pieces sep (l ++ sep :: r) = l :: pieces sep r
  | [], _ => pieces_sep_cons sep r
  | x :: l, h => by
    rw [List.mem_cons, not_or] at h
    obtain ⟨p, ps, hp, hx⟩ := pieces_cons_of_ne (Ne.symm h.1) (l ++ sep :: r)
    rw [pieces_append r h.2, List.cons.injEq] at hp
    rw [List.cons_append, hx, ← hp.1, ← hp.2]

theorem pieces_of_not_mem {sep : α} : ∀ {l : List α}, sep ∉ l → pieces sep l = [l]
  | [], _ => rfl
  | x :: l, h => by
    rw [List.mem_cons, not_or] at h
    obtain ⟨p, ps, hp, hx⟩ := pieces_cons_of_ne (Ne.symm h.1) l
    rw [pieces_of_not_mem h.2, List.cons.injEq] at hp
    rw [hx, ← hp.1, ← hp.2]

/-- What holds no separator only makes the first piece longer. -/
theorem pieces_append_left {sep : α} (r : List α) : ∀ {l : List α}, sep ∉ l →
    ∃ p ps, pieces sep r = p :: ps ∧ pieces sep (l ++ r) = (l ++ p) :: ps
  | [], _ => by
    obtain ⟨p, ps, hp⟩ := List.exists_cons_of_ne_nil (pieces_ne_nil sep r)
    exact ⟨p, ps, hp, hp⟩
  | x :: l, h => by
    rw [List.mem_cons, not_or] at h
    obtain ⟨p, ps, hr, hlr⟩ := pieces_append_left r h.2
    obtain ⟨q, qs, hq, hx⟩ := pieces_cons_of_ne (Ne.symm h.1) (l ++ r)
    rw [hlr, List.cons.injEq] at hq
    refine ⟨p, ps, hr, ?_⟩
    rw [List.cons_append, hx, ← hq.1, ← hq.2, List.cons_append]

/-- Several pieces, each followed by a separator. -/
theorem pieces_flatMap_append {sep : α} (r : List α) :
    ∀ {ls : List (List α)}, (∀ l ∈ ls, sep ∉ l) →
      pieces sep (ls.flatMap (· ++ [sep]) ++ r) = ls ++ pieces sep r
  | [], _ => rfl
  | l :: ls, h => by
    have hl : sep ∉ l := h l (by simp)
    have ih := pieces_flatMap_append r fun l' hl' => h l' (List.mem_cons_of_mem l hl')
    rw [List.flatMap_cons, List.append_assoc, List.append_assoc, List.singleton_append,
      pieces_append _ hl, ih, List.cons_append]

/-- A separator at the end of the first part cuts the parts from each other. -/
theorem pieces_append_of_getLast {sep : α} (l r : List α) :
    pieces sep (l ++ [sep] ++ r) = pieces sep l ++ pieces sep r := by
  induction l with
  | nil => exact pieces_sep_cons sep r
  | cons x l ih =>
    by_cases h : x = sep
    · subst h
      rw [List.cons_append, List.cons_append, pieces_sep_cons, pieces_sep_cons, ih,
        List.cons_append]
    · obtain ⟨p, ps, hp, hx⟩ := pieces_cons_of_ne h (l ++ [sep] ++ r)
      obtain ⟨q, qs, hq, hx'⟩ := pieces_cons_of_ne h l
      rw [ih, hq, List.cons_append, List.cons.injEq] at hp
      rw [List.cons_append, List.cons_append, hx, hx', ← hp.1, ← hp.2, List.cons_append]

/-- The pieces of a list, joined again, are the list. -/
theorem join_pieces (sep : α) : ∀ l : List α, join [sep] (pieces sep l) = l
  | [] => rfl
  | x :: r => by
    have ih := join_pieces sep r
    by_cases h : x = sep
    · rw [h, pieces_sep_cons, join_cons_of_ne_nil _ _ (pieces_ne_nil sep r), ih]
      rfl
    · obtain ⟨p, ps, hp, hx⟩ := pieces_cons_of_ne h r
      have hfirst : join [sep] ((x :: p) :: ps) = x :: join [sep] (p :: ps) :=
        join_cons_append [sep] [x] p ps
      rw [hx, hfirst, ← hp, ih]

/-- Joined pieces without separators in them are cut where they were joined. -/
theorem pieces_join {sep : α} : ∀ {ps : List (List α)}, ps ≠ [] → (∀ p ∈ ps, sep ∉ p) →
    pieces sep (join [sep] ps) = ps
  | [], h, _ => absurd rfl h
  | [p], _, h => pieces_of_not_mem (h p (List.mem_singleton_self p))
  | p :: q :: r, _, h => by
    have hp := h p List.mem_cons_self
    rw [join, List.append_assoc, List.singleton_append, pieces_append _ hp,
      pieces_join (List.cons_ne_nil q r) fun p' hp' => h p' (List.mem_cons_of_mem p hp')]

/-- The last of several joined lists are pieces if there are no separators in them. -/
theorem pieces_join_append {sep : α} {ps qs : List (List α)} (hps : ps ≠ [])
    (hqs : qs ≠ []) (h : ∀ q ∈ qs, sep ∉ q) :
    pieces sep (join [sep] (ps ++ qs)) = pieces sep (join [sep] ps) ++ qs := by
  rw [join_append [sep] hqs hps, pieces_append_of_getLast, pieces_join hqs h]

theorem mem_of_mem_pieces {sep x : α} {l p : List α} (hp : p ∈ pieces sep l) (hx : x ∈ p) :
    x ∈ l ∧ x ≠ sep := by
  induction l generalizing p with
  | nil =>
    rw [List.mem_singleton.mp hp] at hx
    cases hx
  | cons y r ih =>
    by_cases h : y = sep
    · rw [h, pieces_sep_cons] at hp
      rcases List.mem_cons.mp hp with rfl | hp
      · cases hx
      · exact ⟨List.mem_cons_of_mem y (ih hp hx).1, (ih hp hx).2⟩
    · obtain ⟨q, qs, hq, hy⟩ := pieces_cons_of_ne h r
      rw [hy] at hp
      rw [hq] at ih
      rcases List.mem_cons.mp hp with rfl | hp
      · rcases List.mem_cons.mp hx with rfl | hx
        · exact ⟨List.mem_cons_self, h⟩
        · exact ⟨List.mem_cons_of_mem y (ih List.mem_cons_self hx).1, (ih List.mem_cons_self hx).2⟩
      · have hmem := ih (List.mem_cons_of_mem q hp) hx
        exact ⟨List.mem_cons_of_mem y hmem.1, hmem.2⟩

end HouseRules.Search
