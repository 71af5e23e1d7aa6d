import HouseRules.Diff.Line
import Mathlib.Data.List.Basic

/-! # Lines of a byte string

`Bytes.cutLines` cuts a byte string behind each line feed into its lines, none of them empty; only
the last may lack its line feed. Joined they are the string again (`flatten_cutLines`).

The offsets at which lines start are found without the lines. Both agree: line `k`, counted from
zero, covers the range that the offsets give for the number `k + 1` (`lineRange?_lineStarts`), and
the line in which an offset lies is the number of line feeds before it
(`length_takeWhile_lineStarts`). -/

namespace HouseRules

namespace Bytes

/-- The lines of a byte string, each with its line feed if it has one. -/
def cutLines : Bytes → List Bytes
  | [] => []
  | x :: r =>
    if x = newline then [x] :: cutLines r
    else match cutLines r with
      | [] => [[x]]
      | l :: ls => (x :: l) :: ls

/-- The offset of line `k`. -/
def lineOffset (b : Bytes) (k : Nat) : Nat := ((cutLines b).take k).flatten.length

theorem cutLines_newline_cons (r : Bytes) : cutLines (newline :: r) = [newline] :: cutLines r := by
  rw [cutLines, if_pos rfl]

theorem cutLines_eq_nil_iff {b : Bytes} : cutLines b = [] ↔ b = [] := by
  constructor
  · intro h
    rcases b with _ | ⟨x, r⟩
    · rfl
    · rw [cutLines] at h
      split at h
      · cases h
      · split at h <;> cases h
  · rintro rfl
    rfl

/-- A first line is longer by the byte in front of it. -/
theorem cutLines_cons_of_ne {x : UInt8} (hx : x ≠ newline) (r : Bytes) :
    cutLines (x :: r) = (x :: (cutLines r).headD []) :: (cutLines r).tail := by
  rw [cutLines, if_neg hx]
  cases cutLines r <;> rfl

theorem flatten_cutLines : ∀ b : Bytes, (cutLines b).flatten = b
  | [] => rfl
  | x :: r => by
    have ih := flatten_cutLines r
    by_cases hx : x = newline
    · rw [hx, cutLines_newline_cons, List.flatten_cons, ih]
      rfl
    · rw [cutLines_cons_of_ne hx]
      cases hr : cutLines r with
      | nil => rw [cutLines_eq_nil_iff.mp hr]; rfl
      | cons l ls =>
        rw [hr, List.flatten_cons] at ih
        rw [List.headD_cons, List.tail_cons, List.flatten_cons, List.cons_append, ih]

/-- A line feed stands only at the end of a line, and no line is empty. -/
theorem mem_cutLines : ∀ {b l : Bytes}, l ∈ cutLines b →
    l ≠ [] ∧ newline ∉ l.dropLast
  | [], l, h => by cases h
  | x :: r, l, h => by
    by_cases hx : x = newline
    · rw [hx, cutLines_newline_cons, List.mem_cons] at h
      rcases h with rfl | h
      · exact ⟨by simp, by simp⟩
      · exact mem_cutLines h
    · rw [cutLines_cons_of_ne hx, List.mem_cons] at h
      rcases h with rfl | h
      · refine ⟨by simp, ?_⟩
        cases hr : cutLines r with
        | nil => simp
        | cons m ms =>
          obtain ⟨hm, hn⟩ := mem_cutLines (b := r) (l := m) (by rw [hr]; exact List.mem_cons_self)
          rw [List.headD_cons, List.dropLast_cons_of_ne_nil hm, List.mem_cons, not_or]
          exact ⟨Ne.symm hx, hn⟩
      · exact mem_cutLines (List.mem_of_mem_tail h)

/-- Every line but the last ends in a line feed. -/
theorem getLast?_of_getElem?_succ : ∀ {b : Bytes} {k : Nat} {l m : Bytes},
    (cutLines b)[k]? = some l → (cutLines b)[k + 1]? = some m → l.getLast? = some newline
  | [], k, l, m, h, _ => by cases h
  | x :: r, k, l, m, h, h' => by
    by_cases hx : x = newline
    · rw [hx, cutLines_newline_cons] at h h'
      cases k with
      | zero =>
        rw [List.getElem?_cons_zero, Option.some.injEq] at h
        rw [← h]
        rfl
      | succ k =>
        rw [List.getElem?_cons_succ] at h h'
        exact getLast?_of_getElem?_succ h h'
    · rw [cutLines_cons_of_ne hx] at h h'
      cases hr : cutLines r with
      | nil => rw [hr] at h'; simp at h'
      | cons n ns =>
        rw [hr] at h h'
        cases k with
        | zero =>
          have hn : n.getLast? = some newline :=
            getLast?_of_getElem?_succ (b := r) (k := 0) (m := m) (by rw [hr]; rfl)
              (by rw [hr]; simpa using h')
          rw [List.getElem?_cons_zero, Option.some.injEq] at h
          rw [← h, List.headD_cons, List.getLast?_cons, hn]
          rfl
        | succ k =>
          refine getLast?_of_getElem?_succ (b := r) (k := k + 1) (m := m) ?_ ?_
          · rw [hr]; simpa using h
          · rw [hr]; simpa using h'

/-! ### Offsets of lines -/

theorem slice_natCast (b : Bytes) (lo hi : Nat) :
    slice b (lo : Int) (hi : Int) = (b.take hi).drop lo := by
  have hpos : ∀ i : Nat, position b.length (i : Int) = min i b.length := by
    intro i
    rw [position, if_neg (by omega), Int.toNat_natCast]
  rw [slice, hpos, hpos, ← List.take_eq_take_min]
  rcases Nat.le_total lo b.length with h | h
  · rw [Nat.min_eq_left h]
  · have hlen := List.length_take_le' hi b
    rw [Nat.min_eq_right h, List.drop_eq_nil_of_le hlen,
      List.drop_eq_nil_of_le (Nat.le_trans hlen h)]

theorem lineOffset_zero (b : Bytes) : lineOffset b 0 = 0 := rfl

theorem lineOffset_newline_cons (r : Bytes) (k : Nat) :
    lineOffset (newline :: r) (k + 1) = lineOffset r k + 1 := by
  rw [lineOffset, cutLines_newline_cons, List.take_succ_cons, List.flatten_cons, List.length_append]
  exact Nat.add_comm _ _

theorem lineOffset_cons_of_ne {x : UInt8} (hx : x ≠ newline) (r : Bytes) (k : Nat) :
    lineOffset (x :: r) (k + 1) = lineOffset r (k + 1) + 1 := by
  rw [lineOffset, cutLines_cons_of_ne hx, lineOffset]
  cases cutLines r with
  | nil => simp
  | cons l ls => simp

theorem lt_of_mem_lineStartsFrom : ∀ {b : Bytes} {i s : Nat}, s ∈ lineStartsFrom i b → i < s
  | [], i, s, h => by cases h
  | x :: r, i, s, h => by
    rw [lineStartsFrom] at h
    split at h
    · rcases List.mem_cons.mp h with rfl | h
      · exact Nat.lt_succ_self i
      · exact Nat.lt_of_succ_lt (lt_of_mem_lineStartsFrom h)
    · exact Nat.lt_of_succ_lt (lt_of_mem_lineStartsFrom h)

theorem length_takeWhile_lineStartsFrom : ∀ (b : Bytes) (i o : Nat),
    ((lineStartsFrom i b).takeWhile fun (s : Nat) => (s : Int) ≤ ((i + o : Nat) : Int)).length =
      (b.take o).count newline
  | [], i, o => by simp [lineStartsFrom]
  | x :: r, i, 0 => by
    cases hc : lineStartsFrom i (x :: r) with
    | nil => rfl
    | cons s ss =>
      have hs : i < s :=
        lt_of_mem_lineStartsFrom (b := x :: r) (by rw [hc]; exact List.mem_cons_self)
      rw [List.takeWhile_cons_of_neg (by simp only [decide_eq_true_eq]; omega)]
      rfl
  | x :: r, i, o + 1 => by
    have ih := length_takeWhile_lineStartsFrom r (i + 1) o
    have hio : i + 1 + o = i + (o + 1) := by omega
    rw [hio] at ih
    rw [lineStartsFrom, List.take_succ_cons]
    split
    · next hx =>
      have hle : ((i + 1 : Nat) : Int) ≤ ((i + (o + 1) : Nat) : Int) := by omega
      rw [List.takeWhile_cons_of_pos (by exact decide_eq_true hle), List.length_cons, ih, hx,
        List.count_cons_self]
    · next hx => rw [ih, List.count_cons_of_ne hx]

/-- The lines that start at or before an offset are one more than the line feeds before it. -/
theorem length_takeWhile_lineStarts (b : Bytes) (o : Nat) :
    ((lineStarts b).takeWhile fun (s : Nat) => (s : Int) ≤ (o : Int)).length =
      (b.take o).count newline + 1 := by
  have h := length_takeWhile_lineStartsFrom b 0 o
  rw [Nat.zero_add] at h
  rw [lineStarts, List.takeWhile_cons_of_pos (by simp), List.length_cons, h]

/-- A line stands at its offset, in front of the lines behind it. -/
theorem eq_append_of_getElem? {b l : Bytes} {k : Nat} (h : (cutLines b)[k]? = some l) :
    ∃ front, b = front ++ l ++ ((cutLines b).drop (k + 1)).flatten ∧
      front.length = lineOffset b k := by
  refine ⟨((cutLines b).take k).flatten, ?_, rfl⟩
  obtain ⟨hk, hl⟩ := List.getElem?_eq_some_iff.mp h
  have hcut : cutLines b = (cutLines b).take k ++ l :: (cutLines b).drop (k + 1) := by
    rw [← hl, ← List.drop_eq_getElem_cons hk, List.take_append_drop]
  have hflat := congrArg List.flatten hcut
  rw [flatten_cutLines, List.flatten_append, List.flatten_cons] at hflat
  rw [List.append_assoc]
  exact hflat

/-- In front of a line stand as many line feeds as lines. -/
theorem count_newline_lineOffset : ∀ {b : Bytes} {k : Nat}, k < (cutLines b).length →
    (b.take (lineOffset b k)).count newline = k
  | b, 0, _ => by rw [lineOffset_zero, List.take_zero, List.count_nil]
  | [], k + 1, h => by cases h
  | x :: r, k + 1, h => by
    by_cases hx : x = newline
    · rw [hx, cutLines_newline_cons, List.length_cons] at h
      rw [hx, lineOffset_newline_cons, List.take_succ_cons, List.count_cons_self,
        count_newline_lineOffset (Nat.lt_of_succ_lt_succ h)]
    · rw [cutLines_cons_of_ne hx, List.length_cons, List.length_tail] at h
      rw [lineOffset_cons_of_ne hx, List.take_succ_cons, List.count_cons_of_ne hx,
        count_newline_lineOffset (by omega)]

/-- A part of a line that starts with it and is not all of it holds no line feed. -/
theorem newline_not_mem_take {b l : Bytes} (hl : l ∈ cutLines b) {j : Nat} (hj : j < l.length) :
    newline ∉ l.take j := by
  obtain ⟨-, hn⟩ := mem_cutLines hl
  intro hm
  refine hn ?_
  rw [List.dropLast_eq_take]
  exact List.mem_of_mem_take (i := j) (by rwa [List.take_take, Nat.min_eq_left (by omega)])

theorem drop_lineOffset {b l : Bytes} {k : Nat} (h : (cutLines b)[k]? = some l) :
    b.drop (lineOffset b k) = l ++ ((cutLines b).drop (k + 1)).flatten := by
  obtain ⟨front, hb, hf⟩ := eq_append_of_getElem? h
  have hdrop : (front ++ (l ++ ((cutLines b).drop (k + 1)).flatten)).drop front.length =
      l ++ ((cutLines b).drop (k + 1)).flatten := List.drop_left
  rwa [← List.append_assoc, ← hb, hf] at hdrop

theorem take_lineOffset_add {b l : Bytes} {k j : Nat} (h : (cutLines b)[k]? = some l)
    (hj : j ≤ l.length) : b.take (lineOffset b k + j) = b.take (lineOffset b k) ++ l.take j := by
  rw [List.take_add, drop_lineOffset h, List.take_append_of_le_length hj]

theorem lineOffset_le {b l : Bytes} {k : Nat} (h : (cutLines b)[k]? = some l) :
    lineOffset b k + l.length ≤ b.length := by
  obtain ⟨front, hb, hf⟩ := eq_append_of_getElem? h
  have hlen := congrArg List.length hb
  rw [List.length_append, List.length_append, hf] at hlen
  omega

theorem lineOffset_succ {b l : Bytes} {k : Nat} (h : (cutLines b)[k]? = some l) :
    lineOffset b (k + 1) = lineOffset b k + l.length := by
  rw [lineOffset, List.take_add_one, h, Option.toList_some, List.flatten_concat,
    List.length_append, lineOffset]

theorem lineOffset_length (b : Bytes) : lineOffset b (cutLines b).length = b.length := by
  rw [lineOffset, List.take_length, flatten_cutLines]

theorem getElem?_lineOffset_add {b l : Bytes} {k j : Nat} (h : (cutLines b)[k]? = some l)
    (hj : j < l.length) : b[lineOffset b k + j]? = l[j]? := by
  rw [← List.getElem?_drop, drop_lineOffset h, List.getElem?_append_left hj]

/-- **A part of a line, cut out of the string.** -/
theorem slice_line {b l : Bytes} {k i j : Nat} (h : (cutLines b)[k]? = some l)
    (hj : j ≤ l.length) :
    slice b ((lineOffset b k + i : Nat) : Int) ((lineOffset b k + j : Nat) : Int) =
      (l.take j).drop i := by
  have hle := lineOffset_le h
  have hlen : (b.take (lineOffset b k)).length = lineOffset b k := by
    rw [List.length_take]
    omega
  have hdrop : (b.take (lineOffset b k) ++ l.take j).drop ((b.take (lineOffset b k)).length + i) =
      (l.take j).drop i := List.drop_length_add_append i
  rwa [hlen, ← take_lineOffset_add h hj, ← slice_natCast] at hdrop

theorem slice_line_self {b l : Bytes} {k : Nat} (h : (cutLines b)[k]? = some l) :
    slice b (lineOffset b k : Nat) (lineOffset b k + l.length : Nat) = l := by
  have hslice := slice_line (i := 0) h (Nat.le_refl l.length)
  rwa [Nat.add_zero, List.drop_zero, List.take_length] at hslice

/-- In the part of the string up to a place in a line stand as many line feeds as lines before it.
-/
theorem count_newline_take {b l : Bytes} {k j : Nat} (h : (cutLines b)[k]? = some l)
    (hj : j < l.length) : (b.take (lineOffset b k + j)).count newline = k := by
  obtain ⟨hk, -⟩ := List.getElem?_eq_some_iff.mp h
  rw [take_lineOffset_add h (Nat.le_of_lt hj), List.count_append, count_newline_lineOffset hk,
    List.count_eq_zero.mpr (newline_not_mem_take (List.mem_of_getElem? h) hj), Nat.add_zero]

/-- A byte lies in the line after as many lines as there are line feeds before it. -/
theorem count_newline_lt : ∀ {b : Bytes} {i : Nat}, i < b.length →
    (b.take i).count newline < (cutLines b).length
  | [], i, h => by cases h
  | x :: r, 0, _ => by
    rw [List.take_zero, List.count_nil, List.length_pos_iff, Ne, cutLines_eq_nil_iff]
    exact List.cons_ne_nil x r
  | x :: r, i + 1, h => by
    have ih := count_newline_lt (b := r) (Nat.lt_of_succ_lt_succ h)
    by_cases hx : x = newline
    · rw [hx, List.take_succ_cons, List.count_cons_self, cutLines_newline_cons, List.length_cons]
      omega
    · rw [List.take_succ_cons, List.count_cons_of_ne hx, cutLines_cons_of_ne hx, List.length_cons,
        List.length_tail]
      omega

end Bytes

namespace Diff

open Bytes

theorem lineRange?_succ (starts : List Nat) (size k : Nat) :
    lineRange? starts size ((k + 1 : Nat) : Int) =
      starts[k]?.bind fun start =>
        if start = starts[k + 1]?.getD size then none
        else some (start, starts[k + 1]?.getD size) := by
  have h1 : (((k + 1 : Nat) : Int) - 1).toNat = k := by omega
  rw [lineRange?, if_neg (by omega), h1, Int.toNat_natCast]
  cases starts[k]? <;> rfl

theorem lineRange?_cons_succ (s : Nat) (starts : List Nat) (size k : Nat) :
    lineRange? (s :: starts) size ((k + 1 + 1 : Nat) : Int) =
      lineRange? starts size ((k + 1 : Nat) : Int) := by
  rw [lineRange?_succ, lineRange?_succ, List.getElem?_cons_succ, List.getElem?_cons_succ]

/-- The ranges of the lines of a string that starts at offset `i`. A byte that ends no line makes
the first line longer and moves the others. -/
theorem lineRange?_lineStartsFrom : ∀ (b : Bytes) (i k : Nat),
    lineRange? (i :: lineStartsFrom i b) (i + b.length) ((k + 1 : Nat) : Int) =
      (cutLines b)[k]?.map fun l => (i + lineOffset b k, i + lineOffset b k + l.length)
  | [], i, k => by
    rw [lineRange?_succ]
    cases k <;> simp [lineStartsFrom, cutLines]
  | x :: r, i, k => by
    have ih := lineRange?_lineStartsFrom r (i + 1)
    have hsize : i + (x :: r).length = i + 1 + r.length := by rw [List.length_cons]; omega
    have hshift : ∀ o, i + (o + 1) = i + 1 + o := fun o => by omega
    by_cases hx : x = newline
    · rw [hsize, hx, lineStartsFrom, if_pos rfl, cutLines_newline_cons]
      cases k with
      | zero => rw [lineRange?_succ]; simp [lineOffset_zero]
      | succ k =>
        rw [lineRange?_cons_succ, ih, lineOffset_newline_cons, hshift (lineOffset r k),
          List.getElem?_cons_succ]
    · rw [hsize, lineStartsFrom, if_neg hx, cutLines_cons_of_ne hx]
      cases k with
      | zero =>
        have ih0 := ih 0
        rw [lineRange?_succ] at ih0 ⊢
        simp only [List.getElem?_cons_zero, List.getElem?_cons_succ, Option.bind_some,
          lineOffset_zero, Option.map_some, List.length_cons] at ih0 ⊢
        cases hr : cutLines r with
        | nil =>
          rw [cutLines_eq_nil_iff.mp hr]
          simp [lineStartsFrom]
        | cons l ls =>
          rw [hr, List.getElem?_cons_zero, Option.map_some] at ih0
          split at ih0
          · cases ih0
          · rw [Option.some.injEq, Prod.mk.injEq] at ih0
            rw [ih0.2, if_neg (by omega), List.headD_cons, Option.some.injEq, Prod.mk.injEq]
            omega
      | succ k =>
        have ihk := ih (k + 1)
        rw [lineRange?_cons_succ] at ihk ⊢
        rw [ihk, lineOffset_cons_of_ne hx, hshift (lineOffset r (k + 1)), List.getElem?_cons_succ,
          List.getElem?_tail]

/-- **The range of a line**: from its offset on, as long as it is. -/
theorem lineRange?_lineStarts (b : Bytes) (k : Nat) :
    lineRange? (lineStarts b) b.length ((k + 1 : Nat) : Int) =
      (cutLines b)[k]?.map fun l => (lineOffset b k, lineOffset b k + l.length) := by
  have h := lineRange?_lineStartsFrom b 0 k
  rw [Nat.zero_add, Nat.zero_add] at h
  exact h

end Diff
end HouseRules
