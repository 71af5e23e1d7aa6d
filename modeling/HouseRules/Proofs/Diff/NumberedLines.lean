import HouseRules.Proofs.Text.Lines
import Mathlib.Data.List.Chain
import Mathlib.Data.List.Forall2

/-! # Numbered lines of a blob

The changes for a list of numbers are those of the lines with these numbers, in the order of the
list (`changesForLines_eq`). Which bytes are line `n` can be told from the line feeds alone
(`LineAt`), and a number has a change if and only if some bytes are its line (`hasLine_iff`).

The changes for all numbers from one on tile the blob (`Tiles`): each starts where the one before it
ends, and together they cover it (`tiles_mapIdx_changeOf`). -/

namespace HouseRules.Diff

open Bytes

/-- Line `n` of a blob, counted from one. -/
def rawLine? (blob : Bytes) (n : Int) : Option Bytes :=
  if 1 ≤ n then (cutLines blob)[(n - 1).toNat]? else none

/-- The change that adds line `n`. -/
def changeOf (id : String) (blob : Bytes) (n : Int) (line : Bytes) : Change where
  content := Utf8.decodeLossy line
  range := ⟨(lineOffset blob (n - 1).toNat : Nat),
    (lineOffset blob (n - 1).toNat + line.length : Nat)⟩
  blob := id

theorem rawLine?_eq_some_iff {blob line : Bytes} {n : Int} :
    rawLine? blob n = some line ↔ ∃ k : Nat, n = k + 1 ∧ (cutLines blob)[k]? = some line := by
  unfold rawLine?
  constructor
  · intro h
    split at h
    · exact ⟨(n - 1).toNat, by omega, h⟩
    · cases h
  · rintro ⟨k, rfl, h⟩
    rw [if_pos (by omega), Int.add_sub_cancel, Int.toNat_natCast, h]

theorem changeOf_succ (id : String) (blob : Bytes) (k : Nat) (line : Bytes) :
    changeOf id blob (k + 1) line = ⟨Utf8.decodeLossy line,
      ⟨(lineOffset blob k : Nat), (lineOffset blob k + line.length : Nat)⟩, id⟩ := by
  rw [changeOf, Int.add_sub_cancel, Int.toNat_natCast]

theorem lineRange?_eq (blob : Bytes) (n : Int) : lineRange? (lineStarts blob) blob.length n =
    (rawLine? blob n).map fun line =>
      (lineOffset blob (n - 1).toNat, lineOffset blob (n - 1).toNat + line.length) := by
  by_cases hn : 1 ≤ n
  · have hnat : n = (((n - 1).toNat + 1 : Nat) : Int) := by omega
    have hrange := lineRange?_lineStarts blob (n - 1).toNat
    rw [← hnat] at hrange
    rw [rawLine?, if_pos hn, hrange]
  · rw [rawLine?, if_neg hn, lineRange?, if_pos (by omega)]
    rfl

theorem changeAt_eq {id : String} {blob line : Bytes} {n : Int}
    (h : rawLine? blob n = some line) :
    changeAt id blob (lineOffset blob (n - 1).toNat)
      (lineOffset blob (n - 1).toNat + line.length) = changeOf id blob n line := by
  obtain ⟨k, rfl, hk⟩ := rawLine?_eq_some_iff.mp h
  rw [changeOf_succ, Int.add_sub_cancel, Int.toNat_natCast, changeAt, ← slice_natCast,
    slice_line_self hk]

/-- **One change is built for a line that there is.** -/
theorem changesForLines_eq (id : String) (blob : Bytes) (ns : List Int) :
    changesForLines id blob ns =
      ns.filterMap fun n => (rawLine? blob n).map (changeOf id blob n) := by
  rw [changesForLines]
  refine List.filterMap_congr fun n _ => ?_
  rw [lineRange?_eq, Option.map_map]
  cases hline : rawLine? blob n with
  | none => rfl
  | some line => exact congrArg some (changeAt_eq hline)

theorem changesForLines_singleton (id : String) (blob : Bytes) (n : Int) :
    changesForLines id blob [n] = ((rawLine? blob n).map (changeOf id blob n)).toList := by
  rw [changesForLines_eq, List.filterMap_cons]
  cases rawLine? blob n <;> rfl

theorem mem_changesForLines {id : String} {blob : Bytes} {ns : List Int} {c : Change} :
    c ∈ changesForLines id blob ns ↔
      ∃ n ∈ ns, ∃ line, rawLine? blob n = some line ∧ c = changeOf id blob n line := by
  simp only [changesForLines_eq, List.mem_filterMap, Option.map_eq_some_iff, eq_comm (a := c)]

/-! ### Lines told by their line feeds -/

/-- The bytes from `start` to `stop` are line `n` of a blob, counted from one. -/
structure LineAt (blob : Bytes) (n : Int) (start stop : Nat) : Prop where
  /-- There are such bytes. -/
  nonempty : start < stop
  /-- They are bytes of the blob. -/
  inside : stop ≤ blob.length
  /-- The line starts at the beginning, or behind a line feed. -/
  begins : start = 0 ∨ blob[start - 1]? = some newline
  /-- The line ends at the end, or with a line feed. -/
  ends : stop = blob.length ∨ blob[stop - 1]? = some newline
  /-- Only its last byte may be a line feed. -/
  single : ∀ i, start ≤ i → i < stop - 1 → blob[i]? ≠ some newline
  /-- Before it stands a line feed for each earlier line. -/
  number : n = (blob.take start).count newline + 1

/-- Some bytes of the blob are line `n`. -/
def HasLine (blob : Bytes) (n : Int) : Prop := ∃ start stop, LineAt blob n start stop

/-- The last byte before a further line is a line feed. -/
theorem getElem?_before_line {blob line : Bytes} {k : Nat}
    (h : (cutLines blob)[k + 1]? = some line) :
    blob[lineOffset blob (k + 1) - 1]? = some newline := by
  obtain ⟨hk, -⟩ := List.getElem?_eq_some_iff.mp h
  obtain ⟨l, hl⟩ : ∃ l, (cutLines blob)[k]? = some l :=
    ⟨_, List.getElem?_eq_getElem (Nat.lt_of_succ_lt hk)⟩
  obtain ⟨hne, -⟩ := mem_cutLines (List.mem_of_getElem? hl)
  have hpos : 0 < l.length := List.length_pos_iff.mpr hne
  have hlast := getLast?_of_getElem?_succ hl h
  rw [List.getLast?_eq_getElem?] at hlast
  rw [lineOffset_succ hl, Nat.add_sub_assoc hpos, getElem?_lineOffset_add hl (by omega), hlast]

/-- **A line stands at its offset.** -/
theorem lineAt_of_getElem? {blob line : Bytes} {k : Nat} (h : (cutLines blob)[k]? = some line) :
    LineAt blob (k + 1) (lineOffset blob k) (lineOffset blob k + line.length) := by
  obtain ⟨hk, -⟩ := List.getElem?_eq_some_iff.mp h
  obtain ⟨hne, hn⟩ := mem_cutLines (List.mem_of_getElem? h)
  have hpos : 0 < line.length := List.length_pos_iff.mpr hne
  refine ⟨by omega, lineOffset_le h, ?_, ?_, fun i hstart hstop hi => ?_, ?_⟩
  · cases k with
    | zero => exact Or.inl rfl
    | succ k => exact Or.inr (getElem?_before_line h)
  · -- Behind the line stands a further line, or nothing.
    rw [← lineOffset_succ h]
    cases hm : (cutLines blob)[k + 1]? with
    | some m => exact Or.inr (getElem?_before_line hm)
    | none =>
      have hlen : (cutLines blob).length = k + 1 :=
        Nat.le_antisymm (List.getElem?_eq_none_iff.mp hm) hk
      exact Or.inl (hlen ▸ lineOffset_length blob)
  · obtain ⟨j, rfl⟩ := Nat.exists_eq_add_of_le hstart
    have hj : j < line.length - 1 := by omega
    rw [getElem?_lineOffset_add h (by omega), ← List.getElem?_take_of_lt hj,
      ← List.dropLast_eq_take] at hi
    exact hn (List.mem_of_getElem? hi)
  · rw [count_newline_lineOffset hk]

/-- **The numbers that denote a line** are those for which there is one among the cut lines. -/
theorem hasLine_iff {blob : Bytes} {n : Int} : HasLine blob n ↔ (rawLine? blob n).isSome := by
  constructor
  · rintro ⟨start, stop, h⟩
    have hstart : start < blob.length := Nat.lt_of_lt_of_le h.nonempty h.inside
    have hline := List.getElem?_eq_getElem (count_newline_lt hstart)
    rw [rawLine?_eq_some_iff.mpr ⟨_, h.number, hline⟩]
    rfl
  · intro h
    obtain ⟨line, hline⟩ := Option.isSome_iff_exists.mp h
    obtain ⟨k, rfl, hk⟩ := rawLine?_eq_some_iff.mp hline
    exact ⟨_, _, lineAt_of_getElem? hk⟩

instance (blob : Bytes) (n : Int) : Decidable (HasLine blob n) :=
  decidable_of_iff _ hasLine_iff.symm

/-- The change of a line says which bytes the line is, and what they decode to. -/
theorem changeOf_eq {id : String} {blob line : Bytes} {n : Int} (h : rawLine? blob n = some line) :
    ∃ start stop : Nat, LineAt blob n start stop ∧ changeOf id blob n line =
      ⟨Utf8.decodeLossy (slice blob start stop), ⟨start, stop⟩, id⟩ := by
  obtain ⟨k, rfl, hk⟩ := rawLine?_eq_some_iff.mp h
  refine ⟨_, _, lineAt_of_getElem? hk, ?_⟩
  rw [changeOf_succ, slice_line_self hk]

/-- **One change for each number that denotes a line**, in the order of the numbers. -/
theorem forall₂_changesForLines (id : String) (blob : Bytes) (numbers : List Int) :
    List.Forall₂ (fun n c => ∃ start stop : Nat, LineAt blob n start stop ∧
        c = ⟨Utf8.decodeLossy (slice blob start stop), ⟨start, stop⟩, id⟩)
      (numbers.filter (HasLine blob ·)) (changesForLines id blob numbers) := by
  rw [changesForLines_eq]
  induction numbers with
  | nil => exact .nil
  | cons n numbers ih =>
    cases h : rawLine? blob n with
    | none =>
      have hnot : ¬ HasLine blob n := by rw [hasLine_iff, h]; decide
      rw [List.filter_cons_of_neg (by simpa using hnot), List.filterMap_cons_none (by rw [h]; rfl)]
      exact ih
    | some line =>
      have hhas : HasLine blob n := by rw [hasLine_iff, h]; rfl
      rw [List.filter_cons_of_pos (by simpa using hhas),
        List.filterMap_cons_some (by rw [h]; rfl)]
      exact .cons (changeOf_eq h) ih

/-! ### Tiles -/

/-- The ranges of the changes cover the blob, one behind the other. -/
structure Tiles (blob : Bytes) (changes : List Change) : Prop where
  /-- Each change starts where the one before it ends. -/
  consecutive : changes.IsChain fun c d => c.range.stop = d.range.start
  /-- The first change starts at the beginning. -/
  first : ∀ c ∈ changes.head?, c.range.start = 0
  /-- The last change ends at the end. -/
  last : ∀ c ∈ changes.getLast?, c.range.stop = blob.length
  /-- The bytes of the changes are those of the blob. -/
  joined : (changes.flatMap fun c => slice blob c.range.start c.range.stop) = blob

/-- To look up all positions of a list, and more, is to go through the list. -/
theorem filterMap_range_getElem? {α β : Type} : ∀ (l : List α) (f : Nat → α → β) {m : Nat},
    l.length ≤ m → ((List.range m).filterMap fun i => l[i]?.map (f i)) = l.mapIdx f
  | [], f, m, _ => by simp
  | a :: l, f, m + 1, h => by
    have ih := filterMap_range_getElem? l (fun i => f (i + 1)) (Nat.le_of_succ_le_succ h)
    rw [List.range_succ_eq_map, List.filterMap_cons_some (by rfl), List.filterMap_map,
      List.mapIdx_cons, ← ih]
    rfl

/-- The changes for all numbers from one on are those of the lines. -/
theorem changesForLines_range' (id : String) {blob : Bytes} {m : Nat}
    (h : (cutLines blob).length ≤ m) :
    changesForLines id blob ((List.range' 1 m).map Int.ofNat) =
      (cutLines blob).mapIdx fun k line => changeOf id blob (k + 1) line := by
  rw [changesForLines_eq, List.range'_eq_map_range, List.map_map, List.filterMap_map,
    ← filterMap_range_getElem? (cutLines blob) (fun k line => changeOf id blob (k + 1) line) h]
  refine List.filterMap_congr fun k _ => ?_
  have hcast : (Int.ofNat ∘ fun x => 1 + x) k = (k : Int) + 1 := by
    rw [Function.comp_apply, Int.ofNat_eq_natCast]
    omega
  rw [Function.comp_apply, hcast, rawLine?, if_pos (by omega), Int.add_sub_cancel,
    Int.toNat_natCast]

/-- **The changes of the lines tile the blob.** -/
theorem tiles_mapIdx_changeOf (id : String) (blob : Bytes) :
    Tiles blob ((cutLines blob).mapIdx fun k line => changeOf id blob (k + 1) line) where
  consecutive := by
    rw [List.isChain_iff_getElem]
    intro k hk
    rw [List.length_mapIdx] at hk
    simp only [List.getElem_mapIdx, changeOf_succ]
    rw [lineOffset_succ (List.getElem?_eq_getElem (Nat.lt_of_succ_lt hk))]
  first := by
    intro c hc
    rw [List.head?_mapIdx, Option.mem_def, Option.map_eq_some_iff] at hc
    obtain ⟨line, -, rfl⟩ := hc
    rw [changeOf_succ, lineOffset_zero]
    rfl
  last := by
    intro c hc
    rw [List.getLast?_mapIdx, Option.mem_def, Option.map_eq_some_iff] at hc
    obtain ⟨line, hline, rfl⟩ := hc
    rw [List.getLast?_eq_getElem?] at hline
    obtain ⟨hk, -⟩ := List.getElem?_eq_some_iff.mp hline
    have hlen : (cutLines blob).length - 1 + 1 = (cutLines blob).length := by omega
    rw [changeOf_succ, ← lineOffset_succ hline, hlen, lineOffset_length]
  joined := by
    have hslices : (((cutLines blob).mapIdx fun k line => changeOf id blob (k + 1) line).map
        fun c => slice blob c.range.start c.range.stop) = cutLines blob := by
      refine List.ext_getElem? fun k => ?_
      rw [List.getElem?_map, List.getElem?_mapIdx, Option.map_map]
      cases hk : (cutLines blob)[k]? with
      | none => rfl
      | some line =>
        rw [Option.map_some, Function.comp_apply, changeOf_succ]
        exact congrArg some (slice_line_self hk)
    rw [List.flatMap_def, hslices, flatten_cutLines]

theorem length_cutLines_le (b : Bytes) : (cutLines b).length ≤ b.count newline + 1 := by
  cases h : (cutLines b).length with
  | zero => omega
  | succ k =>
    have hcount := count_newline_lineOffset (b := b) (k := k) (by omega)
    have hle := (List.take_sublist (lineOffset b k) b).count_le newline
    omega

/-- **Changes tile their blob.** For any numbers there is one change for each that denotes a line
of the blob, in order: it covers the bytes of the line and holds what they decode to. For the
numbers from one to at least the number of line feeds and one more, the changes tile the blob. -/
theorem changesForLines_tiles (id : String) (blob : Bytes) :
    (∀ numbers : List Int,
      List.Forall₂ (fun n c => ∃ start stop : Nat, LineAt blob n start stop ∧
          c = ⟨Utf8.decodeLossy (slice blob start stop), ⟨start, stop⟩, id⟩)
        (numbers.filter (HasLine blob ·)) (changesForLines id blob numbers)) ∧
    ∀ m : Nat, blob.count newline + 1 ≤ m →
      Tiles blob (changesForLines id blob ((List.range' 1 m).map Int.ofNat)) := by
  refine ⟨forall₂_changesForLines id blob, fun m hm => ?_⟩
  rw [changesForLines_range' id (Nat.le_trans (length_cutLines_le blob) hm)]
  exact tiles_mapIdx_changeOf id blob

/-- Of a blob with an empty line in the middle and no line feed at its end, the numbers of lines
come through in any order and again and again, all others are dropped. -/
theorem changesForLines_tiles_unordered :
    [3, 0, -1, 4, 1, 3].filter (HasLine (Bytes.ofAscii "a\n\nb") ·) = [3, 1, 3] ∧
    (changesForLines "x" (Bytes.ofAscii "a\n\nb") [3, 0, -1, 4, 1, 3]).length = 3 ∧
    (Bytes.ofAscii "a\n\nb").count newline + 1 ≤ 5 ∧
    Tiles (Bytes.ofAscii "a\n\nb")
      (changesForLines "x" (Bytes.ofAscii "a\n\nb") ((List.range' 1 5).map Int.ofNat)) := by
  obtain ⟨hchanges, htiles⟩ := changesForLines_tiles "x" (Bytes.ofAscii "a\n\nb")
  have hfilter : [3, 0, -1, 4, 1, 3].filter (HasLine (Bytes.ofAscii "a\n\nb") ·) = [3, 1, 3] := by
    decide
  have hlength := (hchanges [3, 0, -1, 4, 1, 3]).length_eq
  rw [hfilter] at hlength
  have hcount : (Bytes.ofAscii "a\n\nb").count newline + 1 ≤ 5 := by decide
  exact ⟨hfilter, hlength.symm, hcount, htiles 5 hcount⟩

end HouseRules.Diff
