import HouseRules.History.Repository
import Mathlib.Data.Finset.Card
import Mathlib.Data.List.TakeWhile

/-! # The order of the latest uses

A cache of blobs lists them by their latest use. `order` gives this order for a list of uses, and
`kept` the cache that these uses leave (`use_kept`). A blob is kept as long as fewer than `bound`
others were used since its latest use (`mem_take_order`). -/

namespace HouseRules.BlobCache

/-- The names of used blobs, the latest use first, each of them once. The uses are given from the
latest on. -/
def order : List String → List String
  | [] => []
  | x :: uses => x :: (order uses).filter (· != x)

theorem mem_order {x : String} : ∀ {uses : List String}, x ∈ order uses ↔ x ∈ uses
  | [] => Iff.rfl
  | y :: uses => by
    simp only [order, List.mem_cons, List.mem_filter, mem_order, bne_iff_ne]
    by_cases h : x = y
    · simp [h]
    · simp [h]

theorem nodup_order : ∀ uses : List String, (order uses).Nodup
  | [] => List.nodup_nil
  | y :: uses => by
    refine List.nodup_cons.mpr ⟨?_, (nodup_order uses).filter _⟩
    simp

/-! ### Uses since the latest use of a blob -/

/-- Filtering out another element does not move the first place of `x`. -/
theorem takeWhile_filter_ne {x y : String} (h : y ≠ x) : ∀ l : List String,
    (l.filter (· != y)).takeWhile (· != x) = (l.takeWhile (· != x)).filter (· != y)
  | [] => rfl
  | z :: l => by
    by_cases hzx : z = x
    · subst hzx
      simp [Ne.symm h]
    · by_cases hzy : z = y
      · subst hzy
        simp [hzx, takeWhile_filter_ne h l]
      · simp [hzx, hzy, takeWhile_filter_ne h l]

theorem takeWhile_order_cons {x y : String} (h : y ≠ x) (uses : List String) :
    (order (y :: uses)).takeWhile (· != x) =
      y :: ((order uses).takeWhile (· != x)).filter (· != y) := by
  rw [order, List.takeWhile_cons, if_pos (by simpa using h), takeWhile_filter_ne h]

theorem mem_takeWhile_order {x z : String} : ∀ uses : List String,
    z ∈ (order uses).takeWhile (· != x) ↔ z ∈ uses.takeWhile (· != x)
  | [] => Iff.rfl
  | y :: uses => by
    by_cases h : y = x
    · subst h
      simp [order]
    · rw [takeWhile_order_cons h, List.takeWhile_cons, if_pos (by simpa using h)]
      simp only [List.mem_cons, List.mem_filter, mem_takeWhile_order uses, bne_iff_ne]
      by_cases hz : z = y
      · simp [hz]
      · simp [hz]

/-- The place of a blob in the order is the number of blobs used since its latest use. -/
theorem length_takeWhile_order (x : String) (uses : List String) :
    ((order uses).takeWhile (· != x)).length = (uses.takeWhile (· != x)).toFinset.card := by
  have hnodup : ((order uses).takeWhile (· != x)).Nodup :=
    (List.takeWhile_sublist _).nodup (nodup_order uses)
  rw [← List.toFinset_card_of_nodup hnodup]
  congr 1
  ext z
  simp only [List.mem_toFinset, mem_takeWhile_order]

theorem mem_take_iff {x : String} : ∀ {l : List String} {n : Nat},
    x ∈ l.take n ↔ x ∈ l ∧ (l.takeWhile (· != x)).length < n
  | [], n => by simp
  | y :: l, 0 => by simp
  | y :: l, n + 1 => by
    rw [List.take_succ_cons, List.mem_cons, mem_take_iff]
    by_cases h : y = x
    · simp [h]
    · simp [h, Ne.symm h]

/-- **A blob is kept as long as fewer than `bound` others were used since.** -/
theorem mem_take_order {x : String} {uses : List String} {bound : Nat} :
    x ∈ (order uses).take bound ↔
      x ∈ uses ∧ (uses.takeWhile (· != x)).toFinset.card < bound := by
  rw [mem_take_iff, mem_order, length_takeWhile_order]

/-! ### The cache that uses leave -/

/-- The cache after some uses of blobs with the given contents, the latest use first. -/
def kept (content : String → Bytes) (bound : Nat) (uses : List String) : BlobCache :=
  ((order uses).take bound).map fun id => (id, content id)

variable {content : String → Bytes} {bound : Nat} {uses : List String} {id : String}

theorem length_kept_le (content : String → Bytes) (bound : Nat) (uses : List String) :
    (kept content bound uses).length ≤ bound := by
  simp [kept]

theorem get?_kept_of_mem (h : id ∈ (order uses).take bound) :
    (kept content bound uses).get? id = some (content id) := by
  have hfind : ∀ {l : List String}, id ∈ l →
      get? (l.map fun x => (x, content x)) id = some (content id) := by
    intro l hl
    induction l with
    | nil => cases hl
    | cons y l ih =>
      by_cases hy : y = id
      · simp [get?, hy]
      · have hl' : id ∈ l := by simpa [Ne.symm hy] using hl
        simpa [get?, hy] using ih hl'
  exact hfind h

theorem get?_kept_of_not_mem (h : id ∉ (order uses).take bound) :
    (kept content bound uses).get? id = none := by
  have hfind : ((order uses).take bound).find? (· == id) = none := by
    rw [List.find?_eq_none]
    intro x hx hxid
    rw [beq_iff_eq] at hxid
    exact h (hxid ▸ hx)
  simp only [get?, kept, List.find?_map, Option.map_eq_none_iff]
  exact hfind

/-- Taking `n` elements before or after one of them is filtered out leaves the same `n - 1`. -/
theorem take_filter_take {x : String} : ∀ {l : List String} (n : Nat), l.Nodup →
    (l.filter (· != x)).take n = ((l.take (n + 1)).filter (· != x)).take n
  | [], _, _ => rfl
  | y :: l, n, h => by
    have hl : l.Nodup := (List.nodup_cons.mp h).2
    by_cases hy : y = x
    · have hne : ∀ l' : List String, l' ⊆ l → l'.filter (· != x) = l' := by
        intro l' hsub
        refine List.filter_eq_self.mpr fun z hz => ?_
        have hz' : z ≠ x := fun hzx => (List.nodup_cons.mp h).1 (hy ▸ hzx ▸ hsub hz)
        simpa using hz'
      rw [List.take_succ_cons, List.filter_cons_of_neg (by simp [hy]),
        List.filter_cons_of_neg (by simp [hy]), hne l (List.Subset.refl l),
        hne _ (List.take_subset n l), List.take_take, Nat.min_self]
    · rw [List.take_succ_cons, List.filter_cons_of_pos (by simpa using hy),
        List.filter_cons_of_pos (by simpa using hy)]
      cases n with
      | zero => rfl
      | succ n => rw [List.take_succ_cons, List.take_succ_cons, take_filter_take n hl]

/-- **One more use of a blob.** -/
theorem use_kept (content : String → Bytes) (bound : Nat) (uses : List String) (id : String) :
    (kept content bound uses).use bound id (content id) = kept content bound (id :: uses) := by
  have hfilter : ∀ l : List String,
      (l.map fun x => (x, content x)).filter (fun q => q.1 != id) =
        (l.filter (· != id)).map fun x => (x, content x) := by
    intro l
    rw [List.filter_map]
    rfl
  cases bound with
  | zero => simp [use, kept]
  | succ n =>
    simp only [use, kept, hfilter, order, List.take_succ_cons, List.map_cons, ← List.map_take]
    rw [← take_filter_take n (nodup_order uses)]

end HouseRules.BlobCache
