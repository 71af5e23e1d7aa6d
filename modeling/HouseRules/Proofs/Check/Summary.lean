import HouseRules.Check.Engine
import Mathlib.Algebra.BigOperators.Group.List.Lemmas
import Mathlib.Algebra.Ring.Nat
import Mathlib.Data.List.Dedup

/-! # Summaries

Findings are counted one after the other, each under the name of its check. In the end each check
that found something is counted once, in the order of the first findings, with as many findings as
it has (`countsOf_eq`), so the counts add up to the number of all findings (`tallies_countsOf`). The
line that sums a report up names these numbers (`summarized_ofFindings`). -/

namespace HouseRules

/-! ### First occurrences -/

theorem nodup_eraseDups {α : Type} [BEq α] [LawfulBEq α] (l : List α) : l.eraseDups.Nodup := by
  match l with
  | [] => exact List.nodup_nil
  | a :: l =>
    rw [List.eraseDups_cons, List.nodup_cons, List.mem_eraseDups, List.mem_filter]
    refine ⟨?_, nodup_eraseDups (l.filter fun b => !b == a)⟩
    rintro ⟨-, h⟩
    simp at h
termination_by l.length
decreasing_by exact Nat.lt_succ_of_le (List.length_filter_le _ _)

theorem eraseDups_concat {α : Type} [BEq α] [LawfulBEq α] (l : List α) (a : α) :
    (l ++ [a]).eraseDups = if a ∈ l then l.eraseDups else l.eraseDups ++ [a] := by
  rw [List.eraseDups_append]
  by_cases h : a ∈ l
  · simp [List.removeAll, h]
  · simp [List.removeAll, h, List.eraseDups_cons]

/-- The numbers of occurrences add up to the length. -/
theorem sum_count_eraseDups (l : List String) :
    (l.eraseDups.map fun a => l.count a).sum = l.length := by
  have hperm : l.eraseDups.Perm l.dedup :=
    (List.perm_ext_iff_of_nodup (nodup_eraseDups l) l.nodup_dedup).mpr fun a => by
      rw [List.mem_eraseDups, List.mem_dedup]
  rw [(hperm.map _).sum_eq]
  exact List.sum_map_count_dedup_eq_length l

/-! ### Counting -/

/-- One more finding of a check that has been counted. -/
theorem tally_of_mem {id : String} {n : String → Nat} : ∀ {ids : List String}, ids.Nodup →
    id ∈ ids → tally (ids.map fun k => (k, n k)) id =
      ids.map fun k => (k, if k = id then n k + 1 else n k)
  | [], _, h => by cases h
  | k :: ids, hnodup, h => by
    rw [List.nodup_cons] at hnodup
    rw [List.map_cons, List.map_cons, tally]
    by_cases hk : k = id
    · have hrest : ids.map (fun k => (k, n k)) =
          ids.map fun k => (k, if k = id then n k + 1 else n k) := by
        refine List.map_congr_left fun k' hk' => ?_
        rw [if_neg fun h' => hnodup.1 (by rwa [hk, ← h'])]
      rw [if_pos hk, if_pos hk, hrest]
    · have hmem : id ∈ ids := (List.mem_cons.mp h).resolve_left (Ne.symm hk)
      rw [if_neg hk, if_neg hk, tally_of_mem hnodup.2 hmem]

/-- The first finding of a check. -/
theorem tally_of_not_mem {id : String} {n : String → Nat} : ∀ {ids : List String}, id ∉ ids →
    tally (ids.map fun k => (k, n k)) id = (ids.map fun k => (k, n k)) ++ [(id, 1)]
  | [], _ => rfl
  | k :: ids, h => by
    rw [List.mem_cons, not_or] at h
    rw [List.map_cons, tally, if_neg (Ne.symm h.1), tally_of_not_mem h.2]
    rfl

/-- **The counts** of findings: each check once, in the order of first findings. -/
theorem countsOf_eq (fs : List Finding) :
    countsOf fs = (fs.map (·.checkId)).eraseDups.map
      fun id => (id, (fs.map (·.checkId)).count id) := by
  induction fs using List.reverseRecOn with
  | nil => rfl
  | append_singleton fs f ih =>
    have hlast : countsOf (fs ++ [f]) = tally (countsOf fs) f.checkId := by
      rw [countsOf, List.foldl_concat]
      rfl
    have hcount : ∀ id, ((fs ++ [f]).map (·.checkId)).count id =
        if id = f.checkId then (fs.map (·.checkId)).count id + 1
        else (fs.map (·.checkId)).count id := by
      intro id
      by_cases h : id = f.checkId
      · simp [h]
      · rw [if_neg h, List.map_append, List.count_append, List.map_singleton,
          List.count_singleton, if_neg (by simpa using Ne.symm h), Nat.add_zero]
    simp only [hcount]
    rw [hlast, ih, List.map_append, List.map_singleton, eraseDups_concat]
    split_ifs with h
    · exact tally_of_mem (nodup_eraseDups _) (List.mem_eraseDups.mpr h)
    · have hnot : f.checkId ∉ (fs.map (·.checkId)).eraseDups := fun hmem =>
        h (List.mem_eraseDups.mp hmem)
      rw [tally_of_not_mem hnot, List.map_append]
      congr 1
      · refine List.map_congr_left fun k hk => ?_
        rw [if_neg]
        rintro rfl
        exact hnot hk
      · simp [List.count_eq_zero_of_not_mem h]

/-- Counts that are right for findings. -/
structure Tallies (fs : List Finding) (counts : List (String × Nat)) : Prop where
  /-- The checks that found something, in the order of their first findings. -/
  ids : counts.map (·.1) = (fs.map (·.checkId)).eraseDups
  /-- Each check is counted once. -/
  nodup : (counts.map (·.1)).Nodup
  /-- Each count is the number of findings of its check, -/
  count : ∀ q ∈ counts, q.2 = fs.countP (·.checkId = q.1)
  /-- of which there are some. -/
  pos : ∀ q ∈ counts, 0 < q.2
  /-- All findings are counted. -/
  sum : (counts.map (·.2)).sum = fs.length

/-- **Findings are counted right.** -/
theorem tallies_countsOf (fs : List Finding) : Tallies fs (countsOf fs) := by
  have hids : (countsOf fs).map (·.1) = (fs.map (·.checkId)).eraseDups := by
    rw [countsOf_eq, List.map_map]
    exact List.map_id' _
  have hmem : ∀ q ∈ countsOf fs,
      q.1 ∈ fs.map (·.checkId) ∧ q.2 = (fs.map (·.checkId)).count q.1 := by
    intro q hq
    rw [countsOf_eq, List.mem_map] at hq
    obtain ⟨id, hid, rfl⟩ := hq
    exact ⟨List.mem_eraseDups.mp hid, rfl⟩
  refine ⟨hids, hids ▸ nodup_eraseDups _, fun q hq => ?_, fun q hq => ?_, ?_⟩
  · rw [(hmem q hq).2, List.count, List.countP_map]
    refine List.countP_congr fun f _ => ?_
    simp
  · rw [(hmem q hq).2]
    exact List.count_pos_iff.mpr (hmem q hq).1
  · rw [countsOf_eq, List.map_map]
    have hsum := sum_count_eraseDups (fs.map (·.checkId))
    rw [List.length_map] at hsum
    exact hsum

/-- The word for a number of findings. -/
def issuesWord (n : Nat) : String := if n = 1 then "issue" else "issues"

/-- The summary of a report is right. -/
structure Report.Summarized (r : Report) : Prop where
  /-- It says that nothing was found if and only if this is so. -/
  none_iff : r.summary = "No issues found." ↔ r.findings = []
  /-- Otherwise it names the number of all findings, and then each check with its count. -/
  counts : r.findings ≠ [] → ∃ counts, Tallies r.findings counts ∧ r.summary =
    s!"Found {r.findings.length} {issuesWord r.findings.length}: " ++
      ", ".intercalate (counts.map fun q => s!"{q.2} {q.1}") ++ "."

/-- **Reports are summed up right.** -/
theorem summarized_ofFindings (fs : List Finding) : (Report.ofFindings fs).Summarized := by
  have htext : fs ≠ [] → summaryOf fs =
      s!"Found {fs.length} {issuesWord fs.length}: " ++
        ", ".intercalate ((countsOf fs).map fun q => s!"{q.2} {q.1}") ++ "." := by
    intro h
    rw [summaryOf, if_neg (by simpa using h)]
    rfl
  refine ⟨⟨fun h => ?_, fun h => ?_⟩, fun h => ⟨_, tallies_countsOf fs, htext h⟩⟩
  · by_contra hne
    have hsummary : summaryOf fs = "No issues found." := h
    rw [htext hne] at hsummary
    have hfirst : (toString "Found ").toList = "Found ".toList := rfl
    have hhead := congrArg (fun text : String => text.toList.head?) hsummary
    simp [hfirst] at hhead
  · have hnil : fs = [] := h
    rw [hnil]
    rfl

end HouseRules
