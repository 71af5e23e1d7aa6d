import HouseRules.Check.Registry
import HouseRules.Proofs.Check.Summary
import HouseRules.Proofs.Text.Search

/-! # Tables of checks after any steps

A table starts empty; keys are registered, also again, and now and then the table is cleared
(`replay`). It then lists each key that was registered since the last clear once, in the order of
the first registrations, with the value that was registered last (`keys_replay`, `lookup_replay`).

A key is looked up by its upper case. So the keys that are their own upper case can be asked for, in
any order and as often as wanted (`replay_requests`). A key with a small letter is listed, but what
is found for it is the value of another key, or none (`replay_requests_small`). -/

namespace HouseRules.Registry

variable {α : Type}

/-- What can be done to a table. -/
inductive Step (α : Type) where
  | register (key : String) (value : α)
  | clear

/-- The table after a step. -/
def after (r : Registry α) : Step α → Registry α
  | .register key value => r.register key value
  | .clear => []

/-- The table after some steps, at first empty. -/
def replay (steps : List (Step α)) : Registry α := steps.foldl after []

/-- What a step registers. -/
def Step.registers? : Step α → Option (String × α)
  | .register key value => some (key, value)
  | .clear => none

/-- The registrations since the last clear. -/
def sinceClear (steps : List (Step α)) : List (String × α) :=
  (steps.reverse.takeWhile (·.registers?.isSome)).reverse.filterMap Step.registers?

/-- The value that was registered last under a key. -/
def latest? (entries : List (String × α)) (key : String) : Option α := entries.reverse.lookup key

/-! ### One registration -/

theorem lookup_cons_of_ne {j k : String} (h : j ≠ k) (v : α) (r : List (String × α)) :
    List.lookup j ((k, v) :: r) = List.lookup j r := by
  rw [List.lookup_cons, beq_eq_false_iff_ne.mpr h]

theorem lookup_map_register (r : Registry α) (key j : String) (value : α) :
    List.lookup j (r.map fun (k, v) => if k = key then (k, value) else (k, v)) =
      if j = key then (List.lookup j r).map fun _ => value else List.lookup j r := by
  induction r with
  | nil => simp
  | cons p r ih =>
    obtain ⟨k, v⟩ := p
    have hhead : (if k = key then (k, value) else (k, v)) = (k, if k = key then value else v) := by
      split <;> rfl
    simp only [List.map_cons, hhead]
    by_cases hj : j = k
    · subst hj
      rw [List.lookup_cons_self, List.lookup_cons_self]
      split <;> rfl
    · rw [lookup_cons_of_ne hj, lookup_cons_of_ne hj, ih]

theorem any_key_iff (r : Registry α) (key : String) :
    r.any (·.1 == key) = true ↔ key ∈ r.keys := by
  simp [keys]

theorem lookup_isSome_iff (key : String) : ∀ r : Registry α,
    (List.lookup key r).isSome ↔ key ∈ r.keys
  | [] => by simp [keys]
  | (k, v) :: r => by
    have ih := lookup_isSome_iff key r
    rw [keys, List.map_cons, List.mem_cons, ← keys]
    by_cases h : key = k
    · subst h
      simp
    · rw [lookup_cons_of_ne h, ih]
      simp [h]

theorem keys_register (r : Registry α) (key : String) (value : α) :
    (r.register key value).keys = if key ∈ r.keys then r.keys else r.keys ++ [key] := by
  unfold register
  by_cases h : key ∈ r.keys
  · have hkeys : ∀ p : String × α, (if p.1 = key then (p.1, value) else (p.1, p.2)).1 = p.1 := by
      intro p
      split <;> rfl
    rw [if_pos ((any_key_iff r key).mpr h), if_pos h, keys, List.map_map]
    exact List.map_congr_left fun p _ => hkeys p
  · rw [if_neg fun hany => h ((any_key_iff r key).mp hany), if_neg h, keys, List.map_append]
    rfl

theorem lookup_register (r : Registry α) (key j : String) (value : α) :
    List.lookup j (r.register key value) = if j = key then some value else List.lookup j r := by
  unfold register
  by_cases h : key ∈ r.keys
  · rw [if_pos ((any_key_iff r key).mpr h), lookup_map_register]
    by_cases hj : j = key
    · have hsome : (List.lookup j r).isSome := (lookup_isSome_iff j r).mpr (hj ▸ h)
      obtain ⟨v, hv⟩ := Option.isSome_iff_exists.mp hsome
      rw [if_pos hj, if_pos hj, hv]
      rfl
    · rw [if_neg hj, if_neg hj]
  · rw [if_neg fun hany => h ((any_key_iff r key).mp hany), List.lookup_append]
    by_cases hj : j = key
    · have hnone : List.lookup j r = none := by
        rw [← Option.not_isSome_iff_eq_none, lookup_isSome_iff, hj]
        exact h
      rw [hnone, if_pos hj, hj, List.lookup_cons_self]
      rfl
    · rw [if_neg hj, lookup_cons_of_ne hj, List.lookup_nil, Option.or_none]

/-! ### Any steps -/

theorem sinceClear_register (steps : List (Step α)) (key : String) (value : α) :
    sinceClear (steps ++ [.register key value]) = sinceClear steps ++ [(key, value)] := by
  simp [sinceClear, Step.registers?]

theorem sinceClear_clear (steps : List (Step α)) : sinceClear (steps ++ [.clear]) = [] := by
  simp [sinceClear, Step.registers?]

theorem replay_concat (steps : List (Step α)) (step : Step α) :
    replay (steps ++ [step]) = after (replay steps) step := by
  rw [replay, List.foldl_concat]
  rfl

/-- **The keys of a table** are listed once each, in the order of their first registrations. -/
theorem keys_replay (steps : List (Step α)) :
    (replay steps).keys = ((sinceClear steps).map (·.1)).eraseDups := by
  induction steps using List.reverseRecOn with
  | nil => rfl
  | append_singleton steps step ih =>
    rw [replay_concat]
    cases step with
    | clear =>
      rw [sinceClear_clear]
      rfl
    | register key value =>
      have hmem : key ∈ (replay steps).keys ↔ key ∈ (sinceClear steps).map (·.1) := by
        rw [ih, List.mem_eraseDups]
      rw [after, keys_register, sinceClear_register, List.map_append, List.map_singleton,
        eraseDups_concat, ← ih]
      exact if_congr hmem rfl rfl

/-- **The value of a key** is the one that was registered last. -/
theorem lookup_replay (steps : List (Step α)) (key : String) :
    List.lookup key (replay steps) = latest? (sinceClear steps) key := by
  induction steps using List.reverseRecOn with
  | nil => rfl
  | append_singleton steps step ih =>
    rw [replay_concat]
    cases step with
    | clear =>
      rw [sinceClear_clear]
      rfl
    | register k value =>
      rw [after, lookup_register, sinceClear_register, latest?, List.reverse_concat, ih]
      by_cases hk : key = k
      · rw [if_pos hk, hk, List.lookup_cons_self]
      · rw [if_neg hk, lookup_cons_of_ne hk, latest?]

/-! ### Requests -/

theorem exists_map_some {f : String → Option α} : ∀ {ids : List String},
    (∀ id ∈ ids, ∃ v, some v = f id) → ∃ vs : List α, vs.map some = ids.map f
  | [], _ => ⟨[], rfl⟩
  | id :: ids, h => by
    obtain ⟨v, hv⟩ := h id List.mem_cons_self
    obtain ⟨vs, hvs⟩ := exists_map_some fun j hj => h j (List.mem_cons_of_mem id hj)
    exact ⟨v :: vs, by rw [List.map_cons, List.map_cons, hv, hvs]⟩

theorem map_some_all {r : Registry α} (h : r.keys.Nodup) :
    r.all.map some = r.keys.map fun k => List.lookup k r := by
  induction r with
  | nil => rfl
  | cons p r ih =>
    obtain ⟨k, v⟩ := p
    have hcons : keys ((k, v) :: r) = k :: keys r := rfl
    rw [hcons, List.nodup_cons] at h
    have hrest : (keys r).map (fun j => List.lookup j ((k, v) :: r)) =
        (keys r).map fun j => List.lookup j r := by
      refine List.map_congr_left fun j hj => lookup_cons_of_ne ?_ v r
      rintro rfl
      exact h.1 hj
    rw [hcons, List.map_cons, List.lookup_cons_self, hrest, ← ih h.2]
    rfl

theorem get_eq (r : Registry α) (key : String) :
    r.get key = match List.lookup (Text.upper key) r with
      | some v => .ok v
      | none => .error ⟨key, r.keys⟩ := by
  rw [get, ← Search.map_find?_key]
  cases r.find? (·.1 == Text.upper key) <;> rfl

/-- **What is asked for is found** if and only if each upper case is a key. -/
theorem getAll_eq_ok_iff (r : Registry α) : ∀ {ids : List String} {vs : List α},
    r.getAll ids = .ok vs ↔ vs.map some = ids.map fun id => List.lookup (Text.upper id) r
  | [], vs => by
    have hnil : r.getAll [] = .ok [] := rfl
    rw [hnil, Except.ok.injEq, List.map_nil, List.map_eq_nil_iff, eq_comm]
  | id :: ids, vs => by
    have hcons : r.getAll (id :: ids) = do
        let v ← r.get id
        let vs ← r.getAll ids
        return v :: vs := by
      rw [getAll, List.mapM_cons]
      rfl
    rw [hcons, get_eq]
    cases hl : List.lookup (Text.upper id) r with
    | none =>
      constructor
      · rintro ⟨⟩
      · intro h
        cases vs <;> simp [hl] at h
    | some v =>
      cases hr : r.getAll ids with
      | error e =>
        constructor
        · rintro ⟨⟩
        · intro h
          cases vs with
          | nil => simp at h
          | cons w ws =>
            rw [List.map_cons, List.map_cons, List.cons.injEq] at h
            rw [(getAll_eq_ok_iff r).mpr h.2] at hr
            cases hr
      | ok ws =>
        have hws := (getAll_eq_ok_iff r).mp hr
        have hok : (do
            let v ← (.ok v : Except NotFound α)
            let vs ← (.ok ws : Except NotFound (List α))
            return v :: vs) = .ok (v :: ws) := rfl
        rw [hok, Except.ok.injEq, List.map_cons, hl, ← hws, ← List.map_cons]
        constructor
        · rintro rfl
          rfl
        · intro h
          exact (List.map_injective_iff.mpr (fun _ _ => Option.some.inj) h).symm

/-- **Every listed key that is its own upper case can be asked for.** After any steps the table
lists the keys in the order of their first registrations, with the values that were registered
last. What is asked for is found by its upper case. -/
theorem replay_requests (steps : List (Step α)) :
    (replay steps).keys = ((sinceClear steps).map (·.1)).eraseDups ∧ (replay steps).keys.Nodup ∧
    (replay steps).all.map some = (replay steps).keys.map (latest? (sinceClear steps)) ∧
    (∀ ids vs, (replay steps).getAll ids = .ok vs ↔
      vs.map some = ids.map fun id => latest? (sinceClear steps) (Text.upper id)) ∧
    (∀ ids, (∀ id ∈ ids, id ∈ (replay steps).keys ∧ Text.upper id = id) →
      ∃ vs, (replay steps).getAll ids = .ok vs ∧
        vs.map some = ids.map (latest? (sinceClear steps))) ∧
    ((∀ key ∈ (replay steps).keys, Text.upper key = key) →
      (replay steps).getAll (replay steps).keys = .ok (replay steps).all) := by
  have hlookup : (fun key => List.lookup key (replay steps)) = latest? (sinceClear steps) :=
    funext (lookup_replay steps)
  have hnodup : (replay steps).keys.Nodup := by
    rw [keys_replay]
    exact nodup_eraseDups _
  have hall := map_some_all hnodup
  have hrequest : ∀ ids vs, (replay steps).getAll ids = .ok vs ↔
      vs.map some = ids.map fun id => latest? (sinceClear steps) (Text.upper id) := by
    intro ids vs
    rw [getAll_eq_ok_iff, ← hlookup]
  have hupper : ∀ {ids : List String}, (∀ id ∈ ids, Text.upper id = id) →
      (ids.map fun id => latest? (sinceClear steps) (Text.upper id)) =
        ids.map (latest? (sinceClear steps)) := by
    intro ids h
    exact List.map_congr_left fun id hid => congrArg _ (h id hid)
  rw [hlookup] at hall
  refine ⟨keys_replay steps, hnodup, hall, hrequest, ?_, ?_⟩
  · intro ids hids
    have hsome : ∀ id ∈ ids, ∃ v, some v = latest? (sinceClear steps) id := by
      intro id hid
      have hfound := (lookup_isSome_iff id (replay steps)).mpr (hids id hid).1
      rw [lookup_replay] at hfound
      obtain ⟨v, hv⟩ := Option.isSome_iff_exists.mp hfound
      exact ⟨v, hv.symm⟩
    obtain ⟨vs, hvs⟩ := exists_map_some hsome
    refine ⟨vs, ?_, hvs⟩
    rw [hrequest, hupper fun id hid => (hids id hid).2, hvs]
  · intro hkeys
    rw [hrequest, hupper hkeys, hall]

/-- Keys that are registered again, behind a clear, and asked for in another order. -/
theorem replay_requests_again :
    let steps : List (Step Nat) := [.register "OLD" 0, .clear, .register "GIT001" 1,
      .register "ASY001" 2, .register "GIT001" 3]
    (∀ id ∈ ["ASY001", "GIT001", "ASY001"], id ∈ (replay steps).keys ∧ Text.upper id = id) ∧
      (replay steps).keys = ["GIT001", "ASY001"] ∧ (replay steps).all = [3, 2] ∧
      (replay steps).getAll (replay steps).keys = .ok (replay steps).all ∧
      (replay steps).getAll ["ASY001", "GIT001", "ASY001"] = .ok [2, 3, 2] := by
  intro steps
  have hids : ∀ id ∈ ["ASY001", "GIT001", "ASY001"], id ∈ (replay steps).keys ∧
      Text.upper id = id := by decide +kernel
  have hkeys : ∀ key ∈ (replay steps).keys, Text.upper key = key := by decide +kernel
  obtain ⟨-, -, -, -, hsome, hall⟩ := replay_requests steps
  obtain ⟨vs, hvs, hvalues⟩ := hsome _ hids
  have hlatest : ["ASY001", "GIT001", "ASY001"].map (latest? (sinceClear steps)) =
      [2, 3, 2].map some := by decide +kernel
  rw [hlatest] at hvalues
  have heq : vs = [2, 3, 2] := List.map_injective_iff.mpr (fun _ _ => Option.some.inj) hvalues
  exact ⟨hids, by decide, by decide, hall hkeys, heq ▸ hvs⟩

/-- A key with small letters is listed and not found; beside its upper case it is found there. -/
theorem replay_requests_small :
    (replay [.register "lower" 0]).keys = ["lower"] ∧
      (replay [.register "lower" 0]).getAll ["lower"] = .error ⟨"lower", ["lower"]⟩ ∧
      (replay [.register "lower" 0, .register "LOWER" 1]).all = [0, 1] ∧
      (replay [.register "lower" 0, .register "LOWER" 1]).getAll ["lower", "LOWER"] =
        .ok [1, 1] := by
  decide +kernel

end HouseRules.Registry
