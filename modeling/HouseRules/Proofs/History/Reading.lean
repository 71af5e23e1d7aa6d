import HouseRules.History.Repository

/-! # Outcomes that do not depend on the session

`Gives I x o` says that from every session with the property `I` the computation `x` has the
outcome `o`, and that the session it leaves has the property again. Outcomes are found step by
step (`Gives.bind`), and a computation whose steps all have such outcomes has one itself
(`Steady.bind`). `Ensures x P` says that all results of the computation have the property `P`, from
whatever session it starts. -/

namespace HouseRules.Reading

variable {α β : Type} {I : Session → Prop} {P : α → Prop} {Q : β → Prop}

/-- From every session with the property `I`, the outcome is `o` and the property is kept. -/
def Gives (I : Session → Prop) (x : Reading α) (o : Except Failure α) : Prop :=
  ∀ s, I s → ∃ s', x.start s = (o, s') ∧ I s'

/-- The outcome is the same from every session with the property `I`, which is kept. -/
def Steady (I : Session → Prop) (x : Reading α) : Prop := ∃ o, Gives I x o

theorem start_bind (x : Reading α) (f : α → Reading β) (s : Session) :
    (x >>= f).start s = match x.start s with
      | (.ok a, s') => (f a).start s'
      | (.error e, s') => (.error e, s') := by
  simp only [start]
  rw [ExceptT.run_bind, StateT.run_bind]
  rcases (ExceptT.run x).run s with ⟨_ | _, _⟩ <;> rfl

theorem start_map (f : α → β) (x : Reading α) (s : Session) :
    (f <$> x).start s = (f <$> (x.start s).1, (x.start s).2) := by
  rw [map_eq_pure_bind, start_bind]
  rcases x.start s with ⟨_ | _, _⟩ <;> rfl

/-- What follows a computation matters only where the computation leads. -/
theorem start_bind_congr {x : Reading α} {f g : α → Reading β} {s : Session}
    (h : ∀ a s', x.start s = (.ok a, s') → (f a).start s' = (g a).start s') :
    (x >>= f).start s = (x >>= g).start s := by
  rw [start_bind, start_bind]
  rcases hx : x.start s with ⟨e | a, s'⟩
  · rfl
  · exact h a s' hx

theorem start_tryCatch (x : Reading α) (f : Failure → Reading α) (s : Session) :
    (tryCatch x f).start s = match x.start s with
      | (.ok a, s') => (.ok a, s')
      | (.error e, s') => (f e).start s' := by
  simp only [start]
  rw [ExceptT.run_tryCatch, StateT.run_bind]
  rcases (ExceptT.run x).run s with ⟨_ | _, _⟩ <;> rfl

/-! ### Outcomes -/

theorem Gives.unique {x : Reading α} {o o' : Except Failure α} (hI : ∃ s, I s) (h : Gives I x o)
    (h' : Gives I x o') : o = o' := by
  obtain ⟨s, hs⟩ := hI
  obtain ⟨t, ht, -⟩ := h s hs
  obtain ⟨t', ht', -⟩ := h' s hs
  rw [ht, Prod.mk.injEq] at ht'
  exact ht'.1

theorem Gives.outcome {x : Reading α} {o : Except Failure α} (h : Gives I x o) {s : Session}
    (hs : I s) : (x.start s).1 = o := by
  obtain ⟨s', hstart, -⟩ := h s hs
  rw [hstart]

theorem gives_pure (a : α) : Gives I (pure a) (.ok a) := fun s hs => ⟨s, rfl, hs⟩

theorem gives_throw (e : Failure) : Gives I (throw e : Reading α) (.error e) :=
  fun s hs => ⟨s, rfl, hs⟩

theorem gives_modify {f : Session → Session} (h : ∀ s, I s → I (f s)) :
    Gives I (modify f : Reading Unit) (.ok ()) := fun s hs => ⟨f s, rfl, h s hs⟩

theorem gives_ofExcept {ε : Type} (wrap : ε → Failure) : ∀ r : Except ε α,
    Gives I (ofExcept wrap r) (r.mapError wrap)
  | .ok a => gives_pure a
  | .error e => gives_throw (wrap e)

theorem Gives.bind {x : Reading α} {f : α → Reading β} {a : α} {o : Except Failure β}
    (hx : Gives I x (.ok a)) (hf : Gives I (f a) o) : Gives I (x >>= f) o := by
  intro s hs
  obtain ⟨t, ht, hit⟩ := hx s hs
  rw [start_bind, ht]
  exact hf t hit

theorem Gives.bind_error {x : Reading α} {e : Failure} (hx : Gives I x (.error e))
    (f : α → Reading β) : Gives I (x >>= f) (.error e) := by
  intro s hs
  obtain ⟨t, ht, hit⟩ := hx s hs
  rw [start_bind, ht]
  exact ⟨t, rfl, hit⟩

theorem Gives.tryCatch_ok {x : Reading α} {a : α} (hx : Gives I x (.ok a))
    (f : Failure → Reading α) : Gives I (tryCatch x f) (.ok a) := by
  intro s hs
  obtain ⟨t, ht, hit⟩ := hx s hs
  rw [start_tryCatch, ht]
  exact ⟨t, rfl, hit⟩

theorem Gives.tryCatch_error {x : Reading α} {f : Failure → Reading α} {e : Failure}
    {o : Except Failure α} (hx : Gives I x (.error e)) (hf : Gives I (f e) o) :
    Gives I (tryCatch x f) o := by
  intro s hs
  obtain ⟨t, ht, hit⟩ := hx s hs
  rw [start_tryCatch, ht]
  exact hf t hit

theorem Gives.map {x : Reading α} {a : α} (hx : Gives I x (.ok a)) (f : α → β) :
    Gives I (f <$> x) (.ok (f a)) := by
  rw [map_eq_pure_bind]
  exact hx.bind (gives_pure (f a))

theorem Gives.map_error {x : Reading α} {e : Failure} (h : Gives I x (.error e))
    (g : α → β) : Gives I (g <$> x) (.error e) := by
  rw [map_eq_pure_bind]
  exact h.bind_error _

theorem Gives.mapM {f : α → Reading β} {g : α → β} :
    ∀ {l : List α}, (∀ a ∈ l, Gives I (f a) (.ok (g a))) → Gives I (l.mapM f) (.ok (l.map g))
  | [], _ => gives_pure []
  | a :: l, h => by
    have ih := Gives.mapM fun b hb => h b (List.mem_cons_of_mem a hb)
    rw [List.mapM_cons]
    exact (h a List.mem_cons_self).bind (ih.bind (gives_pure (g a :: l.map g)))

/-- Computations for the elements of a list have the outcomes that they have one by one. -/
theorem Gives.mapM_outcomes {f : α → Reading β} {g : α → Except Failure β} :
    ∀ {l : List α}, (∀ a ∈ l, Gives I (f a) (g a)) → Gives I (l.mapM f) (l.mapM g)
  | [], _ => gives_pure []
  | a :: l, h => by
    have ha := h a List.mem_cons_self
    have ih := Gives.mapM_outcomes fun b hb => h b (List.mem_cons_of_mem a hb)
    rw [List.mapM_cons, List.mapM_cons]
    cases hg : g a with
    | error e =>
      rw [hg] at ha
      exact ha.bind_error _
    | ok b =>
      rw [hg] at ha
      refine ha.bind ?_
      cases hl : l.mapM g with
      | error e =>
        rw [hl] at ih
        exact ih.bind_error _
      | ok bs =>
        rw [hl] at ih
        exact ih.bind (gives_pure (b :: bs))

/-- A computation that looks at the session first. -/
theorem gives_get_bind {f : Session → Reading α} {o : Except Failure α}
    (h : ∀ s, I s → ∃ s', (f s).start s = (o, s') ∧ I s') : Gives I (get >>= f) o := by
  intro s hs
  rw [start_bind]
  exact h s hs

/-! ### Steady computations -/

theorem steady_pure (a : α) : Steady I (pure a) := ⟨_, gives_pure a⟩

theorem steady_throw (e : Failure) : Steady I (throw e : Reading α) := ⟨_, gives_throw e⟩

theorem Steady.bind {x : Reading α} {f : α → Reading β} (hx : Steady I x)
    (hf : ∀ a, Steady I (f a)) : Steady I (x >>= f) := by
  obtain ⟨o, hx⟩ := hx
  cases o with
  | error e => exact ⟨_, hx.bind_error f⟩
  | ok a =>
    obtain ⟨o, ho⟩ := hf a
    exact ⟨o, hx.bind ho⟩

theorem Steady.map {x : Reading α} (hx : Steady I x) (f : α → β) : Steady I (f <$> x) := by
  rw [map_eq_pure_bind]
  exact hx.bind fun a => steady_pure (f a)

theorem Steady.mapM {f : α → Reading β} :
    ∀ {l : List α}, (∀ a ∈ l, Steady I (f a)) → Steady I (l.mapM f)
  | [], _ => steady_pure []
  | a :: l, h => by
    have ih := Steady.mapM fun b hb => h b (List.mem_cons_of_mem a hb)
    rw [List.mapM_cons]
    exact (h a List.mem_cons_self).bind fun b => ih.bind fun bs => steady_pure (b :: bs)

/-- **A result of two steps is a result of each.** -/
theorem Gives.bind_inv (hI : ∃ s, I s) {x : Reading α} {f : α → Reading β} {b : β}
    (hx : Steady I x) (hf : ∀ a, Steady I (f a)) (h : Gives I (x >>= f) (.ok b)) :
    ∃ a, Gives I x (.ok a) ∧ Gives I (f a) (.ok b) := by
  obtain ⟨o, hx⟩ := hx
  cases o with
  | error e => cases h.unique hI (hx.bind_error f)
  | ok a =>
    obtain ⟨o, ho⟩ := hf a
    cases h.unique hI (hx.bind ho)
    exact ⟨a, hx, ho⟩

theorem Gives.map_inv (hI : ∃ s, I s) {x : Reading α} {f : α → β} {b : β} (hx : Steady I x)
    (h : Gives I (f <$> x) (.ok b)) : ∃ a, Gives I x (.ok a) ∧ b = f a := by
  rw [map_eq_pure_bind] at h
  obtain ⟨a, ha, hb⟩ := h.bind_inv hI hx fun a => steady_pure (f a)
  exact ⟨a, ha, Except.ok.inj (hb.unique hI (gives_pure (f a)))⟩

theorem Gives.ofExcept_inv (hI : ∃ s, I s) {ε : Type} {wrap : ε → Failure} {r : Except ε α} {a : α}
    (h : Gives I (ofExcept wrap r) (.ok a)) : r = .ok a := by
  have heq := h.unique hI (gives_ofExcept wrap r)
  cases r with
  | error e => cases heq
  | ok b => exact congrArg Except.ok (Except.ok.inj heq).symm

/-- A run from a session with the property shows the outcome. -/
theorem Steady.gives_of_start {x : Reading α} (hx : Steady I x) {s s' : Session} (hs : I s)
    {o : Except Failure α} (h : x.start s = (o, s')) : Gives I x o := by
  obtain ⟨o', hx⟩ := hx
  obtain ⟨t, ht, -⟩ := hx s hs
  rw [h, Prod.mk.injEq] at ht
  rw [ht.1]
  exact hx

/-- A run from a session with the property leads to one with the property. -/
theorem Steady.holds_of_start {x : Reading α} (hx : Steady I x) {s s' : Session} (hs : I s)
    {o : Except Failure α} (h : x.start s = (o, s')) : I s' := by
  obtain ⟨o', hx⟩ := hx
  obtain ⟨t, ht, hit⟩ := hx s hs
  rw [h, Prod.mk.injEq] at ht
  rw [ht.2]
  exact hit

/-! ### Properties of results -/

/-- Every result of the computation has the property. -/
def Ensures (x : Reading α) (P : α → Prop) : Prop := ∀ s a s', x.start s = (.ok a, s') → P a

theorem ensures_pure {a : α} (h : P a) : Ensures (pure a) P := by
  rintro s b s' ⟨⟩
  exact h

theorem ensures_throw (e : Failure) : Ensures (throw e) P := by
  rintro s b s' ⟨⟩

theorem Ensures.mono {P' : α → Prop} {x : Reading α} (hx : Ensures x P) (h : ∀ a, P a → P' a) :
    Ensures x P' :=
  fun s a s' hstart => h a (hx s a s' hstart)

theorem Ensures.bind {x : Reading α} {f : α → Reading β} (hx : Ensures x P)
    (hf : ∀ a, P a → Ensures (f a) Q) : Ensures (x >>= f) Q := by
  intro s b s' h
  rw [start_bind] at h
  rcases hstart : x.start s with ⟨e | a, t⟩
  · rw [hstart] at h
    cases h
  · rw [hstart] at h
    exact hf a (hx s a t hstart) t b s' h

theorem Ensures.map {x : Reading α} {f : α → β} (hx : Ensures x P) (hf : ∀ a, P a → Q (f a)) :
    Ensures (f <$> x) Q := by
  rw [map_eq_pure_bind]
  exact hx.bind fun a ha => ensures_pure (hf a ha)

theorem Ensures.mapM {f : α → Reading β} :
    ∀ {l : List α}, (∀ a ∈ l, Ensures (f a) Q) → Ensures (l.mapM f) fun bs => ∀ b ∈ bs, Q b
  | [], _ => ensures_pure fun b hb => by cases hb
  | a :: l, h => by
    rw [List.mapM_cons]
    refine (h a List.mem_cons_self).bind fun b hb => ?_
    refine (Ensures.mapM fun a' ha' => h a' (List.mem_cons_of_mem a ha')).bind fun bs hbs => ?_
    exact ensures_pure (List.forall_mem_cons.mpr ⟨hb, hbs⟩)

/-- What a computation gives when it succeeds. -/
theorem ensures_result (x : Reading α) :
    Ensures x fun a => ∃ s s', x.start s = (.ok a, s') :=
  fun s _ s' h => ⟨s, s', h⟩

end HouseRules.Reading
