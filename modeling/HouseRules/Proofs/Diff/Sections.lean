import HouseRules.Proofs.Diff.Scan

/-! # Sections of a diff are read independently

A diff that is cut in front of a `diff --git` line is read by reading its two parts one after the
other (`changedFiles_append`): the files are those of the first part and those of the second, the
loader is asked for the blobs of the first part and then for those of the second, and the first
failure among all these ends the reading.

The scan of a diff gives what its sections say (`changedFiles_eq`), so nothing that it holds at the
end of the first part changes what it reads of the second. The cut at a line feed leaves an empty
line at the end of the first part, and this line says nothing to any section
(`entry?_append_nil`). -/

namespace HouseRules.Diff

/-! ### Cutting lines into sections -/

/-- The sections of lines that a section follows are their own and those that follow. -/
theorem foldr_cutStep (secs : List Section) : ∀ ls : List Bytes,
    ls.foldr cutStep ([], secs) =
      ((ls.foldr cutStep ([], [])).1, (ls.foldr cutStep ([], [])).2 ++ secs)
  | [] => rfl
  | l :: ls => by
    rw [List.foldr_cons, List.foldr_cons, foldr_cutStep secs ls]
    by_cases h : isTitle l = true
    · rw [cutStep_of_title h, cutStep_of_title h]
      rfl
    · rw [cutStep_of_not_title h, cutStep_of_not_title h]

theorem sections_cons {title : Bytes} (h : isTitle title = true) (rest : List Bytes) :
    sections (title :: rest) =
      ⟨title, (rest.foldr cutStep ([], [])).1⟩ :: (rest.foldr cutStep ([], [])).2 := by
  rw [sections, List.foldr_cons, cutStep_of_title h]

theorem sections_append {title : Bytes} (h : isTitle title = true) (ls rest : List Bytes) :
    sections (ls ++ title :: rest) = sections ls ++ sections (title :: rest) := by
  have hacc : (title :: rest).foldr cutStep ([], []) = ([], sections (title :: rest)) := by
    rw [sections_cons h, List.foldr_cons, cutStep_of_title h]
  rw [sections, List.foldr_append, hacc, foldr_cutStep]
  rfl

/-! ### An empty line says nothing -/

theorem readLine_nil (p : Progress) : readLine p [] = .ok p := by
  rw [readLine]
  have hh : hunkStart? [] = none := rfl
  rw [hh]
  cases p.inHunk <;> rfl

theorem entry?_append_nil (title : Bytes) (body : List Bytes) :
    Section.entry? ⟨title, body ++ [[]]⟩ = Section.entry? ⟨title, body⟩ := by
  have hfold : ∀ p : Progress, (body ++ [[]]).foldlM readLine p = body.foldlM readLine p := by
    intro p
    have hlast : (fun q => List.foldlM readLine q [[]]) =
        (pure : Progress → Except PathError _) := by
      funext q
      rw [List.foldlM_cons, readLine_nil]
      rfl
    rw [List.foldlM_append, hlast, bind_pure]
  unfold Section.entry?
  simp only [hfold]

/-- The lines before the first section may get an empty line at their end, or a section does. -/
theorem foldr_cutStep_nil : ∀ ls : List Bytes,
    ((ls.foldr cutStep ([[]], [])).1 = (ls.foldr cutStep ([], [])).1 ∨
        (ls.foldr cutStep ([[]], [])).1 = (ls.foldr cutStep ([], [])).1 ++ [[]]) ∧
      (ls.foldr cutStep ([[]], [])).2.map Section.entry? =
        (ls.foldr cutStep ([], [])).2.map Section.entry?
  | [] => ⟨Or.inr rfl, rfl⟩
  | l :: ls => by
    obtain ⟨hpre, hsecs⟩ := foldr_cutStep_nil ls
    simp only [List.foldr_cons]
    by_cases h : isTitle l = true
    · rw [cutStep_of_title h, cutStep_of_title h]
      refine ⟨Or.inl rfl, ?_⟩
      rw [List.map_cons, List.map_cons, hsecs]
      rcases hpre with hpre | hpre
      · rw [hpre]
      · rw [hpre, entry?_append_nil]
    · rw [cutStep_of_not_title h, cutStep_of_not_title h]
      refine ⟨?_, hsecs⟩
      rcases hpre with hpre | hpre
      · exact Or.inl (by rw [hpre])
      · exact Or.inr (by rw [hpre]; rfl)

theorem entries_append_nil (ls : List Bytes) :
    (sections (ls ++ [[]])).map Section.entry? = (sections ls).map Section.entry? := by
  have hacc : ([[]] : List Bytes).foldr cutStep ([], []) = ([[]], []) := rfl
  rw [sections, sections, List.foldr_append, hacc]
  exact (foldr_cutStep_nil ls).2

/-! ### What a diff says -/

/-- The first line of a diff that starts with a title is a title. -/
theorem exists_title {b : Bytes} (h : Bytes.ofAscii "diff --git" <+: b) :
    ∃ title rest, lines b = title :: rest ∧ isTitle title = true := by
  obtain ⟨t, rfl⟩ := h
  have hword : Bytes.newline ∉ Bytes.ofAscii "diff --git" := by decide
  obtain ⟨p, ps, -, hlines⟩ := Search.pieces_append_left t hword
  exact ⟨_, ps, hlines, List.isPrefixOf_iff_prefix.mpr ⟨p, rfl⟩⟩

theorem readings_append {a b : Bytes} (ha : a = [] ∨ a.getLast? = some Bytes.newline)
    (hb : Bytes.ofAscii "diff --git" <+: b) : readings (a ++ b) = readings a ++ readings b := by
  obtain ⟨title, rest, hlines, htitle⟩ := exists_title hb
  rcases ha with rfl | ha
  · rfl
  · obtain ⟨c, rfl⟩ : ∃ c, a = c ++ [Bytes.newline] := by
      rw [List.getLast?_eq_some_iff] at ha
      exact ha
    have hab : lines (c ++ [Bytes.newline] ++ b) = lines c ++ lines b :=
      Search.pieces_append_of_getLast c b
    have ha' : lines (c ++ [Bytes.newline]) = lines c ++ [[]] := by
      have h : lines (c ++ [Bytes.newline] ++ []) = lines c ++ lines [] :=
        Search.pieces_append_of_getLast c []
      rwa [List.append_nil] at h
    rw [readings, readings, readings, hab, ha', entries_append_nil, hlines,
      sections_append htitle, List.map_append]

/-! ### What the loader is asked for -/

section Asking

variable {ε α β : Type}

/-- A computation that may fail and that notes the blobs it asks for. -/
abbrev Asking (ε : Type) := ExceptT ε (StateM (List String))

/-- Asks a loader that may fail for a blob, and notes its name behind those asked for before. -/
def ask (load : String → Except ε Bytes) (id : String) : Asking ε Bytes := do
  modify (· ++ [id])
  match load id with
  | .ok bytes => pure bytes
  | .error e => throw e

/-- The outcome of a computation and the blobs that it asks for. -/
def Asking.outcome (x : Asking ε α) : Except ε α × List String := (ExceptT.run x).run []

/-- What has been asked for before makes no difference, and stays noted. -/
def Asking.Framed (x : Asking ε α) : Prop :=
  ∀ asked, (ExceptT.run x).run asked = (x.outcome.1, asked ++ x.outcome.2)

/-- The outcome of one computation and then another on its result. -/
def andThen (x : Except ε α × List String) (f : α → Except ε β × List String) :
    Except ε β × List String :=
  match x with
  | (.ok a, asked) => ((f a).1, asked ++ (f a).2)
  | (.error e, asked) => (.error e, asked)

theorem Asking.run_bind (x : Asking ε α) (f : α → Asking ε β) (asked : List String) :
    (ExceptT.run (x >>= f)).run asked =
      match (ExceptT.run x).run asked with
      | (.ok a, asked) => (ExceptT.run (f a)).run asked
      | (.error e, asked) => (.error e, asked) := by
  rw [ExceptT.run_bind, StateT.run_bind]
  rcases (ExceptT.run x).run asked with ⟨_ | _, _⟩ <;> rfl

theorem Asking.outcome_bind (x : Asking ε α) {f : α → Asking ε β} (hf : ∀ a, (f a).Framed) :
    (x >>= f).outcome = andThen x.outcome fun a => (f a).outcome := by
  rw [Asking.outcome, Asking.run_bind]
  change (match x.outcome with
    | (.ok a, asked) => (ExceptT.run (f a)).run asked
    | (.error e, asked) => (.error e, asked)) = _
  rcases x.outcome with ⟨e | a, asked⟩
  · rfl
  · exact hf a asked

theorem Asking.Framed.bind {x : Asking ε α} {f : α → Asking ε β} (hx : x.Framed)
    (hf : ∀ a, (f a).Framed) : (x >>= f).Framed := by
  intro asked
  rw [Asking.outcome_bind x hf, Asking.run_bind, hx asked]
  rcases x.outcome with ⟨e | a, more⟩
  · rfl
  · simp only [andThen]
    rw [hf a, List.append_assoc]

theorem Asking.framed_pure (a : α) : (pure a : Asking ε α).Framed := by
  intro asked
  exact congrArg (Prod.mk _) (List.append_nil asked).symm

theorem Asking.framed_throw (e : ε) : (throw e : Asking ε α).Framed := by
  intro asked
  exact congrArg (Prod.mk _) (List.append_nil asked).symm

theorem framed_ask (load : String → Except ε Bytes) (id : String) : (ask load id).Framed := by
  intro asked
  unfold ask
  cases hl : load id <;> rfl

theorem outcome_ask {load : String → Except ε Bytes} {id : String} {bytes : Bytes}
    (h : load id = .ok bytes) : (ask load id).outcome = (.ok bytes, [id]) := by
  unfold ask
  rw [h]
  rfl

theorem Asking.Framed.mapM {f : α → Asking ε β} (hf : ∀ a, (f a).Framed) :
    ∀ l : List α, (l.mapM f).Framed
  | [] => Asking.framed_pure []
  | a :: l => by
    rw [List.mapM_cons]
    exact (hf a).bind fun b => (Asking.Framed.mapM hf l).bind fun bs => Asking.framed_pure (b :: bs)

/-- A path that cannot be read is a failure, and nothing is asked for behind it. -/
def Asking.exit (wrap : PathError → ε) : Exit (Asking ε) where
  fail e := throw (wrap e)
  fail_bind _ _ := rfl

/-- **The outcome of reading a diff**: its files or the first failure, and the blobs asked for. -/
def outcomeOf (wrap : PathError → ε) (load : String → Except ε Bytes) (output : Bytes) :
    Except ε (List ChangedFile) × List String :=
  (changedFiles (Asking.exit wrap) (ask load) output).outcome

theorem framed_resolve (load : String → Except ε Bytes) (e : Entry) :
    (e.resolve (ask load)).Framed := by
  unfold Entry.resolve
  cases e.wanted? with
  | none => exact Asking.framed_pure _
  | some id => exact (framed_ask load id).bind fun bytes => Asking.framed_pure _

theorem framed_fileOf (wrap : PathError → ε) (load : String → Except ε Bytes)
    (reading : Except PathError (Option Entry)) :
    (fileOf (Asking.exit wrap).fail (ask load) reading).Framed := by
  have hresolve : ∀ e? : Option Entry, (resolve? (ask load) e?).Framed := by
    intro e?
    cases e? with
    | none => exact Asking.framed_pure none
    | some e =>
      rw [resolve?, map_eq_pure_bind]
      exact (framed_resolve load e).bind fun f => Asking.framed_pure (some f)
  unfold fileOf
  cases reading with
  | ok e => exact (Asking.framed_pure e).bind hresolve
  | error e => exact (Asking.framed_throw (wrap e)).bind hresolve

theorem framed_changedFiles (wrap : PathError → ε) (load : String → Except ε Bytes)
    (output : Bytes) : (changedFiles (Asking.exit wrap) (ask load) output).Framed := by
  rw [changedFiles_eq, map_eq_pure_bind]
  exact (Asking.Framed.mapM (framed_fileOf wrap load) _).bind fun fs => Asking.framed_pure _

end Asking

/-! ### Reading two parts -/

theorem changedFiles_append_eq {m : Type → Type} [Monad m] [LawfulMonad m]
    (exit : Exit m) (load : String → m Bytes) {a b : Bytes}
    (h : readings (a ++ b) = readings a ++ readings b) :
    changedFiles exit load (a ++ b) = do
      let fs ← changedFiles exit load a
      let gs ← changedFiles exit load b
      return fs ++ gs := by
  rw [changedFiles_eq, changedFiles_eq, changedFiles_eq, h, List.mapM_append]
  simp only [map_eq_pure_bind, bind_assoc, pure_bind, List.filterMap_append]

/-- **A diff is read part by part.** Where the first part is empty or ends with a line feed and the
second starts with `diff --git`, the files are those of the first part and then those of the second.
This holds for every loader, whatever it does besides: the second line says it for a loader of which
only the outcome and the blobs asked for are seen. -/
theorem changedFiles_append {a b : Bytes} (ha : a = [] ∨ a.getLast? = some Bytes.newline)
    (hb : Bytes.ofAscii "diff --git" <+: b) :
    (∀ {m : Type → Type} [Monad m] [LawfulMonad m] (exit : Exit m) (load : String → m Bytes),
      changedFiles exit load (a ++ b) = do
        let fs ← changedFiles exit load a
        let gs ← changedFiles exit load b
        return fs ++ gs) ∧
    ∀ {ε : Type} (wrap : PathError → ε) (load : String → Except ε Bytes),
      outcomeOf wrap load (a ++ b) =
        match outcomeOf wrap load a, outcomeOf wrap load b with
        | (.error e, asked), _ => (.error e, asked)
        | (.ok _, asked), (.error e, asked') => (.error e, asked ++ asked')
        | (.ok fs, asked), (.ok gs, asked') => (.ok (fs ++ gs), asked ++ asked') := by
  have h := readings_append ha hb
  refine ⟨fun exit load => changedFiles_append_eq exit load h, fun {ε} wrap load => ?_⟩
  have hframed := framed_changedFiles wrap load b
  rw [outcomeOf, changedFiles_append_eq _ _ h, Asking.outcome_bind _ fun fs =>
    hframed.bind fun gs => Asking.framed_pure (fs ++ gs)]
  change andThen (outcomeOf wrap load a) _ = _
  rcases outcomeOf wrap load a with ⟨e | fs, asked⟩
  · rfl
  · simp only [andThen]
    rw [Asking.outcome_bind _ fun gs => Asking.framed_pure (fs ++ gs)]
    change ((andThen (outcomeOf wrap load b) _).1,
      asked ++ (andThen (outcomeOf wrap load b) _).2) = _
    rcases outcomeOf wrap load b with ⟨e | gs, asked'⟩
    · rfl
    · simp only [andThen]
      exact congrArg (Prod.mk _) (by rw [Asking.outcome]; exact congrArg _ (List.append_nil asked'))

/-- A part that breaks off inside a hunk, in front of a section without content. -/
theorem changedFiles_append_open_hunk :
    let a := Bytes.ofAscii "diff --git a/x b/x\nindex 0..1 160000\n@@ -0,0 +7 @@\n+\n"
    let b := Bytes.ofAscii "diff --git a/y b/y\n+z"
    (a = [] ∨ a.getLast? = some Bytes.newline) ∧ Bytes.ofAscii "diff --git" <+: b ∧
      ∀ load : String → Except PathError Bytes, outcomeOf id load (a ++ b) =
        match outcomeOf id load a, outcomeOf id load b with
        | (.error e, asked), _ => (.error e, asked)
        | (.ok _, asked), (.error e, asked') => (.error e, asked ++ asked')
        | (.ok fs, asked), (.ok gs, asked') => (.ok (fs ++ gs), asked ++ asked') := by
  have ha : (Bytes.ofAscii "diff --git a/x b/x\nindex 0..1 160000\n@@ -0,0 +7 @@\n+\n").getLast? =
      some Bytes.newline := by decide
  have hb : Bytes.ofAscii "diff --git" <+: Bytes.ofAscii "diff --git a/y b/y\n+z" := by decide
  exact ⟨Or.inr ha, hb, (changedFiles_append (Or.inr ha) hb).2 id⟩

end HouseRules.Diff
