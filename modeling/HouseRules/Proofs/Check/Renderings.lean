import HouseRules.Proofs.Check.Quiet
import HouseRules.Proofs.Report.Document
import HouseRules.Proofs.Snippet.Texts

/-! # Findings in both renderings

The rendering of messages decides about nothing but the messages: a check makes the same steps with
either of them, and what it finds are the same subjects (`uniform_execute`). The message about a
subject says the same in both renderings if no text that it shows holds a tab or an escape character
(`Subject.consistent`). -/

namespace HouseRules

open Styled

/-! ### Subjects -/

/-- What a finding is about. -/
inductive Subject where
  /-- The name of a method in a file. -/
  | method (f : SourceFile) (name : SyntaxNode)
  /-- A line that a commit adds to a file, which holds `source` then. -/
  | addition (commitId text path source : String) (content : Bytes) (change : Change)

namespace Subject

/-- What is said about the subject. -/
def message : Subject → Message
  | method f name => AsyncSuffix.message f name
  | addition commitId text path source content c =>
    CommittedTodos.message commitId text path source content c

/-- The finding about the subject. -/
def finding (rendering : Rendering) : Subject → Finding
  | method f name =>
    { checkId := AsyncSuffix.checkId
      message := rendering.render (method f name).message
      path := f.path }
  | addition commitId text path source content c =>
    { checkId := CommittedTodos.checkId
      message := rendering.render (addition commitId text path source content c).message
      path
      commitId := some commitId }

/-- The texts that the message shows as they are: the path, the name of the method or of the commit,
and source lines. The message of a commit is not among them, it is shown as a literal. -/
def texts (d : Subject) : List String :=
  match d with
  | method f name => f.path :: f.tree.textOf name :: d.message.snippets.flatMap Snippet.shownLines
  | addition commitId _ path _ _ _ =>
    path :: commitId :: d.message.snippets.flatMap Snippet.shownLines

/-- No such text holds a tab or an escape character. -/
def Tidy (d : Subject) : Prop := ∀ text ∈ d.texts, ∀ c ∈ text.toList, ¬ Shifty c

end Subject

/-! ### What the messages show -/

/-- A literal holds no characters below the blank. -/
theorem Json.le_of_mem_literal {c : Char} {text : String}
    (h : c ∈ (Json.literal .unicode text).toList) : 0x20 ≤ c.toNat := by
  let P (cs : List Char) : Prop := cs.all (0x20 ≤ ·.toNat) = true
  have hunit : ∀ n < 0x20, P (Json.unitEscape n) := by decide
  have hchar : ∀ d, P (Json.literalChar .unicode d) := by
    intro d
    unfold Json.literalChar
    iterate 7 refine iteInduction (motive := P) (fun _ => by decide) fun _ => ?_
    refine iteInduction (motive := P) (hunit d.toNat) fun hlow => ?_
    refine iteInduction (motive := P) (fun hascii => by cases hascii) fun _ => ?_
    simpa [P] using hlow
  rw [Json.literal, String.toList_ofList, Json.literalChars, List.mem_append, List.mem_cons,
    List.mem_flatMap, List.mem_singleton] at h
  rcases h with (rfl | ⟨d, -, hd⟩) | rfl
  · decide
  · exact of_decide_eq_true (List.all_eq_true.mp (hchar d) c hd)
  · decide

theorem Shifty.not_mem_literal {c : Char} (h : Shifty c) (text : String) :
    c ∉ (Json.literal .unicode text).toList := by
  intro hc
  have hle := Json.le_of_mem_literal hc
  rcases h with rfl | rfl <;> exact absurd hle (by decide)

/-- In a message with one snippet and fixed words for title and label such a character comes from
the origin, from the help or from a source line. -/
theorem Message.mem_text_single_iff {c : Char} (h : Shifty c) {title help : StyledText}
    {s : Snippet} (htitle : c ∉ StyledText.chars title) (hlabel : c ∉ s.label.toList) :
    c ∈ StyledText.chars (Message.text { title, snippets := [s], help := some help }) ↔
      c ∈ s.origin.toList ∨ c ∈ StyledText.chars help ∨
        ∃ text ∈ s.shownLines, c ∈ text.toList := by
  have hlabels : ∀ s' ∈ [s], c ∉ s'.label.toList := by
    intro s' hs'
    rw [List.mem_singleton.mp hs']
    exact hlabel
  rw [Message.mem_text_iff h hlabels]
  simp only [htitle, false_or, List.mem_singleton, exists_eq_left, exists_eq_left',
    Option.some.injEq, or_assoc]
  exact or_congr_right or_comm

namespace Subject

/-- **A tab or an escape character in a message** comes from a text that the message shows. -/
theorem mem_text_iff {c : Char} (h : Shifty c) (d : Subject) :
    c ∈ StyledText.chars d.message.text ↔ ∃ text ∈ d.texts, c ∈ text.toList := by
  have htexts : ∀ (path name : String) (s : Snippet),
      (∃ text ∈ path :: name :: [s].flatMap Snippet.shownLines, c ∈ text.toList) ↔
        c ∈ path.toList ∨ c ∈ name.toList ∨ ∃ text ∈ s.shownLines, c ∈ text.toList := by
    intro path name s
    simp only [List.mem_cons, List.flatMap_singleton, exists_eq_or_imp]
  cases d with
  | method f name =>
    have htitle : c ∉ StyledText.chars AsyncSuffix.styledTitle := h.not_mem_of_all (by decide)
    have hlabel : c ∉ AsyncSuffix.title.toList := h.not_mem_of_all (by decide)
    have hhelp : c ∈ StyledText.chars
        [bare s!"consider {f.tree.textOf name}", span AsyncSuffix.suffix .cyan] ↔
          c ∈ (f.tree.textOf name).toList := by
      have hword : c ∉ "consider ".toList := h.not_mem_of_all (by decide)
      have hsuffix : c ∉ AsyncSuffix.suffix.toList := h.not_mem_of_all (by decide)
      have htoString : ∀ text : String, toString text = text := fun _ => rfl
      rw [h.mem_bare_cons, h.mem_span_cons]
      simp only [String.toList_append, List.mem_append, htoString, hword, hsuffix,
        StyledText.chars_nil, List.not_mem_nil, or_false, false_or]
    refine (Message.mem_text_single_iff h ?_ ?_).trans ?_
    · exact htitle
    · exact hlabel
    · rw [hhelp]
      exact (htexts _ _ _).symm
  | addition commitId text path source content change =>
    have htitle : c ∉ StyledText.chars CommittedTodos.styledTitle := h.not_mem_of_all (by decide)
    have hlabel : c ∉ CommittedTodos.title.toList := h.not_mem_of_all (by decide)
    have hhelp : c ∈ StyledText.chars (CommittedTodos.help commitId text) ↔
        c ∈ commitId.toList := by
      have hwords : ∀ words ∈ ["consider removing all ", "TODOs", " and ", "FIXMEs",
          " from commit ", " with message "], c ∉ words.toList := by
        intro words hw
        refine h.not_mem_of_all ?_
        revert words
        decide
      simp only [List.forall_mem_cons] at hwords
      obtain ⟨h₁, h₂, h₃, h₄, h₅, h₆, -⟩ := hwords
      rw [CommittedTodos.help, h.mem_bare_cons, h.mem_span_cons, h.mem_bare_cons, h.mem_span_cons,
        h.mem_bare_cons, h.mem_span_cons, h.mem_bare_cons, h.mem_span_cons]
      simp only [h₁, h₂, h₃, h₄, h₅, h₆, h.not_mem_literal, StyledText.chars_nil,
        List.not_mem_nil, or_false, false_or]
    refine (Message.mem_text_single_iff h ?_ ?_).trans ?_
    · exact htitle
    · exact hlabel
    · rw [hhelp]
      exact (htexts _ _ _).symm

theorem toList_message_plain (d : Subject) :
    (d.finding .plain).message.toList = StyledText.chars d.message.text := by
  cases d <;> exact String.toList_ofList

theorem tidy_iff (d : Subject) :
    d.Tidy ↔ ∀ c ∈ (d.finding .plain).message.toList, ¬ Shifty c := by
  rw [toList_message_plain]
  constructor
  · intro h c hc hshifty
    obtain ⟨text, htext, hmem⟩ := (d.mem_text_iff hshifty).mp hc
    exact h text htext c hmem hshifty
  · intro h text htext c hc hshifty
    exact h c ((d.mem_text_iff hshifty).mpr ⟨text, htext, hc⟩) hshifty

/-- What the findings about a subject have to do with each other. -/
structure Consistent (d : Subject) : Prop where
  /-- They come from the same check, -/
  checkId : (d.finding .styled).checkId = (d.finding .plain).checkId
  /-- are in the same file -/
  path : (d.finding .styled).path = (d.finding .plain).path
  /-- and in the same commit. -/
  commitId : (d.finding .styled).commitId = (d.finding .plain).commitId
  /-- The texts that are shown are seen in the message. -/
  tidy : d.Tidy ↔ ∀ c ∈ (d.finding .plain).message.toList, ¬ Shifty c
  /-- Both messages say the same if these texts are tidy. -/
  message : d.Tidy → (d.finding .styled).plainMessage = (d.finding .plain).message
  /-- So do those for a screen that trims, where it finds nothing to trim. -/
  trimmed : ∀ columns, d.Tidy → NoWideBlanks columns (d.finding .plain).message.toList →
    d.finding (.trimmed columns) = d.finding .styled

theorem kept_title (d : Subject) : Kept d.message.title := by
  cases d with
  | method f name =>
    exact (((kept_nil.span_cons _ _).bare_cons _).span_cons _ _).bare_cons _
  | addition commitId text path source content change =>
    exact (((kept_nil.span_cons _ _).bare_cons _).span_cons _ _).bare_cons _

theorem kept_help (d : Subject) : ∀ t, d.message.help = some t → Kept t := by
  cases d with
  | method f name =>
    rintro t ⟨⟩
    exact (kept_nil.span_cons _ _).bare_cons _
  | addition commitId text path source content change =>
    rintro t ⟨⟩
    exact ((((((((kept_nil.span_cons _ _).bare_cons _).span_cons _ _).bare_cons _).span_cons _
      _).bare_cons _).span_cons _ _).bare_cons _)

theorem message_finding (d : Subject) (rendering : Rendering) :
    (d.finding rendering).message = rendering.render d.message := by
  cases d <;> rfl

/-- **The findings about a subject are consistent.** -/
theorem consistent (d : Subject) : d.Consistent where
  checkId := by cases d <;> rfl
  path := by cases d <;> rfl
  commitId := by cases d <;> rfl
  tidy := d.tidy_iff
  message := by
    intro htidy
    have hmessage := d.tidy_iff.mp htidy
    rw [Finding.plainMessage, d.message_finding, d.message_finding]
    rw [d.message_finding] at hmessage
    exact unescaped_render d.kept_title d.kept_help fun c hshifty hc => hmessage c hc hshifty
  trimmed := by
    intro columns htidy hwide
    have hmessage := d.tidy_iff.mp htidy
    rw [d.message_finding] at hmessage hwide
    have hrender := trimmed_render (fun htab => hmessage '\t' htab (Or.inl rfl)) hwide
    cases d with
    | method f name => exact congrArg (Finding.mk AsyncSuffix.checkId · f.path none) hrender
    | addition commitId text path source content change =>
      exact congrArg (Finding.mk CommittedTodos.checkId · path (some commitId)) hrender

end Subject

/-! ### Runs in both renderings -/

section Uniform

variable {m : Type → Type} [Monad m] {α β γ δ : Type}

/-- A computation that depends on the rendering in its result only, which is made of something that
does not depend on it. -/
def Uniform (make : Rendering → α → β) (x : Rendering → m β) : Prop :=
  ∃ y : m α, ∀ rendering, x rendering = make rendering <$> y

variable [LawfulMonad m] {make : Rendering → α → β} {make' : Rendering → γ → δ}

theorem uniform_pure (a : α) : Uniform make fun rendering => (pure (make rendering a) : m β) :=
  ⟨pure a, fun _ => (map_pure _ a).symm⟩

/-- What does not depend on the rendering at all. -/
theorem uniform_same (x : m α) : Uniform (fun _ => id) fun _ => x := ⟨x, fun _ => (id_map x).symm⟩

/-- **Two steps depend on the rendering in their result only if each of them does.** -/
theorem Uniform.bind {x : Rendering → m β} {f : Rendering → β → m δ} (hx : Uniform make x)
    (hf : ∀ a, Uniform make' fun rendering => f rendering (make rendering a)) :
    Uniform make' fun rendering => x rendering >>= f rendering := by
  obtain ⟨y, hy⟩ := hx
  choose z hz using hf
  refine ⟨y >>= z, fun rendering => ?_⟩
  simp only [hy, map_bind, bind_map_left]
  exact bind_congr fun a => hz a rendering

theorem Uniform.map {x : Rendering → m β} (hx : Uniform make x) {f : Rendering → β → δ} {g : α → γ}
    (h : ∀ rendering a, f rendering (make rendering a) = make' rendering (g a)) :
    Uniform make' fun rendering => f rendering <$> x rendering := by
  obtain ⟨y, hy⟩ := hx
  refine ⟨g <$> y, fun rendering => ?_⟩
  simp only [hy, Functor.map_map, h]

theorem Uniform.mapM {f : Rendering → γ → m β}
    (hf : ∀ c, Uniform make fun rendering => f rendering c) : ∀ l : List γ, Uniform (fun rendering => List.map (make rendering))
      fun rendering => l.mapM (f rendering)
  | [] => uniform_pure []
  | c :: l => by
    simp only [List.mapM_cons]
    exact (hf c).bind fun a => (Uniform.mapM hf l).bind fun as => uniform_pure (a :: as)

end Uniform

/-- The findings about subjects. -/
def findingsAbout (rendering : Rendering) (ds : List Subject) : List Finding :=
  ds.map (Subject.finding rendering)

namespace AsyncSuffix

theorem uniform_inspect (f : SourceFile) (method : SyntaxNode) :
    Uniform (fun rendering => Option.map (Subject.finding rendering))
      fun rendering => inspect rendering f method := by
  refine (uniform_same (method.requiredChild "type")).bind fun type => ?_
  refine (uniform_same (method.requiredChild "name")).bind fun name => ?_
  simp only [id]
  split_ifs
  · exact uniform_pure (some (Subject.method f name))
  · exact uniform_pure none

theorem uniform_findings (f : SourceFile) (filters : List Filter) :
    Uniform findingsAbout fun rendering => findings rendering f filters := by
  refine (uniform_same (suppressed f filters)).bind fun hit => ?_
  cases hit with
  | true => exact uniform_pure []
  | false =>
    refine (Uniform.mapM (uniform_inspect f) _).bind fun ds? => ?_
    have hfilter : ∀ rendering,
        (ds?.map (Option.map (Subject.finding rendering))).filterMap id =
          findingsAbout rendering (ds?.filterMap id) := by
      intro rendering
      rw [findingsAbout, List.filterMap_map, List.map_filterMap]
      rfl
    simp only [hfilter]
    exact uniform_pure (ds?.filterMap id)

end AsyncSuffix

namespace CommittedTodos

variable {h : History} {ignored : String → Bool} {commit : Commit}

theorem uniform_throw {α β : Type} {make : Rendering → α → β} (e : Failure) :
    Uniform make fun _ => (throw e : Reading β) :=
  ⟨throw e, fun _ => rfl⟩

theorem uniform_report (commitId text path : String) (c : Change) :
    Uniform Subject.finding fun rendering => report rendering h commitId text path c := by
  refine (uniform_same (h.blob c.blob)).bind fun content => ?_
  simp only [id]
  cases Utf8.decode content with
  | error e => exact uniform_throw _
  | ok source => exact uniform_pure (Subject.addition commitId text path source content c)

/-- The outcome of a scan for subjects, none if an ignored path was met. -/
def Outcome.about (rendering : Rendering) : Option (List Subject) → Outcome
  | none => .ignored
  | some ds => .found (findingsAbout rendering ds)

theorem Outcome.uniform_andThen {rest : Rendering → Reading Outcome}
    (hrest : Uniform Outcome.about rest) (ds? : Option (List Subject)) :
    Uniform Outcome.about fun rendering =>
      (Outcome.about rendering ds?).andThen (rest rendering) := by
  cases ds? with
  | none => exact uniform_pure none
  | some here =>
    refine hrest.map (g := Option.map (here ++ ·)) fun rendering there? => ?_
    cases there? with
    | none => rfl
    | some there => exact congrArg Outcome.found (List.map_append ..).symm

theorem uniform_scanFiles : ∀ fs : List ChangedFile,
    Uniform Outcome.about fun rendering => scanFiles rendering h ignored commit fs
  | [] => uniform_pure (some [])
  | f :: fs => by
    by_cases hi : ignored f.path = true
    · simp only [scanFiles_of_ignored hi]
      exact uniform_pure none
    · simp only [scanFiles_of_not_ignored (Bool.eq_false_iff.mpr hi)]
      cases commit.message with
      | none => exact uniform_throw _
      | some text =>
        refine (Uniform.mapM (uniform_report commit.id text f.path) _).bind fun here => ?_
        exact Outcome.uniform_andThen (uniform_scanFiles fs) (some here)

theorem uniform_scan : ∀ cs : List (Reading Commit),
    Uniform Outcome.about fun rendering => scan rendering h ignored cs
  | [] => uniform_pure (some [])
  | c :: cs => by
    simp only [scan_cons]
    refine (uniform_same c).bind fun commit => ?_
    exact (uniform_scanFiles commit.files).bind (Outcome.uniform_andThen (uniform_scan cs))

theorem uniform_findings (filters : List Filter) :
    Uniform findingsAbout fun rendering => findings rendering h filters := by
  simp only [findings_eq]
  refine (uniform_same h.commits).bind fun cs => ?_
  refine (uniform_scan cs).map (g := fun ds? => ds?.getD []) fun rendering ds? => ?_
  cases ds? <;> rfl

end CommittedTodos

/-- **A check finds the same subjects in both renderings.** -/
theorem uniform_execute {make : Rendering → Check Reading} (hmake : make ∈ builtinChecks.all)
    (x : Context) (filters : List Filter) :
    Uniform findingsAbout fun rendering => (make rendering).execute x filters := by
  have hnone : Uniform findingsAbout fun _ => (pure [] : Reading (List Finding)) := uniform_pure []
  simp only [builtinChecks, Registry.all, List.map_cons, List.map_nil, List.mem_cons,
    List.not_mem_nil, or_false] at hmake
  rcases hmake with rfl | rfl
  · cases x with
    | file f =>
      obtain ⟨y, hy⟩ := AsyncSuffix.uniform_findings f filters
      refine ⟨Reading.ofExcept .violation y, fun rendering => ?_⟩
      change Reading.ofExcept .violation (AsyncSuffix.findings rendering f filters) = _
      rw [show AsyncSuffix.findings rendering f filters = _ from hy rendering]
      cases y <;> rfl
    | directory path => exact hnone
    | history h => exact hnone
  · cases x with
    | file f => exact hnone
    | directory path => exact hnone
    | history h => exact CommittedTodos.uniform_findings filters

/-- **Messages with and without escape sequences say the same.** From every session a check fails
with the same error in both renderings, or it finds in both the same subjects in the same order; it
leaves the same session. The findings about each subject are in the same file and commit, and if no
text that their message shows holds a tab or an escape character, then the message with escape
sequences, read without them, is the message without. A screen that trims wide lines makes no
difference where none of them ends with a blank. -/
theorem execute_renderings {make : Rendering → Check Reading} (hmake : make ∈ builtinChecks.all)
    (x : Context) (filters : List Filter) (s : Session) : ∃ s',
    (∃ e, ∀ rendering, ((make rendering).execute x filters).start s = (.error e, s')) ∨
    ∃ ds : List Subject, (∀ d ∈ ds, d.Consistent) ∧ ∀ rendering,
      ((make rendering).execute x filters).start s = (.ok (findingsAbout rendering ds), s') := by
  obtain ⟨y, hy⟩ := uniform_execute hmake x filters
  beta_reduce at hy
  rcases hstart : y.start s with ⟨e | ds, s'⟩
  · refine ⟨s', Or.inl ⟨e, fun rendering => ?_⟩⟩
    rw [hy, Reading.start_map, hstart]
    rfl
  · refine ⟨s', Or.inr ⟨ds, fun d _ => d.consistent, fun rendering => ?_⟩⟩
    rw [hy, Reading.start_map, hstart]
    rfl

/-- The name of the method in the sample file. -/
def sampleName : SyntaxNode := .node "name" 5 6 (some "name") []

theorem findings_sampleFile (rendering : Rendering) :
    AsyncSuffix.findings rendering Engine.sampleFile [] =
      .ok [Subject.finding rendering (.method Engine.sampleFile sampleName)] := by
  have hnodes : Engine.sampleFile.tree.nodesOfKind AsyncSuffix.methodKinds =
      [Engine.sampleFile.root] := by
    simp [Engine.sampleFile, SourceFile.tree, SyntaxTree.nodesOfKind, SyntaxTree.nodes,
      SyntaxNode.walk, AsyncSuffix.methodKinds, SyntaxNode.children, SyntaxNode.kind]
  have hoffends : AsyncSuffix.offends
      (Engine.sampleFile.tree.textOf (.node "type" 0 4 (some "type") []))
      (Engine.sampleFile.tree.textOf sampleName) = true := by
    decide +kernel
  have hinspect : AsyncSuffix.inspect rendering Engine.sampleFile Engine.sampleFile.root =
      .ok (some (Subject.finding rendering (.method Engine.sampleFile sampleName))) :=
    if_pos hoffends
  rw [AsyncSuffix.findings_nil_filters, hnodes, List.mapM_cons, hinspect]
  rfl

/-- In a file with a method there is a finding, whose two messages say the same. -/
theorem execute_renderings_sample : ∃ d : Subject,
    (∀ rendering, (((AsyncSuffix.check rendering).execute (.file Engine.sampleFile)
      []).start {}).1 = .ok [d.finding rendering]) ∧
    d.Tidy ∧ (d.finding .styled).plainMessage = (d.finding .plain).message := by
  have hmake : AsyncSuffix.check ∈ builtinChecks.all := List.mem_cons_self
  have hstart : ∀ rendering, (((AsyncSuffix.check rendering).execute (.file Engine.sampleFile)
      []).start {}).1 = .ok [Subject.finding rendering (.method Engine.sampleFile sampleName)] := by
    intro rendering
    change ((Reading.ofExcept .violation (AsyncSuffix.findings rendering Engine.sampleFile
      [])).start {}).1 = _
    rw [findings_sampleFile]
    rfl
  obtain ⟨s', ⟨e, herror⟩ | ⟨ds, hds, hok⟩⟩ :=
    execute_renderings hmake (.file Engine.sampleFile) [] {}
  · have hnone := hstart .plain
    rw [herror] at hnone
    cases hnone
  · have hfindings : ∀ rendering, findingsAbout rendering ds =
        [Subject.finding rendering (.method Engine.sampleFile sampleName)] := by
      intro rendering
      have hsome := hstart rendering
      rw [hok rendering] at hsome
      exact Except.ok.inj hsome
    obtain ⟨d, rfl⟩ : ∃ d, ds = [d] := List.length_eq_one_iff.mp (by
      simpa [findingsAbout] using congrArg List.length (hfindings .plain))
    have hconsistent := hds d (List.mem_singleton_self d)
    have htidy : d.Tidy := by
      have hplain : d.finding .plain = _ := (List.cons.inj (hfindings .plain)).1
      have hall : (StyledText.chars (Subject.method Engine.sampleFile sampleName).message.text).all
          (¬ Shifty ·) = true := by decide +kernel
      rw [hconsistent.tidy, hplain, Subject.toList_message_plain]
      exact fun c hc => of_decide_eq_true (List.all_eq_true.mp hall c hc)
    exact ⟨d, fun rendering => congrArg Prod.fst (hok rendering), htidy, hconsistent.message htidy⟩

end HouseRules
