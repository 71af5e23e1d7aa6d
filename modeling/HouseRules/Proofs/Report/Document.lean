import HouseRules.Proofs.Json.Reader
import HouseRules.Report.Format

/-! # Reports as JSON documents

The JSON text of a report is read back as an object with the summary and, in order, the check, the
path, the commit and the message of each finding (`parse_jsonText`). It holds printable ASCII
characters and line feeds only (`all_jsonText`). -/

namespace HouseRules

open Json Styled

/-- The message of a finding without styles. -/
def Finding.plainMessage (f : Finding) : String := StyledText.plain (ofEscapes f.message)

/-- The JSON value of a finding. -/
def Finding.value (f : Finding) : Json.Value :=
  .object [("check", .string f.checkId), ("path", .string f.path),
    ("commit", (f.commitId.map .string).getD .null), ("message", .string f.plainMessage)]

/-- The JSON value of a report. -/
def Report.value (r : Report) : Json.Value :=
  .object [("summary", .string r.summary), ("errors", .array (r.findings.map Finding.value))]

namespace Report

theorem toList_literal (s : String) : (literal s).toList = literalChars .ascii s.toList :=
  String.toList_ofList

/-! ### Findings -/

/-- The members of a finding. -/
def findingMembers (f : Finding) : List Member :=
  [⟨"check", (literal f.checkId).toList, .string f.checkId⟩,
    ⟨"path", (literal f.path).toList, .string f.path⟩,
    ⟨"commit", ((f.commitId.map literal).getD "null").toList, (f.commitId.map .string).getD .null⟩,
    ⟨"message", (literal f.plainMessage).toList, .string f.plainMessage⟩]

theorem reads_findingMembers (f : Finding) : ∀ q ∈ findingMembers f, Reads 1 q.written q.value := by
  have hliteral : ∀ s, Reads 1 (literal s).toList (.string s) := by
    intro s
    rw [toList_literal]
    exact reads_literal .ascii s
  have hcommit : Reads 1 ((f.commitId.map literal).getD "null").toList
      ((f.commitId.map .string).getD .null) := by
    cases f.commitId with
    | none => exact reads_null
    | some id => exact hliteral id
  intro q hq
  simp only [findingMembers, List.mem_cons, List.not_mem_nil, or_false] at hq
  rcases hq with rfl | rfl | rfl | rfl <;> dsimp only
  · exact hliteral f.checkId
  · exact hliteral f.path
  · exact hcommit
  · exact hliteral f.plainMessage

theorem toList_jsonFinding (indent : String) (f : Finding) : (jsonFinding indent f).toList =
    indent.toList ++ ('\x7b' :: (['\n'] ++ ((',' :: ['\n']).intercalate
      ((findingMembers f).map (·.line (indent.toList ++ "  ".toList))) ++
        (('\n' :: indent.toList) ++ ['\x7d'])))) := by
  simp [jsonFinding, findingMembers, Member.line, toList_literal, Finding.plainMessage]

/-- **A finding is read back.** -/
theorem reads_jsonFinding {indent : String} (hindent : Blank indent.toList) (f : Finding) :
    Reads 6 (jsonFinding indent f).toList f.value := by
  have hlead : Blank (indent.toList ++ "  ".toList) := by
    rw [blank_append]
    exact ⟨hindent, by simp [Blank, isSpace]⟩
  have hspace : Blank ('\n' :: indent.toList) := blank_append.mpr ⟨blank_newline, hindent⟩
  have hobject := Reads.object (List.cons_ne_nil _ _) (reads_findingMembers f) blank_newline hlead
    hspace
  intro m hm r
  rw [toList_jsonFinding, List.append_assoc, readValue_append hindent]
  exact hobject m hm r

/-! ### Reports -/

/-- The findings as a JSON list. -/
def jsonFindings (fs : List Finding) : String :=
  if fs.isEmpty then "[]" else "[\n" ++ ",\n".intercalate (fs.map (jsonFinding "    ")) ++ "\n  ]"

theorem toList_jsonFindings {fs : List Finding} (h : fs ≠ []) : (jsonFindings fs).toList =
    '[' :: (['\n'] ++ ((',' :: ['\n']).intercalate
      (fs.map fun f => (jsonFinding "    " f).toList) ++ ("\n  ".toList ++ [']']))) := by
  have hne : fs.isEmpty = false := by simpa using h
  simp [jsonFindings, hne, Function.comp_def]

/-- **The findings of a report are read back.** -/
theorem reads_jsonFindings (fs : List Finding) :
    Reads (7 + fs.length) (jsonFindings fs).toList (.array (fs.map Finding.value)) := by
  have hspace : Blank "\n  ".toList := by simp [Blank, isSpace]
  cases fs with
  | nil =>
    intro m hm r
    obtain ⟨k, rfl⟩ : ∃ k, m = k + 1 := ⟨m - 1, by simp at hm; omega⟩
    rfl
  | cons f fs =>
    have hparts : ∀ q ∈ (f :: fs).map fun f => ((jsonFinding "    " f).toList, f.value),
        Reads 6 q.1 q.2 := by
      intro q hq
      obtain ⟨f', -, rfl⟩ := List.mem_map.mp hq
      dsimp only
      exact reads_jsonFinding (by simp [Blank, isSpace]) f'
    have harray := Reads.array (by simp) hparts blank_newline hspace
    simp only [List.length_map, List.map_map, Function.comp_def] at harray
    rw [toList_jsonFindings (List.cons_ne_nil f fs)]
    exact harray.mono (by omega)

/-- The members of a report. -/
def members (r : Report) : List Member :=
  [⟨"summary", (literal r.summary).toList, .string r.summary⟩,
    ⟨"errors", (jsonFindings r.findings).toList, .array (r.findings.map Finding.value)⟩]

theorem jsonText_eq (r : Report) : r.jsonText = "\x7b\n  " ++ literal "summary" ++ ": " ++
    literal r.summary ++ ",\n  " ++ literal "errors" ++ ": " ++ jsonFindings r.findings ++
    "\n\x7d" := by
  simp [jsonText, jsonFindings]

theorem toList_jsonText (r : Report) : r.jsonText.toList =
    '\x7b' :: (['\n'] ++ ((',' :: ['\n']).intercalate (r.members.map (·.line "  ".toList)) ++
      (['\n'] ++ ['\x7d']))) := by
  simp [jsonText_eq, members, Member.line, toList_literal]

/-- A report has at least as many characters as findings. -/
theorem length_jsonText (r : Report) : r.findings.length + 10 ≤ r.jsonText.toList.length + 1 := by
  have hparts : ∀ l : List (List Char), (∀ x ∈ l, x ≠ []) →
      l.length ≤ ([',', '\n'].intercalate l).length := by
    intro l
    induction l with
    | nil => simp
    | cons x l ih =>
      intro hl
      have hx : 0 < x.length := List.length_pos_of_ne_nil (hl x List.mem_cons_self)
      have hrest := ih fun y hy => hl y (List.mem_cons_of_mem x hy)
      cases l with
      | nil =>
        rw [List.intercalate_singleton, List.length_singleton]
        exact hx
      | cons y l =>
        rw [List.intercalate_cons_cons, List.length_append, List.length_append, List.length_cons]
        omega
  have hfindings : r.findings.length ≤ (jsonFindings r.findings).toList.length := by
    by_cases hnil : r.findings = []
    · simp [hnil]
    · have hle := hparts (r.findings.map fun f => (jsonFinding "    " f).toList) (by
        intro x hx
        obtain ⟨f, -, rfl⟩ := List.mem_map.mp hx
        rw [toList_jsonFinding]
        simp)
      rw [toList_jsonFindings hnil]
      simp only [List.length_map, List.length_cons, List.length_append] at hle ⊢
      omega
  rw [jsonText_eq]
  simp only [String.toList_append, List.length_append]
  have hone : "\x7b\n  ".toList.length = 4 := rfl
  have htwo : ",\n  ".toList.length = 4 := rfl
  have hthree : ": ".toList.length = 2 := rfl
  omega

/-- **A report is read back**, with white space behind it. -/
theorem parse_jsonText (r : Report) {space : String} (hspace : Blank space.toList) :
    Json.parse (r.jsonText ++ space) = some r.value := by
  have hindent : Blank "  ".toList := by simp [Blank, isSpace]
  have hmembers : ∀ q ∈ r.members, Reads (7 + r.findings.length) q.written q.value := by
    intro q hq
    simp only [members, List.mem_cons, List.not_mem_nil, or_false] at hq
    rcases hq with rfl | rfl <;> dsimp only
    · have hsummary := reads_literal .ascii r.summary
      rw [← toList_literal] at hsummary
      exact hsummary.mono (by omega)
    · exact reads_jsonFindings r.findings
  have hne : r.members ≠ [] := List.cons_ne_nil _ _
  have hobject := Reads.object hne hmembers blank_newline hindent blank_newline
  rw [← toList_jsonText] at hobject
  have hlength := length_jsonText r
  refine Reads.parse hobject ?_ hspace
  have htwo : r.members.length = 2 := rfl
  omega

/-! ### Characters -/

/-- A printable ASCII character. -/
def isPrintable (c : Char) : Bool := 0x20 ≤ c.toNat && c.toNat ≤ 0x7E

/-- A line feed or a printable ASCII character. -/
def isPlain (c : Char) : Bool := c = '\n' || (0x20 ≤ c.toNat && c.toNat ≤ 0x7E)

theorem all_unitEscape {n : Nat} (h : n < 0x10000) : (unitEscape n).all isPrintable = true := by
  have hdigit : ∀ d < 16, isPrintable (Nat.digitChar d) = true := by decide
  rw [unitEscape, hexDigits_four h]
  simp only [List.all_cons, List.all_nil, hdigit (n / 16 / 16 / 16) (by omega),
    hdigit (n / 16 / 16 % 16) (by omega), hdigit (n / 16 % 16) (by omega),
    hdigit (n % 16) (by omega)]
  decide

theorem all_literalChar (c : Char) : (literalChar .ascii c).all isPrintable = true := by
  have hvalid : c.toNat < 0xD800 ∨ 0xDFFF < c.toNat ∧ c.toNat < 0x110000 := c.valid
  unfold literalChar
  split_ifs with h₁ h₂ h₃ h₄ h₅ h₆ h₇ h₈ h₉
  · decide
  · decide
  · decide
  · decide
  · decide
  · decide
  · decide
  · exact all_unitEscape (by omega)
  · unfold codeEscape
    split_ifs with h
    · exact all_unitEscape h
    · rw [List.all_append, all_unitEscape (by omega), all_unitEscape (by omega)]
      rfl
  · have hlow : 0x20 ≤ c.toNat := by omega
    have hhigh : c.toNat ≤ 0x7E := by simpa using h₉
    simp [isPrintable, hlow, hhigh]

theorem all_isPrintable_literal (s : String) : (literal s).toList.all isPrintable = true := by
  have hquote : isPrintable '"' = true := by decide
  rw [toList_literal]
  simp [literalChars, hquote, List.all_flatMap, all_literalChar]

theorem all_literal (s : String) : (literal s).toList.all isPlain = true := by
  have hplain : ∀ c, isPrintable c = true → isPlain c = true := fun c hc => by
    rw [isPlain, ← isPrintable, hc, Bool.or_true]
  exact List.all_eq_true.mpr fun c hc =>
    hplain c (List.all_eq_true.mp (all_isPrintable_literal s) c hc)

theorem all_intercalate {sep : List Char} (hsep : sep.all isPlain = true) {l : List (List Char)}
    (h : ∀ x ∈ l, x.all isPlain = true) : (sep.intercalate l).all isPlain = true := by
  cases l with
  | nil => rfl
  | cons x l =>
    rw [intercalate_cons, List.all_append, List.all_flatMap, h x List.mem_cons_self, Bool.true_and,
      List.all_eq_true]
    intro y hy
    rw [List.all_append, hsep, h y (List.mem_cons_of_mem x hy)]
    rfl

theorem all_line {indent : List Char} (hindent : indent.all isPlain = true) {q : Member}
    (h : q.written.all isPlain = true) : (q.line indent).all isPlain = true := by
  have hkey := all_literal q.key
  rw [toList_literal] at hkey
  simp only [Member.line, List.all_append, List.all_cons, hindent, hkey, h]
  decide

/-- The lines of members are plain if their values are. -/
theorem all_lines {indent : List Char} (hindent : indent.all isPlain = true) {qs : List Member}
    (h : ∀ q ∈ qs, q.written.all isPlain = true) :
    ((',' :: ['\n']).intercalate (qs.map (·.line indent))).all isPlain = true := by
  refine all_intercalate (by decide) fun x hx => ?_
  obtain ⟨q, hq, rfl⟩ := List.mem_map.mp hx
  exact all_line hindent (h q hq)

theorem all_jsonFinding (f : Finding) : (jsonFinding "    " f).toList.all isPlain = true := by
  have hcommit : ((f.commitId.map literal).getD "null").toList.all isPlain = true := by
    cases f.commitId with
    | none => decide
    | some id => exact all_literal id
  have hmembers : ∀ q ∈ findingMembers f, q.written.all isPlain = true := by
    simp only [findingMembers, List.forall_mem_cons, all_literal, hcommit]
    simp
  have hspaces : "    ".toList.all isPlain = true := by decide
  have hindent : ("    ".toList ++ "  ".toList).all isPlain = true := by decide
  simp only [toList_jsonFinding, List.all_append, List.all_cons, all_lines hindent hmembers,
    hspaces]
  decide

/-- **The JSON text of a report** holds printable ASCII characters and line feeds only. -/
theorem all_jsonText (r : Report) : r.jsonText.toList.all isPlain = true := by
  have hfindings : (jsonFindings r.findings).toList.all isPlain = true := by
    by_cases hnil : r.findings = []
    · rw [hnil]
      decide
    · have hlist : ((',' :: ['\n']).intercalate
          (r.findings.map fun f => (jsonFinding "    " f).toList)).all isPlain = true := by
        refine all_intercalate (by decide) fun x hx => ?_
        obtain ⟨f, -, rfl⟩ := List.mem_map.mp hx
        exact all_jsonFinding f
      simp only [toList_jsonFindings hnil, List.all_append, List.all_cons, hlist]
      decide
  have hmembers : ∀ q ∈ r.members, q.written.all isPlain = true := by
    simp only [members, List.forall_mem_cons, all_literal, hfindings]
    simp
  have hindent : "  ".toList.all isPlain = true := by decide
  simp only [toList_jsonText, List.all_append, List.all_cons, all_lines hindent hmembers]
  decide

end Report
end HouseRules
