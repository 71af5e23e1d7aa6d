import HouseRules.Proofs.Check.OffendingMethods
import HouseRules.Proofs.Check.Suppression
import HouseRules.Proofs.Snippet.CaretColumns
import HouseRules.Proofs.Styled.ReadLines

/-! # Carets below the name of a method

A message with escape sequences shows the line of a name with its tabs as spaces, while the row of
carets has one blank for each character before the name. So the carets stand as many columns before
the name as the tabs in front of it add to the line (`exists_expanded_append`), and right below it
if there are none. -/

namespace HouseRules.AsyncSuffix

open Styled Snippet

/-- A control character. -/
def IsControl (c : Char) : Prop := c.toNat < 0x20 ∨ 0x7F ≤ c.toNat ∧ c.toNat ≤ 0x9F

instance : DecidablePred IsControl :=
  fun c => inferInstanceAs (Decidable (c.toNat < 0x20 ∨ 0x7F ≤ c.toNat ∧ c.toNat ≤ 0x9F))

/-- The lines of a message without its escape sequences. -/
def shownRows (message : String) : List (List Char) :=
  Search.pieces '\n' (StyledText.chars (ofEscapes message))

/-- The last line of a part of a text. -/
def lastLine (pre : List Char) : List Char := (Search.pieces '\n' pre).getLastD []

/-- What stands before a word in its row: the number of the line and its part before the word. -/
def rowFront (pre : List Char) : List Char :=
  (Nat.repr (pre.count '\n' + 1)).toList ++ (" | ".toList ++ lastLine pre)

theorem length_rowFront (pre : List Char) :
    (rowFront pre).length = margin (pre.count '\n' + 1) + (lastLine pre).length := by
  have hbar : " | ".toList.length = 3 := by decide
  rw [rowFront, List.length_append, List.length_append, String.length_toList, hbar, margin]
  omega

/-- What stands in a line before a part of it that follows `pre`. -/
theorem lastLine_eq {cs pre part rest : List Char} {k : Nat}
    (hline : (LineIndex.textLines cs)[k]? = some (part ++ rest))
    (hfront : LineIndex.front (LineIndex.textLines cs) k ++ part = pre) : lastLine pre = part := by
  obtain ⟨-, -, hfree, -⟩ := LineIndex.exists_rest hline
  rw [List.mem_append, not_or] at hfree
  have hlines : ∀ l ∈ (LineIndex.textLines cs).take k, '\n' ∉ l := fun l hl hmem =>
    (Search.mem_of_mem_pieces (List.mem_of_mem_take hl) hmem).2 rfl
  rw [← hfront, lastLine, LineIndex.front, Search.pieces_flatMap_append part hlines,
    Search.pieces_of_not_mem hfree.1]
  simp

/-! ### Rows -/

theorem legible_lineRow {line : List Char} (h : Legible line) (n : Nat) :
    Legible (lineRow n line) := by
  rw [lineRow, legible_append, legible_append]
  exact ⟨legible_repr n, by decide, h.kept⟩

theorem legible_caretsRow (n blanks carets : Nat) : Legible (caretsRow title n blanks carets) := by
  have htitle : Legible (' ' :: kept title.toList) := by decide
  simp only [caretsRow, legible_append]
  exact ⟨legible_replicate (by decide) _, by decide, legible_replicate (by decide) _,
    legible_replicate (by decide) _, htitle⟩

theorem legible_barRow (n : Nat) : Legible (barRow n) := by
  rw [barRow, legible_append]
  exact ⟨legible_replicate (by decide) _, by decide⟩

/-- The part of a file that is shown for a name. -/
def snippet (f : SourceFile) (name : SyntaxNode) : Snippet where
  source := f.contents
  origin := f.path
  range := ⟨name.start, name.stop⟩
  label := title

theorem exists_help (f : SourceFile) (name : SyntaxNode) : ∃ text,
    (message f name).help = some text ∧ (message f name).rows.map StyledText.chars =
      StyledText.chars (message f name).titleRow :: ((snippet f name).rows.map StyledText.chars ++
        [StyledText.chars (Message.helpRow (snippet f name).pad text)]) := by
  have hsnippets : (message f name).snippets = [snippet f name] := rfl
  refine ⟨_, rfl, ?_⟩
  rw [Message.rows, hsnippets]
  simp [message]

theorem legible_help {f : SourceFile} {name : SyntaxNode} {text : StyledText}
    (hhelp : (message f name).help = some text) (h : Legible (f.tree.textOf name).toList) :
    Legible (StyledText.chars text) := by
  have hnil : Legible [] := by decide
  have hconsider : Legible "consider ".toList := by decide
  have hsuffix : Legible suffix.toList := by decide
  have htext : (s!"consider {f.tree.textOf name}").toList =
      "consider ".toList ++ (f.tree.textOf name).toList := by
    rw [← String.toList_append]
    rfl
  cases hhelp
  simp only [StyledText.chars_bare_cons, StyledText.chars_span_cons, StyledText.chars_nil, htext,
    kept_append, legible_append]
  exact ⟨⟨hconsider.kept, h.kept⟩, hsuffix.kept, hnil⟩

/-! ### Findings -/

theorem exists_reports {rendering : Rendering} {f : SourceFile} {filters : List Filter}
    {s s' : Session} {fs : List Finding}
    (h : ((check rendering).execute (.file f) filters).start s = (.ok fs, s')) {x : Finding}
    (hx : x ∈ fs) : ∃ n ∈ methods f, Reports rendering f n x := by
  have hfindings : findings rendering f filters = .ok fs := by
    change (Reading.ofExcept .violation (findings rendering f filters)).start s = _ at h
    cases hf : findings rendering f filters with
    | error e =>
      rw [hf] at h
      cases h
    | ok found =>
      rw [hf] at h
      cases h
      rfl
  obtain ⟨b, -, hb⟩ := findings_inv hfindings
  cases b with
  | true =>
    rw [if_pos rfl] at hb
    rw [hb] at hx
    cases hx
  | false =>
    rw [if_neg Bool.false_ne_true] at hb
    cases hfound : (f.tree.nodesOfKind methodKinds).mapM (inspect rendering f) with
    | error e =>
      rw [hfound] at hb
      cases hb
    | ok found =>
      rw [hfound] at hb
      cases hb
      obtain ⟨x?, hmem, hx?⟩ := List.mem_filterMap.mp hx
      obtain ⟨n, hn, hinspect⟩ := ((mem_of_mapM hfound).2 x?).mp hmem
      rw [f.tree.nodesOfKind_eq] at hn
      refine ⟨n, hn, ?_⟩
      by_cases hcomplete : Complete n
      · obtain ⟨y?, hy, hreports, -⟩ := inspect_complete rendering f hcomplete
        cases hy.symm.trans hinspect
        exact hreports x hx?
      · obtain ⟨field, hlacks⟩ := exists_lacks hcomplete
        cases (inspect_lacks rendering f hlacks).symm.trans hinspect

/-! ### The message -/

section Word

variable {f : SourceFile} {name : SyntaxNode} {pre word post : List Char}
  (hcontrol : ∀ c ∈ f.contents.toList, IsControl c → c = '\n' ∨ c = '\t')
  (hcontents : f.contents.toList = pre ++ (word ++ post))
  (hstart : name.start = (Utf8.encodeList pre).length)
  (hstop : name.stop = (Utf8.encodeList (pre ++ word)).length)
  (hword : word ≠ []) (hline : '\n' ∉ word)

include hcontrol in
theorem shown_of_mem {c : Char} (hc : c ∈ f.contents.toList) :
    c ≠ StyledText.escape ∧ isDropped c = false := by
  by_cases h : IsControl c
  · rcases hcontrol c hc h with rfl | rfl
    · decide
    · decide
  · unfold IsControl at h
    refine ⟨?_, ?_⟩
    · rintro rfl
      exact h (by decide)
    · simp only [isDropped, Bool.or_eq_false_iff, Bool.and_eq_false_iff, beq_eq_false_iff_ne,
        decide_eq_false_iff_not]
      omega

include hcontrol in
theorem legible_textLine {k : Nat} {l : List Char}
    (h : (LineIndex.textLines f.contents.toList)[k]? = some l) : Legible l := by
  obtain ⟨tail, hsplit, hfree, -⟩ := LineIndex.exists_rest h
  intro c hc
  have hmem : c ∈ f.contents.toList := by
    rw [hsplit]
    exact List.mem_append_right _ (List.mem_append_left _ hc)
  exact ⟨fun heq => hfree (heq ▸ hc), shown_of_mem hcontrol hmem⟩

include hcontents hstart hstop

theorem textOf_word : (f.tree.textOf name).toList = word := by
  have hslice : Bytes.slice f.tree.source name.start name.stop = Utf8.encodeList word := by
    change Bytes.slice (Utf8.encodeList f.contents.toList) _ _ = _
    rw [hcontents, hstart, hstop]
    exact LineIndex.slice_encodeList pre word post
  rw [SyntaxTree.textOf, hslice, Utf8.decodeLossy, String.toList_ofList,
    Utf8.decodeLossyList_encodeList]

include hcontrol hword hline

/-- The last rows of the message. -/
theorem exists_rows_message : ∃ above bar help rest, above ≠ [] ∧
    (message f name).rows.map StyledText.chars = above ++
      [lineRow (pre.count '\n' + 1) (lastLine pre ++ (word ++ rest)),
        caretsRow title (pre.count '\n' + 1) (lastLine pre).length word.length, bar, help] ∧
    (LineIndex.textLines f.contents.toList)[pre.count '\n']? =
      some (lastLine pre ++ (word ++ rest)) ∧ Legible bar ∧ Legible help := by
  have hrange : (snippet f name).range = ⟨((Utf8.encodeList pre).length : Int),
      ((Utf8.encodeList (pre ++ word)).length : Int)⟩ := by
    rw [snippet, hstart, hstop]
  obtain ⟨part, rest, hsplit, hfront, hrows⟩ := rows_of_word (s := snippet f name) hcontents hrange
    hword hline (fun c hc => (shown_of_mem hcontrol hc).2) rfl (by decide : title ≠ "")
  obtain ⟨location, hlineRows⟩ := lineRows_eq f.path title (pre.count '\n' + 1)
    (part ++ (word ++ rest)) part.length word.length
  obtain ⟨text, hhelp, hmessage⟩ := exists_help f name
  have hname : Legible (f.tree.textOf name).toList := by
    have hlegible := legible_textLine hcontrol hsplit
    rw [legible_append, legible_append] at hlegible
    rw [textOf_word hcontents hstart hstop]
    exact hlegible.2.1
  rw [lastLine_eq hsplit hfront]
  refine ⟨[StyledText.chars (message f name).titleRow, location, barRow (pre.count '\n' + 1)],
    barRow (pre.count '\n' + 1), StyledText.chars (Message.helpRow (snippet f name).pad text), rest,
    by simp, ?_, hsplit, legible_barRow _, ?_⟩
  · rw [hmessage, hrows]
    exact congrArg (fun rows => _ :: (rows ++ _)) hlineRows
  · rw [Message.chars_helpRow, Snippet.pad, Layout.kept_pad, legible_append, legible_append]
    exact ⟨legible_replicate (by decide) _, by decide, legible_help hhelp hname⟩

/-- **The last rows of the message as it is shown**: the line of the name with its tabs as spaces,
the carets, a bar and the help. -/
theorem exists_shownRows : ∃ above below rest, below.length = 2 ∧
    shownRows (Rendering.styled.render (message f name)) = above ++
      [expanded (rowFront pre ++ (word ++ rest)),
        caretsRow title (pre.count '\n' + 1) (lastLine pre).length word.length] ++ below ∧
    (LineIndex.textLines f.contents.toList)[pre.count '\n']? =
      some (lastLine pre ++ (word ++ rest)) := by
  obtain ⟨above, bar, help, rest, habove, hrows, hsplit, hbar, hhelp⟩ :=
    exists_rows_message hcontrol hcontents hstart hstop hword hline
  have hlegible := legible_textLine hcontrol hsplit
  have hrow : lineRow (pre.count '\n' + 1) (lastLine pre ++ (word ++ rest)) =
      rowFront pre ++ (word ++ rest) := by
    have hkept : kept (lastLine pre ++ (word ++ rest)) = lastLine pre ++ (word ++ rest) :=
      List.filter_eq_self.mpr fun c hc => by rw [(hlegible c hc).2.2]; rfl
    rw [lineRow, hkept, rowFront]
    simp only [List.append_assoc]
  have hbelow : ∀ l ∈ [lineRow (pre.count '\n' + 1) (lastLine pre ++ (word ++ rest)),
      caretsRow title (pre.count '\n' + 1) (lastLine pre).length word.length, bar, help],
      Legible l := by
    simp only [List.forall_mem_cons]
    exact ⟨legible_lineRow hlegible _, legible_caretsRow _ _ _, hbar, hhelp, by simp⟩
  obtain ⟨above', hread⟩ := pieces_ofEscapes_render habove (by simp) hrows hbelow
  have hcarets : expanded (caretsRow title (pre.count '\n' + 1) (lastLine pre).length word.length) =
      caretsRow title (pre.count '\n' + 1) (lastLine pre).length word.length :=
    expanded_eq_self (not_mem_caretsRow (by decide) (by decide) _ _ _)
  refine ⟨above', [expanded bar, expanded help], rest, rfl, ?_, hsplit⟩
  rw [shownRows, hread, List.map_cons, List.map_cons, hrow, hcarets]
  simp

end Word

/-- **Where the carets of a message with escape sequences stand.** Each finding in a file without
other control characters than line feeds and tabs is about the name of a method. If the name is a
word in one line, its line and a row of carets are shown without the sequences in the message; the
carets stand in the columns that the word has before its tabs and those in front of it are spaces.
A word without tabs stands there or further to the right, and right above the carets if no tab
stands before it in its line. The rows are those of a console that keeps the blanks at the ends of
lines; one that trims wide lines leaves out blanks behind the word only. -/
theorem execute_styled_carets {f : SourceFile} {filters : List Filter} {s s' : Session}
    {fs : List Finding} (hrun : ((check .styled).execute (.file f) filters).start s = (.ok fs, s'))
    (hcontrol : ∀ c ∈ f.contents.toList, IsControl c → c = '\n' ∨ c = '\t') {x : Finding}
    (hx : x ∈ fs) : ∃ n ∈ methods f, Reports .styled f n x ∧
      ∃ name, n.part? "name" = some name ∧ ∀ pre word post,
        f.contents.toList = pre ++ (word ++ post) → name.start = (Utf8.encodeList pre).length →
        name.stop = (Utf8.encodeList (pre ++ word)).length → word ≠ [] → '\n' ∉ word →
        (f.tree.textOf name).toList = word ∧ ∃ above sourceRow caretRow below rest,
          shownRows x.message = above ++ [sourceRow, caretRow] ++ below ∧ below.length = 2 ∧
          (LineIndex.textLines f.contents.toList)[pre.count '\n']? =
            some (lastLine pre ++ (word ++ rest)) ∧
          sourceRow = expanded (rowFront pre ++ (word ++ rest)) ∧
          (∀ j : Nat, caretRow[j]? = some '^' ↔
            (rowFront pre).length ≤ j ∧ j < (rowFront pre).length + word.length) ∧
          ('\t' ∉ word → (∃ tail, sourceRow = expanded (rowFront pre) ++ (word ++ tail)) ∧
            (rowFront pre).length ≤ (expanded (rowFront pre)).length ∧
            ('\t' ∉ lastLine pre →
              (sourceRow.drop (rowFront pre).length).take word.length = word)) := by
  obtain ⟨n, hn, hreports⟩ := exists_reports hrun hx
  obtain ⟨name, hname, hmessage⟩ := hreports.message
  refine ⟨n, hn, hreports, name, hname, ?_⟩
  intro pre word post hcontents hstart hstop hword hline
  obtain ⟨above, below, rest, hbelow, hrows, hsplit⟩ :=
    exists_shownRows hcontrol hcontents hstart hstop hword hline
  refine ⟨textOf_word hcontents hstart hstop, above, _, _, below, rest, by rw [hmessage, hrows],
    hbelow, hsplit, rfl, ?_, ?_⟩
  · intro j
    rw [getElem?_caretsRow_iff (by decide), length_rowFront]
  · intro htab
    obtain ⟨tail, htail⟩ := exists_expanded_append htab (rowFront pre) rest
    refine ⟨⟨tail, htail⟩, length_le_expanded _, fun hfree => ?_⟩
    have hself : expanded (rowFront pre) = rowFront pre := by
      refine expanded_eq_self ?_
      have hnumber := not_mem_repr (c := '\t') (by decide) (pre.count '\n' + 1)
      have hbar : '\t' ∉ " | ".toList := by decide
      simp only [rowFront, List.mem_append, hnumber, hbar, hfree, or_self, not_false_eq_true]
    rw [htail, hself, List.drop_left, List.take_left]

/-! ### Two files -/

/-- The name of the method in the next file. -/
def nameNode (lead : String) : SyntaxNode :=
  .node "identifier" ((Utf8.encode lead).length + 5) ((Utf8.encode lead).length + 6) (some "name")
    []

/-- A file with a method behind other characters. -/
def methodFile (lead : String) : SourceFile where
  path := "a.cs"
  contents := lead ++ "Task F(\t){}"
  root := .node "method_declaration" (Utf8.encode lead).length ((Utf8.encode lead).length + 11) none
    [.node "type" (Utf8.encode lead).length ((Utf8.encode lead).length + 4) (some "type") [],
      nameNode lead]

section Method

variable (lead : String)

theorem contents_methodFile : (methodFile lead).contents.toList =
    (lead.toList ++ "Task ".toList) ++ (['F'] ++ "(\t){}".toList) := by
  rw [methodFile, String.toList_append, List.append_assoc]
  rfl

theorem start_nameNode : (nameNode lead).start =
    (Utf8.encodeList (lead.toList ++ "Task ".toList)).length := by
  rw [Utf8.encodeList_append, List.length_append]
  rfl

theorem stop_nameNode : (nameNode lead).stop =
    (Utf8.encodeList (lead.toList ++ "Task ".toList ++ ['F'])).length := by
  rw [List.append_assoc, Utf8.encodeList_append, List.length_append]
  rfl

theorem control_methodFile (h : lead.toList.all fun c => IsControl c → c = '\n' ∨ c = '\t') :
    ∀ c ∈ (methodFile lead).contents.toList, IsControl c → c = '\n' ∨ c = '\t' := by
  have hmethod : "Task F(\t){}".toList.all fun c => IsControl c → c = '\n' ∨ c = '\t' := by decide
  intro c hc
  rw [methodFile, String.toList_append, List.mem_append] at hc
  rcases hc with hc | hc
  · exact of_decide_eq_true (List.all_eq_true.mp h c hc)
  · exact of_decide_eq_true (List.all_eq_true.mp hmethod c hc)

theorem nodes_methodFile :
    (methodFile lead).tree.nodesOfKind methodKinds = [(methodFile lead).root] := by
  simp [methodFile, nameNode, SourceFile.tree, SyntaxTree.nodesOfKind, SyntaxTree.nodes,
    SyntaxNode.walk, methodKinds, SyntaxNode.children, SyntaxNode.kind]

theorem textOf_nameNode : (methodFile lead).tree.textOf (nameNode lead) = "F" :=
  String.toList_injective
    (textOf_word (contents_methodFile lead) (start_nameNode lead) (stop_nameNode lead))

theorem execute_methodFile : ((check .styled).execute (.file (methodFile lead)) []).start {} =
    (.ok [⟨checkId, Rendering.styled.render (message (methodFile lead) (nameNode lead)),
      "a.cs", none⟩], {}) := by
  let type : SyntaxNode := .node "type" (Utf8.encode lead).length ((Utf8.encode lead).length + 4)
    (some "type") []
  have htype : (methodFile lead).tree.textOf type = "Task" := by
    have hcontents : (methodFile lead).contents.toList =
        lead.toList ++ ("Task".toList ++ " F(\t){}".toList) := by
      rw [methodFile, String.toList_append]
      rfl
    refine String.toList_injective (textOf_word hcontents rfl ?_)
    rw [Utf8.encodeList_append, List.length_append]
    rfl
  have hoffends : offends ((methodFile lead).tree.textOf type)
      ((methodFile lead).tree.textOf (nameNode lead)) = true := by
    rw [htype, textOf_nameNode]
    decide
  have hinspect : inspect .styled (methodFile lead) (methodFile lead).root =
      .ok (some ⟨checkId, Rendering.styled.render (message (methodFile lead) (nameNode lead)),
        "a.cs", none⟩) := if_pos hoffends
  change (Reading.ofExcept .violation (findings .styled (methodFile lead) [])).start {} = _
  rw [findings_nil_filters, nodes_methodFile, List.mapM_cons, hinspect]
  rfl

end Method

/-- Characters of two bytes before the name and a tab behind it. -/
theorem execute_styled_carets_behind : ∃ x above sourceRow caretRow below,
    ((check .styled).execute (.file (methodFile "é;")) []).start {} = (.ok [x], {}) ∧
    shownRows x.message = above ++ [sourceRow, caretRow] ++ below ∧
    ∀ j : Nat, caretRow[j]? = some '^' → sourceRow[j]? = some 'F' := by
  have hcontrol := control_methodFile "é;" (by decide)
  obtain ⟨n, hn, -, name, hname, hcarets⟩ :=
    execute_styled_carets (execute_methodFile "é;") hcontrol (List.mem_singleton_self _)
  have hnode : name = nameNode "é;" := by
    have hmethods : methods (methodFile "é;") = [(methodFile "é;").root] :=
      ((methodFile "é;").tree.nodesOfKind_eq methodKinds).symm.trans (nodes_methodFile "é;")
    rw [hmethods, List.mem_singleton] at hn
    rw [hn] at hname
    exact (Option.some.inj hname).symm
  rw [hnode] at hcarets
  obtain ⟨-, above, sourceRow, caretRow, below, rest, hrows, -, -, -, hcolumns, hword⟩ :=
    hcarets _ _ _ (contents_methodFile "é;") (start_nameNode "é;") (stop_nameNode "é;") (by decide)
      (by decide)
  obtain ⟨-, -, hname⟩ := hword (by decide)
  have hshown := hname (by decide)
  refine ⟨_, above, sourceRow, caretRow, below, execute_methodFile "é;", hrows, fun j hj => ?_⟩
  have hbounds := (hcolumns j).mp hj
  have hcolumn : j = (rowFront ("é;".toList ++ "Task ".toList)).length := by
    rw [List.length_singleton] at hbounds
    omega
  rw [hcolumn, ← List.head?_drop]
  cases hdrop : sourceRow.drop (rowFront ("é;".toList ++ "Task ".toList)).length with
  | nil =>
    rw [hdrop] at hshown
    cases hshown
  | cons c r =>
    rw [hdrop] at hshown
    cases hshown
    rfl

/-- Behind a tab, the name stands three columns behind its caret. -/
theorem execute_styled_carets_tab : ∃ x above below,
    (∀ c ∈ (methodFile "\t").contents.toList, IsControl c → c = '\n' ∨ c = '\t') ∧
    ((check .styled).execute (.file (methodFile "\t")) []).start {} = (.ok [x], {}) ∧
    (methodFile "\t").root.part? "name" = some (nameNode "\t") ∧
    (methodFile "\t").tree.textOf (nameNode "\t") = "F" ∧
    shownRows x.message = above ++
      ["1 |     Task F( ){}".toList, ("  |       ^ " ++ title).toList] ++ below ∧
    below.length = 2 ∧ ("  |       ^ " ++ title).toList[10]? = some '^' ∧
    "1 |     Task F( ){}".toList[10]? = some 's' := by
  have hcontrol := control_methodFile "\t" (by decide)
  obtain ⟨above, below, rest, hbelow, hrows, hsplit⟩ := exists_shownRows hcontrol
    (contents_methodFile "\t") (start_nameNode "\t") (stop_nameNode "\t") (by decide) (by decide)
  have hline : (LineIndex.textLines (methodFile "\t").contents.toList)[
      ("\t".toList ++ "Task ".toList).count '\n']? = some
        (lastLine ("\t".toList ++ "Task ".toList) ++ (['F'] ++ "(\t){}".toList)) := by
    decide
  have hrest : rest = "(\t){}".toList := by
    have hsame := List.append_cancel_left (Option.some.inj (hsplit.symm.trans hline))
    exact List.append_cancel_left hsame
  have hsource : expanded (rowFront ("\t".toList ++ "Task ".toList) ++
      (['F'] ++ "(\t){}".toList)) = "1 |     Task F( ){}".toList := by decide
  have hcarets : caretsRow title (("\t".toList ++ "Task ".toList).count '\n' + 1)
      (lastLine ("\t".toList ++ "Task ".toList)).length ['F'].length =
        ("  |       ^ " ++ title).toList := by decide
  rw [hrest, hsource, hcarets] at hrows
  exact ⟨_, above, below, hcontrol, execute_methodFile "\t", rfl, textOf_nameNode "\t", hrows,
    hbelow, by decide, by decide⟩

end HouseRules.AsyncSuffix
