import HouseRules.Proofs.Diff.ReadLine

/-! # Reading the names of a patch

The lines for the two sides give the path of the file, whatever it holds (`headerPath?_there`).
The title gives it if the names are quoted, or if the path holds no ` b/`; else it gives what
follows the last one (`titlePath?_title`). -/

namespace HouseRules.Diff

namespace FilePatch

theorem name_of_quoted {p : FilePatch} (h : p.needsQuotes = true) (side : String)
    (hs : ∀ x ∈ Bytes.ofAscii side, isSpecial x = false) :
    p.name side = quote :: (Bytes.ofAscii side ++ (p.path.bytes.flatMap writeByte ++ [quote])) := by
  have hside : (Bytes.ofAscii side).flatMap writeByte = Bytes.ofAscii side := by
    have hmap : (Bytes.ofAscii side).flatMap writeByte = (Bytes.ofAscii side).flatMap ([·]) :=
      List.flatMap_congr fun x hx => by rw [writeByte, hs x hx]; rfl
    rw [hmap, List.flatMap_singleton']
  have hany : (Bytes.ofAscii side ++ p.path.bytes).any isSpecial = true := by
    rw [List.any_append]
    exact Bool.or_eq_true_iff.mpr (Or.inr h)
  rw [name, writeName, if_pos hany, List.flatMap_append, hside, List.cons_append, List.append_assoc]

theorem name_of_plain {p : FilePatch} (h : p.needsQuotes = false) (side : String)
    (hs : ∀ x ∈ Bytes.ofAscii side, isSpecial x = false) :
    p.name side = Bytes.ofAscii side ++ p.path.bytes := by
  have hany : (Bytes.ofAscii side ++ p.path.bytes).any isSpecial = false := by
    rw [List.any_append, Bool.or_eq_false_iff]
    exact ⟨List.any_eq_false.mpr fun x hx => by rw [hs x hx]; decide, h⟩
  rw [name, writeName, hany]
  rfl

/-- The last byte of a name is no tab, and it is a quote only where the name is quoted. -/
theorem getLast?_name (p : FilePatch) (side : String)
    (hs : ∀ x ∈ Bytes.ofAscii side, isSpecial x = false) :
    ∃ t x, p.name side = t ++ [x] ∧ (x == 0x09) = false ∧ (x == quote) = p.needsQuotes := by
  cases h : p.needsQuotes with
  | true =>
    refine ⟨quote :: (Bytes.ofAscii side ++ p.path.bytes.flatMap writeByte), quote, ?_, by decide,
      by decide⟩
    rw [name_of_quoted h side hs, List.cons_append, List.append_assoc]
  | false =>
    obtain ⟨t, x, ht⟩ := (List.eq_nil_or_concat p.path.bytes).resolve_left p.path.ne_nil
    have hx : isSpecial x = false := by
      have hall := List.any_eq_false.mp h x (by rw [ht]; simp)
      rwa [Bool.not_eq_true] at hall
    refine ⟨Bytes.ofAscii side ++ t, x, ?_, ?_, ?_⟩
    · rw [name_of_plain h side hs, ht, List.concat_eq_append, List.append_assoc]
    · rw [beq_eq_false_iff_ne]
      rintro rfl
      exact absurd hx (by decide)
    · rw [beq_eq_false_iff_ne]
      rintro rfl
      exact absurd hx (by decide)

end FilePatch

/-! ### The lines of the two sides -/

/-- The line of a side that is there gives the path. -/
theorem headerPath?_there (p : FilePatch) {mark side : String}
    (hmark : (Bytes.ofAscii mark).length = 4)
    (hs : ∀ x ∈ Bytes.ofAscii side, isSpecial x = false) :
    headerPath? (Bytes.ofAscii mark ++ p.label side true) (Bytes.ofAscii side) =
      .ok (some (Utf8.decodeLossy p.path.bytes)) := by
  have hlabel : Search.dropEndWhile (· == 0x09) (p.label side true) = p.name side := by
    obtain ⟨t, x, ht, hx, -⟩ := p.getLast?_name side hs
    have hname : Search.dropEndWhile (· == 0x09) (p.name side) = p.name side := by
      rw [ht]
      exact Search.dropEndWhile_append_of_neg (p := (· == 0x09)) hx t
    rw [FilePatch.label, FilePatch.sideName, if_pos rfl, Bool.true_and]
    split_ifs
    · rw [Search.dropEndWhile_append_of_pos rfl, hname]
    · rw [List.append_nil, hname]
  have hdrop : (Bytes.ofAscii mark ++ p.label side true).drop 4 = p.label side true := by
    rw [← hmark, List.drop_left]
  rw [headerPath?, hdrop, hlabel, FilePatch.name, unquote_writeName]
  change Except.ok ((Search.after? _ _).map Utf8.decodeLossy) = _
  rw [Search.after?_self_append]
  rfl

/-- The line of a missing side gives no path. -/
theorem headerPath?_missing (p : FilePatch) (mark side : String)
    (hmark : (Bytes.ofAscii mark).length = 4)
    (h : Search.after? (Bytes.ofAscii side) (Bytes.ofAscii "/dev/null") = none) :
    headerPath? (Bytes.ofAscii mark ++ p.label side false) (Bytes.ofAscii side) = .ok none := by
  have hdrop : (Bytes.ofAscii mark ++ p.label side false).drop 4 = Bytes.ofAscii "/dev/null" := by
    rw [← hmark, List.drop_left]
    exact List.append_nil _
  have hname : unquote (Search.dropEndWhile (· == 0x09) (Bytes.ofAscii "/dev/null")) =
      .ok (Bytes.ofAscii "/dev/null") := by decide
  rw [headerPath?, hdrop, hname]
  change Except.ok ((Search.after? _ _).map Utf8.decodeLossy) = _
  rw [h]
  rfl

theorem headerPath?_label (p : FilePatch) {mark side : String}
    (hmark : (Bytes.ofAscii mark).length = 4)
    (hs : ∀ x ∈ Bytes.ofAscii side, isSpecial x = false)
    (hd : Search.after? (Bytes.ofAscii side) (Bytes.ofAscii "/dev/null") = none) (isThere : Bool) :
    headerPath? (Bytes.ofAscii mark ++ p.label side isThere) (Bytes.ofAscii side) =
      .ok (if isThere then some (Utf8.decodeLossy p.path.bytes) else none) := by
  cases isThere with
  | true => exact headerPath?_there p hmark hs
  | false => exact headerPath?_missing p mark side hmark hd

theorem readLine_oldSide {q : Progress} (hq : q.inHunk = false) (p : FilePatch) (isThere : Bool) :
    readLine q (Bytes.ofAscii "--- " ++ p.label "a/" isThere) = .ok { q with
      oldPath := if isThere then some (Utf8.decodeLossy p.path.bytes) else none } := by
  have hx : (Bytes.ofAscii "--- " ++ p.label "a/" isThere).head? = some 0x2D :=
    head?_ofAscii_append (by decide) _
  rw [readLine_of_header hq (by rw [hx]; decide), readHeader,
    if_pos (isPrefixOf_ofAscii_append _ _),
    headerPath?_label p (by decide) (by decide +kernel) (by decide)]
  rfl

theorem readLine_newSide {q : Progress} (hq : q.inHunk = false) (p : FilePatch) (isThere : Bool) :
    readLine q (Bytes.ofAscii "+++ " ++ p.label "b/" isThere) = .ok { q with
      path := firstNamed
        [if isThere then some (Utf8.decodeLossy p.path.bytes) else none, q.oldPath] q.path } := by
  have hx : (Bytes.ofAscii "+++ " ++ p.label "b/" isThere).head? = some 0x2B :=
    head?_ofAscii_append (by decide) _
  have hold : (Bytes.ofAscii "--- ").isPrefixOf (Bytes.ofAscii "+++ " ++ p.label "b/" isThere) =
      false := isPrefixOf_eq_false (by rw [hx]; decide) (by decide)
  rw [readLine_of_header hq (by rw [hx]; decide), readHeader, hold, if_neg (by decide),
    if_pos (isPrefixOf_ofAscii_append _ _),
    headerPath?_label p (by decide) (by decide +kernel) (by decide)]
  rfl

/-- One of the two sides is there, so their lines give the path. -/
theorem firstNamed_sides (p : FilePatch) (h : Header) (title : String) :
    firstNamed [if h.hasNew then some (Utf8.decodeLossy p.path.bytes) else none,
      if h.hasOld then some (Utf8.decodeLossy p.path.bytes) else none] title =
      Utf8.decodeLossy p.path.bytes := by
  have hne : Utf8.decodeLossy p.path.bytes ≠ "" := by
    intro hc
    have hl := congrArg String.toList hc
    rw [Utf8.decodeLossy, String.toList_ofList] at hl
    exact Utf8.decodeLossyList_ne_nil p.path.ne_nil hl
  cases h <;> simp [firstNamed, Header.hasNew, Header.hasOld, hne]

/-! ### The title -/

theorem afterLastMark_of_not_occurs {r : Bytes}
    (h : Search.occurs (Bytes.ofAscii " b/") r = false) :
    afterLastMark r = r := by
  cases r with
  | nil => rfl
  | cons x r =>
    rw [Search.occurs, Bool.or_eq_false_iff] at h
    rw [afterLastMark, h.2, Search.after?, h.1]
    rfl

theorem afterLastMark_of_lastIndexOf? : ∀ {r : Bytes} {i : Nat},
    Search.lastIndexOf? (Bytes.ofAscii " b/") r = some i → afterLastMark r = r.drop (i + 3)
  | [], i, h => by cases h
  | x :: r, i, h => by
    rw [Search.lastIndexOf?] at h
    cases hr : Search.lastIndexOf? (Bytes.ofAscii " b/") r with
    | some j =>
      have ho : Search.occurs (Bytes.ofAscii " b/") r = true := by
        rw [← Bool.not_eq_false]
        intro hc
        rw [Search.lastIndexOf?_eq_none_iff.mpr hc] at hr
        cases hr
      rw [hr, Option.some.injEq] at h
      rw [afterLastMark, if_pos ho, afterLastMark_of_lastIndexOf? hr, ← h]
      rfl
    | none =>
      rw [hr] at h
      have ho := Search.lastIndexOf?_eq_none_iff.mp hr
      by_cases hp : (Bytes.ofAscii " b/").isPrefixOf (x :: r) = true
      · rw [if_pos hp, Option.some.injEq] at h
        rw [afterLastMark, ho, Search.after?, if_pos hp, ← h]
        rfl
      · rw [if_neg hp] at h
        cases h

/-- The last ` b/` of two names of which the second holds the bytes `r` behind its mark. -/
theorem lastIndexOf?_mark (front r : Bytes) :
    ∃ i, Search.lastIndexOf? (Bytes.ofAscii " b/") (front ++ (Bytes.ofAscii " b/" ++ r)) = some i ∧
      (front ++ (Bytes.ofAscii " b/" ++ r)).drop (i + 3) = afterLastMark r := by
  cases hr : Search.lastIndexOf? (Bytes.ofAscii " b/") r with
  | some j =>
    have h := Search.lastIndexOf?_append hr (front ++ Bytes.ofAscii " b/")
    rw [List.append_assoc] at h
    refine ⟨_, h, ?_⟩
    rw [afterLastMark_of_lastIndexOf? hr, ← List.append_assoc, Nat.add_assoc, ← List.drop_drop,
      List.drop_left]
  | none =>
    have ho := Search.lastIndexOf?_eq_none_iff.mp hr
    have h0 : Search.lastIndexOf? (Bytes.ofAscii " b/") (Bytes.ofAscii " b/" ++ r) = some 0 :=
      Search.lastIndexOf?_self_append (x := 0x20) (occurs_append_of_not_mem (by decide) ho)
    refine ⟨_, Search.lastIndexOf?_append h0 front, ?_⟩
    rw [afterLastMark_of_not_occurs ho, Nat.add_zero, ← List.drop_drop, List.drop_left]
    rfl

/-- The last blank in front of a quote and `b/` is the one between two quoted names. -/
theorem lastIndexOf?_quotedMark {p : FilePatch} (hq : p.needsQuotes = true) :
    Search.lastIndexOf? (Bytes.ofAscii " \"b/")
      (p.name "a/" ++ (Bytes.ofAscii " " ++ p.name "b/")) = some (p.name "a/").length := by
  have hnone : Search.occurs (0x20 :: Bytes.ofAscii "\"b/") (Bytes.ofAscii "\"b/" ++
      (p.path.bytes.flatMap writeByte ++ [quote])) = false :=
    occurs_append_of_not_mem (by decide) (occurs_blank_quote (by decide) p.path.bytes)
  have hstart : Search.lastIndexOf? (Bytes.ofAscii " \"b/") (Bytes.ofAscii " " ++ p.name "b/") =
      some 0 := by
    rw [FilePatch.name_of_quoted hq "b/" (by decide +kernel)]
    exact Search.lastIndexOf?_self_append hnone
  exact Search.lastIndexOf?_append hstart _

/-- **The path that the title gives.** -/
theorem titlePath?_title (p : FilePatch) :
    titlePath? p.title = .ok (some (Utf8.decodeLossy p.titlePath)) := by
  have hdrop : p.title.drop 11 = p.name "a/" ++ (Bytes.ofAscii " " ++ p.name "b/") := rfl
  obtain ⟨t, x, ht, -, hx⟩ := p.getLast?_name "b/" (by decide +kernel)
  have hlast : (p.name "a/" ++ (Bytes.ofAscii " " ++ p.name "b/")).getLast? = some x := by
    rw [ht, ← List.append_assoc, ← List.append_assoc, List.getLast?_concat]
  cases hq : p.needsQuotes with
  | false =>
    have hxq : (some x == some quote) = false := hx.trans hq
    have hb : Bytes.ofAscii " " ++ p.name "b/" = Bytes.ofAscii " b/" ++ p.path.bytes := by
      rw [FilePatch.name_of_plain hq "b/" (by decide +kernel)]
      rfl
    obtain ⟨i, hi, hafter⟩ := lastIndexOf?_mark (p.name "a/") p.path.bytes
    rw [← hb] at hi hafter
    have hpath : p.titlePath = afterLastMark p.path.bytes := by
      rw [FilePatch.titlePath, hq]
      rfl
    simp only [titlePath?, hdrop, hlast, hxq, hi, Bool.false_eq_true, if_false, Option.map_some,
      hafter, hpath]
  | true =>
    have hfind := lastIndexOf?_quotedMark hq
    have hxq : (some x == some quote) = true := hx.trans hq
    have hrest : (p.name "a/" ++ (Bytes.ofAscii " " ++ p.name "b/")).drop
        ((p.name "a/").length + 1) = p.name "b/" := by
      rw [← List.drop_drop, List.drop_left]
      rfl
    have hread : unquote (p.name "b/") = .ok (Bytes.ofAscii "b/" ++ p.path.bytes) :=
      unquote_writeName _
    have hpath : p.titlePath = p.path.bytes := by
      rw [FilePatch.titlePath, hq]
      rfl
    simp only [titlePath?, hdrop, hlast, hxq, hfind, if_true, hrest, hread, hpath]
    rfl

end HouseRules.Diff
