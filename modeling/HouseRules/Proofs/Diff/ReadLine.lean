import HouseRules.Proofs.Diff.Patch
import HouseRules.Proofs.Text.Utf8

/-! # Reading the lines of a patch

What the reader makes of each printed line: one lemma for each kind of line, all over any progress
`p`. Which kind a line is of shows in its first byte, so a line of one kind is never taken for one
of another (`readHeader_of_head`, `isPrefixOf_eq_false`). -/

namespace HouseRules.Diff

/-! ### Words and numbers -/

theorem after?_ofAscii_append (text : String) (r : Bytes) :
    after? text (Bytes.ofAscii text ++ r) = some r := Search.after?_self_append _ r

/-- A text that starts with another byte does not stand there. -/
theorem after?_eq_none {text : String} {line : Bytes}
    (h : (Bytes.ofAscii text).head? ≠ line.head?) (hne : Bytes.ofAscii text ≠ []) :
    after? text line = none := by
  obtain ⟨x, w, hw⟩ := List.exists_cons_of_ne_nil hne
  rw [after?, hw]
  rw [hw] at h
  rcases line with _ | ⟨y, r⟩
  · rfl
  · refine Search.after?_cons_of_ne ?_ w r
    rintro rfl
    exact h rfl

theorem span_append {q : UInt8 → Bool} {ds r : Bytes} (hd : ∀ x ∈ ds, q x = true)
    (hr : ∀ x ∈ r.head?, q x = false) :
    (ds ++ r).takeWhile q = ds ∧ (ds ++ r).dropWhile q = r := by
  induction ds with
  | nil =>
    rcases r with _ | ⟨x, r⟩
    · exact ⟨rfl, rfl⟩
    · have hx : q x = false := hr x rfl
      exact ⟨by simp [hx], by simp [hx]⟩
  | cons x ds ih =>
    have hx : q x = true := hd x (by simp)
    obtain ⟨ih1, ih2⟩ := ih fun y hy => hd y (List.mem_cons_of_mem x hy)
    rw [List.cons_append, List.takeWhile_cons_of_pos hx, List.dropWhile_cons_of_pos hx, ih1, ih2]
    exact ⟨rfl, rfl⟩

theorem digits?_append {ds r : Bytes} (hne : ds ≠ []) (hd : ∀ x ∈ ds, Bytes.isDigit x = true)
    (hr : ∀ x ∈ r.head?, Bytes.isDigit x = false) : digits? (ds ++ r) = some (ds, r) := by
  obtain ⟨h1, h2⟩ := span_append hd hr
  obtain ⟨x, ds, rfl⟩ := List.exists_cons_of_ne_nil hne
  rw [digits?, h1, h2]

theorem hexDigits?_append {ds r : Bytes} (hne : ds ≠ [])
    (hd : ∀ x ∈ ds, Bytes.isHexDigit x = true) (hr : ∀ x ∈ r.head?, Bytes.isHexDigit x = false) :
    hexDigits? (ds ++ r) = some (ds, r) := by
  obtain ⟨h1, h2⟩ := span_append hd hr
  obtain ⟨x, ds, rfl⟩ := List.exists_cons_of_ne_nil hne
  rw [hexDigits?, h1, h2]

theorem digits?_self {ds : Bytes} (hne : ds ≠ []) (hd : ∀ x ∈ ds, Bytes.isDigit x = true) :
    digits? ds = some (ds, []) := by
  have h := digits?_append hne hd (r := []) (by simp)
  rwa [List.append_nil] at h

/-! ### Numerals -/

/-- The byte of a decimal digit. -/
theorem toNat_digitByte {c : Char} (h : c.isDigit = true) :
    c.toNat.toUInt8.toNat = c.toNat ∧ 48 ≤ c.toNat ∧ c.toNat ≤ 57 := by
  have h' : 48 ≤ c.toNat ∧ c.toNat ≤ 57 := by
    rw [Char.isDigit, Bool.and_eq_true, decide_eq_true_eq, decide_eq_true_eq] at h
    exact ⟨UInt32.le_iff_toNat_le.mp h.1, UInt32.le_iff_toNat_le.mp h.2⟩
  refine ⟨?_, h'⟩
  rw [Nat.toUInt8, UInt8.toNat_ofNat']
  omega

theorem isDigit_of_mem_numeral {n : Nat} {x : UInt8} (h : x ∈ numeral n) :
    Bytes.isDigit x = true := by
  obtain ⟨c, hc, rfl⟩ := List.mem_map.mp h
  rw [Nat.toList_repr] at hc
  obtain ⟨hx, h1, h2⟩ := toNat_digitByte (Nat.isDigit_of_mem_toDigits (by decide) (by decide) hc)
  simp only [Bytes.isDigit, Bool.and_eq_true, decide_eq_true_eq, UInt8.le_iff_toNat_le, hx,
    UInt8.reduceToNat]
  exact ⟨h1, h2⟩

theorem numeral_ne_nil (n : Nat) : numeral n ≠ [] := by
  intro h
  rw [numeral, Bytes.ofAscii, List.map_eq_nil_iff, Nat.toList_repr] at h
  exact Nat.toDigits_ne_nil h

theorem number_digits (cs : List Char) (h : ∀ c ∈ cs, c.isDigit = true) : ∀ init : Nat,
    (cs.map fun c => c.toNat.toUInt8).foldl (fun n d => 10 * n + (d.toNat - 0x30)) init =
      Nat.ofDigitChars 10 cs init := by
  induction cs with
  | nil => intro init; rw [Nat.ofDigitChars_nil]; rfl
  | cons c cs ih =>
    intro init
    obtain ⟨hx, -, -⟩ := toNat_digitByte (h c (by simp))
    rw [List.map_cons, List.foldl_cons, hx, Nat.ofDigitChars_cons,
      ih fun d hd => h d (List.mem_cons_of_mem c hd)]
    rfl

@[simp]
theorem number_numeral (n : Nat) : Bytes.number 10 (numeral n) = n := by
  have hd : ∀ c ∈ Nat.toDigits 10 n, c.isDigit = true := fun c hc =>
    Nat.isDigit_of_mem_toDigits (by decide) (by decide) hc
  rw [Bytes.number, numeral, Bytes.ofAscii, Nat.toList_repr, number_digits _ hd,
    Nat.ofDigitChars_ten_toDigits]

/-! ### The first line of a hunk -/

theorem dropCount_countText (count : Option Nat) {r : Bytes}
    (hd : ∀ x ∈ r.head?, Bytes.isDigit x = false) (hc : r.head? ≠ some 0x2C) :
    dropCount (countText count ++ r) = r := by
  cases count with
  | none =>
    have hnone : after? "," r = none := after?_eq_none (fun h => hc h.symm) (by decide)
    rw [countText, List.nil_append, dropCount, hnone]
    rfl
  | some n =>
    have hsome : digits? (numeral n ++ r) = some (numeral n, r) :=
      digits?_append (numeral_ne_nil n) (fun x hx => isDigit_of_mem_numeral hx) hd
    rw [countText, List.append_assoc, dropCount, after?_ofAscii_append, Option.bind_eq_bind,
      Option.bind_some, hsome]

theorem head?_countText_append (count : Option Nat) {r : Bytes}
    (h : ∀ x ∈ r.head?, Bytes.isDigit x = false) :
    ∀ x ∈ (countText count ++ r).head?, Bytes.isDigit x = false := by
  cases count with
  | none => exact h
  | some n =>
    intro x hx
    have hx' : 0x2C = x := by simpa [countText, Bytes.ofAscii] using hx
    rw [← hx']
    decide

/-- **The first line of a hunk tells where its new lines start.** -/
theorem hunkStart?_head (h : Hunk) : hunkStart? h.head = some h.newStart := by
  have hblank : ∀ (word : String) (r : Bytes), (Bytes.ofAscii word).head? = some 0x20 →
      ∀ x ∈ (Bytes.ofAscii word ++ r).head?, Bytes.isDigit x = false := by
    intro word r hw x hx
    have hx' : some 0x20 = some x := by
      rw [← hw, ← hx, List.head?_append_of_ne_nil]
      intro hn
      rw [hn] at hw
      cases hw
    cases hx'
    decide
  have hold : digits? (numeral h.oldStart ++ (countText h.oldCount ++ (Bytes.ofAscii " +" ++
      (numeral h.newStart ++ (countText h.newCount ++
        (Bytes.ofAscii " @@" ++ h.heading.bytes)))))) = some (numeral h.oldStart, _) :=
    digits?_append (numeral_ne_nil _) (fun x hx => isDigit_of_mem_numeral hx)
      (head?_countText_append _ (hblank " +" _ (by decide)))
  have hnew : digits? (numeral h.newStart ++ (countText h.newCount ++
      (Bytes.ofAscii " @@" ++ h.heading.bytes))) = some (numeral h.newStart, _) :=
    digits?_append (numeral_ne_nil _) (fun x hx => isDigit_of_mem_numeral hx)
      (head?_countText_append _ (hblank " @@" _ (by decide)))
  simp only [hunkStart?, Hunk.head, after?_ofAscii_append, Option.bind_eq_bind, Option.bind_some,
    hold]
  rw [dropCount_countText _ (hblank " +" _ (by decide)) (by simp [Bytes.ofAscii]),
    after?_ofAscii_append, Option.bind_some, hnew]
  simp only [Option.bind_some]
  rw [dropCount_countText _ (hblank " @@" _ (by decide)) (by simp [Bytes.ofAscii]),
    after?_ofAscii_append, number_numeral]
  rfl

/-! ### Telling lines apart -/

theorem isPrefixOf_eq_false {text : String} {line : Bytes}
    (h : (Bytes.ofAscii text).head? ≠ line.head?) (hne : Bytes.ofAscii text ≠ []) :
    (Bytes.ofAscii text).isPrefixOf line = false := by
  rw [Bool.eq_false_iff]
  intro hp
  obtain ⟨r, rfl⟩ := List.isPrefixOf_iff_prefix.mp hp
  exact h (List.head?_append_of_ne_nil _ hne).symm

theorem isPrefixOf_ofAscii_append (text : String) (r : Bytes) :
    (Bytes.ofAscii text).isPrefixOf (Bytes.ofAscii text ++ r) = true :=
  List.isPrefixOf_iff_prefix.mpr ⟨r, rfl⟩

theorem head?_ofAscii_append {text : String} {x : UInt8} (h : (Bytes.ofAscii text).head? = some x)
    (r : Bytes) : (Bytes.ofAscii text ++ r).head? = some x := by
  rw [List.head?_append, h]
  rfl

theorem hunkStart?_eq_none {line : Bytes} (h : line.head? ≠ some 0x40) :
    hunkStart? line = none := by
  rw [hunkStart?, after?_eq_none (fun hc => h hc.symm) (by decide)]
  rfl

theorem newMode?_eq_none {line : Bytes} (h : line.head? ≠ some 0x6E) : newMode? line = none := by
  rw [newMode?, after?_eq_none (fun hc => h hc.symm) (by decide)]
  rfl

theorem indexLine?_eq_none {line : Bytes} (h : line.head? ≠ some 0x69) :
    indexLine? line = none := by
  rw [indexLine?, after?_eq_none (fun hc => h hc.symm) (by decide)]
  rfl

theorem readLine_of_hunk {p : Progress} {line : Bytes} (hp : p.inHunk = true)
    (h : line.head? ≠ some 0x40) :
    readLine p line = if line.head? == some 0x2B
      then .ok { p with added := p.next :: p.added, next := p.next + 1 } else .ok p := by
  rw [readLine, hunkStart?_eq_none h, hp]
  rfl

theorem readLine_of_header {p : Progress} {line : Bytes} (hp : p.inHunk = false)
    (h : line.head? ≠ some 0x40) : readLine p line = readHeader p line := by
  rw [readLine, hunkStart?_eq_none h, hp]
  rfl

/-- Before the hunks, a line that starts with neither `-` nor `+` is read for a mode or a blob. -/
theorem readHeader_of_head {line : Bytes} (hm : line.head? ≠ some 0x2D)
    (hp : line.head? ≠ some 0x2B)
    (p : Progress) : readHeader p line = match newMode? line with
      | some mode => .ok { p with gitlink := mode == gitlinkMode }
      | none => match indexLine? line with
        | some (hash, mode) =>
          .ok { p with blob := blobName? hash, gitlink := p.gitlink || mode == some gitlinkMode }
        | none => .ok p := by
  have h1 : (Bytes.ofAscii "--- ").isPrefixOf line = false :=
    isPrefixOf_eq_false (fun hc => hm hc.symm) (by decide)
  have h2 : (Bytes.ofAscii "+++ ").isPrefixOf line = false :=
    isPrefixOf_eq_false (fun hc => hp hc.symm) (by decide)
  rw [readHeader, h1, h2]
  rfl

/-! ### Lines before the hunks -/

/-- A line of which the reader knows nothing. -/
theorem readLine_unknown {p : Progress} (hp : p.inHunk = false) {line : Bytes} {x : UInt8}
    (hx : line.head? = some x) (hne : x ∉ Bytes.ofAscii "@-+ni") : readLine p line = .ok p := by
  have hother : ∀ y ∈ Bytes.ofAscii "@-+ni", line.head? ≠ some y := by
    intro y hy hc
    rw [hx, Option.some.injEq] at hc
    exact hne (hc ▸ hy)
  rw [readLine_of_header hp (hother _ (by decide)),
    readHeader_of_head (hother _ (by decide)) (hother _ (by decide)),
    newMode?_eq_none (hother _ (by decide)), indexLine?_eq_none (hother _ (by decide))]

theorem digits?_mode (m : Mode) : digits? m.digits = some (m.digits, []) :=
  digits?_self m.ne_nil m.isDigit

theorem newMode?_new (m : Mode) :
    newMode? (Bytes.ofAscii "new mode " ++ m.digits) = some m.digits := by
  have h1 : after? "new " (Bytes.ofAscii "new mode " ++ m.digits) =
      some (Bytes.ofAscii "mode " ++ m.digits) := after?_ofAscii_append "new " _
  have h2 : after? "file " (Bytes.ofAscii "mode " ++ m.digits) = none :=
    after?_eq_none (by rw [head?_ofAscii_append (x := 0x6D) (by decide)]; decide) (by decide)
  simp only [newMode?, h1, h2, Option.bind_eq_bind, Option.bind_some, Option.getD_none,
    after?_ofAscii_append, digits?_mode]
  rfl

theorem newMode?_newFile (m : Mode) :
    newMode? (Bytes.ofAscii "new file mode " ++ m.digits) = some m.digits := by
  have h1 : after? "new " (Bytes.ofAscii "new file mode " ++ m.digits) =
      some (Bytes.ofAscii "file mode " ++ m.digits) := after?_ofAscii_append "new " _
  have h2 : after? "file " (Bytes.ofAscii "file mode " ++ m.digits) =
      some (Bytes.ofAscii "mode " ++ m.digits) := after?_ofAscii_append "file " _
  simp only [newMode?, h1, h2, Option.bind_eq_bind, Option.bind_some, Option.getD_some,
    after?_ofAscii_append, digits?_mode]
  rfl

/-- A line on the new mode, of a file that was there or was not. -/
theorem readLine_newMode {p : Progress} (hp : p.inHunk = false) {line mode : Bytes}
    (hx : line.head? = some 0x6E) (hm : newMode? line = some mode) :
    readLine p line = .ok { p with gitlink := mode == gitlinkMode } := by
  rw [readLine_of_header hp (by rw [hx]; decide),
    readHeader_of_head (by rw [hx]; decide) (by rw [hx]; decide), hm]

theorem indexLine?_indexText (old new : Hash) (mode : Option Mode) :
    indexLine? (indexText old new mode) = some (new.digits, mode.map Mode.digits) := by
  have hold : ∀ r, hexDigits? (old.digits ++ (Bytes.ofAscii ".." ++ r)) =
      some (old.digits, Bytes.ofAscii ".." ++ r) := fun r =>
    hexDigits?_append old.ne_nil old.isHexDigit (by
      rw [head?_ofAscii_append (x := 0x2E) (by decide)]; decide +kernel)
  have hnil : hexDigits? (new.digits ++ []) = some (new.digits, []) :=
    hexDigits?_append new.ne_nil new.isHexDigit (by decide +kernel)
  have hnew : ∀ r, hexDigits? (new.digits ++ (Bytes.ofAscii " " ++ r)) =
      some (new.digits, Bytes.ofAscii " " ++ r) := fun r =>
    hexDigits?_append new.ne_nil new.isHexDigit (by
      rw [head?_ofAscii_append (x := 0x20) (by decide)]; decide +kernel)
  cases mode with
  | none =>
    simp only [indexLine?, indexText, after?_ofAscii_append, Option.bind_eq_bind, Option.bind_some,
      hold, hnil]
    rfl
  | some m =>
    simp only [indexLine?, indexText, after?_ofAscii_append, Option.bind_eq_bind, Option.bind_some,
      hold, hnew, digits?_mode]
    rfl

/-- The line on the blobs. -/
theorem readLine_index {p : Progress} (hp : p.inHunk = false) (old new : Hash)
    (mode : Option Mode) :
    readLine p (indexText old new mode) = .ok { p with
      blob := blobName? new.digits
      gitlink := p.gitlink || mode.map Mode.digits == some gitlinkMode } := by
  have hx : (indexText old new mode).head? = some 0x69 := head?_ofAscii_append (by decide) _
  rw [readLine_of_header hp (by rw [hx]; decide),
    readHeader_of_head (by rw [hx]; decide) (by rw [hx]; decide),
    newMode?_eq_none (by rw [hx]; decide), indexLine?_indexText]

/-! ### Lines of a hunk -/

theorem readLine_head (p : Progress) (h : Hunk) :
    readLine p h.head = .ok { p with inHunk := true, next := h.newStart } := by
  rw [readLine, hunkStart?_head]

theorem readLine_hunkLine {p : Progress} (hp : p.inHunk = true) (l : HunkLine) :
    readLine p l.text = match l.added? with
      | some _ => .ok { p with added := p.next :: p.added, next := p.next + 1 }
      | none => .ok p := by
  cases l with
  | removed t => exact readLine_of_hunk hp (by simp [HunkLine.text, Bytes.ofAscii])
  | added t => exact readLine_of_hunk hp (by simp [HunkLine.text, Bytes.ofAscii])
  | note t => exact readLine_of_hunk hp (by simp [HunkLine.text, Bytes.ofAscii])

end HouseRules.Diff
