import HouseRules.Proofs.Diff.ReadLine

/-! # The printed lines of a patch

Each line is printed without a line feed, so cutting the print at the line feeds gives the lines
back, and no line behind a title is taken for a title (`FilePatch.isBody_body`): the added and
removed lines, which may hold any text, start with a sign. -/

namespace HouseRules.Diff

/-! ### Line feeds -/

theorem newline_not_mem_of_forall {q : UInt8 → Bool} {ds : Bytes} (h : ∀ x ∈ ds, q x = true)
    (hn : q Bytes.newline = false) : Bytes.newline ∉ ds := by
  intro hm
  rw [h _ hm] at hn
  cases hn

theorem newline_not_mem_numeral (n : Nat) : Bytes.newline ∉ numeral n :=
  newline_not_mem_of_forall (q := Bytes.isDigit) (fun _ => isDigit_of_mem_numeral) (by decide)

theorem newline_not_mem_countText (count : Option Nat) : Bytes.newline ∉ countText count := by
  cases count with
  | none => exact List.not_mem_nil
  | some n =>
    rw [countText, List.mem_append, not_or]
    exact ⟨by decide, newline_not_mem_numeral n⟩

theorem Mode.newline_not_mem (m : Mode) : Bytes.newline ∉ m.digits :=
  newline_not_mem_of_forall m.isDigit (by decide)

theorem Hash.newline_not_mem (h : Hash) : Bytes.newline ∉ h.digits :=
  newline_not_mem_of_forall h.isHexDigit (by decide)

theorem newline_not_mem_indexText (old new : Hash) (mode : Option Mode) :
    Bytes.newline ∉ indexText old new mode := by
  simp only [indexText, List.mem_append, not_or]
  refine ⟨by decide, old.newline_not_mem, by decide, new.newline_not_mem, ?_⟩
  cases mode with
  | none => exact List.not_mem_nil
  | some m =>
    rw [List.mem_append, not_or]
    exact ⟨by decide, m.newline_not_mem⟩

/-! ### Lines behind a title -/

/-- A line that is printed behind a title: one line, and no title. -/
def IsBody (line : Bytes) : Prop := Bytes.newline ∉ line ∧ isTitle line = false

theorem isBody_of_head {line : Bytes} {x : UInt8} (hn : Bytes.newline ∉ line)
    (hx : line.head? = some x) (hd : x ≠ 0x64) : IsBody line := by
  refine ⟨hn, isPrefixOf_eq_false ?_ (by decide)⟩
  rw [hx]
  intro hc
  exact hd (Option.some.inj hc).symm

theorem isBody_mode {text : String} {x : UInt8} (hn : Bytes.newline ∉ Bytes.ofAscii text)
    (hx : (Bytes.ofAscii text).head? = some x) (hd : x ≠ 0x64) (m : Mode) :
    IsBody (Bytes.ofAscii text ++ m.digits) := by
  refine isBody_of_head ?_ (head?_ofAscii_append hx _) hd
  rw [List.mem_append, not_or]
  exact ⟨hn, m.newline_not_mem⟩

theorem isBody_indexText (old new : Hash) (mode : Option Mode) : IsBody (indexText old new mode) :=
  isBody_of_head (newline_not_mem_indexText old new mode)
    (head?_ofAscii_append (x := 0x69) (by decide) _) (by decide)

theorem isBody_header (h : Header) : ∀ line ∈ h.text, IsBody line := by
  cases h with
  | kept old new isBlob mode =>
    simp only [Header.text, List.forall_mem_singleton]
    exact isBody_indexText old new mode
  | modeOnly oldMode newMode =>
    simp only [Header.text, List.forall_mem_cons, List.not_mem_nil, false_imp_iff, implies_true,
      and_true]
    exact ⟨isBody_mode (x := 0x6F) (by decide) (by decide) (by decide) oldMode,
      isBody_mode (x := 0x6E) (by decide) (by decide) (by decide) newMode⟩
  | modeChanged oldMode newMode old new isBlob =>
    simp only [Header.text, List.forall_mem_cons, List.not_mem_nil, false_imp_iff, implies_true,
      and_true]
    exact ⟨isBody_mode (x := 0x6F) (by decide) (by decide) (by decide) oldMode,
      isBody_mode (x := 0x6E) (by decide) (by decide) (by decide) newMode,
      isBody_indexText old new none⟩
  | created mode old new isBlob =>
    simp only [Header.text, List.forall_mem_cons, List.not_mem_nil, false_imp_iff, implies_true,
      and_true]
    exact ⟨isBody_mode (x := 0x6E) (by decide) (by decide) (by decide) mode,
      isBody_indexText old new none⟩
  | deleted mode old new noBlob =>
    simp only [Header.text, List.forall_mem_cons, List.not_mem_nil, false_imp_iff, implies_true,
      and_true]
    refine ⟨⟨?_, rfl⟩, isBody_indexText old new none⟩
    rw [List.mem_append, not_or]
    exact ⟨by decide, mode.newline_not_mem⟩

theorem isBody_hunkLine (l : HunkLine) : IsBody l.text := by
  have h : ∀ (mark : String) (t : LineText) {x : UInt8}, Bytes.newline ∉ Bytes.ofAscii mark →
      (Bytes.ofAscii mark).head? = some x → x ≠ 0x64 → IsBody (Bytes.ofAscii mark ++ t.bytes) := by
    intro mark t x hn hx hd
    refine isBody_of_head ?_ (head?_ofAscii_append hx _) hd
    rw [List.mem_append, not_or]
    exact ⟨hn, t.single⟩
  cases l with
  | removed t => exact h "-" t (x := 0x2D) (by decide) (by decide) (by decide)
  | added t => exact h "+" t (x := 0x2B) (by decide) (by decide) (by decide)
  | note t => exact h "\\" t (x := 0x5C) (by decide) (by decide) (by decide)

theorem isBody_hunk (h : Hunk) : ∀ line ∈ h.text, IsBody line := by
  intro line hl
  rcases List.mem_cons.mp hl with rfl | hl
  · refine isBody_of_head ?_ (head?_ofAscii_append (x := 0x40) (by decide) _) (by decide)
    simp only [Hunk.head, List.mem_append, not_or]
    exact ⟨by decide, newline_not_mem_numeral _, newline_not_mem_countText _, by decide,
      newline_not_mem_numeral _, newline_not_mem_countText _, by decide, h.heading.single⟩
  · obtain ⟨l, -, rfl⟩ := List.mem_map.mp hl
    exact isBody_hunkLine l

namespace FilePatch

theorem newline_not_mem_sideName (p : FilePatch) (side : String) (isThere : Bool) :
    Bytes.newline ∉ p.sideName side isThere := by
  cases isThere with
  | true => exact newline_not_mem_writeName _
  | false => exact (by decide : Bytes.newline ∉ Bytes.ofAscii "/dev/null")

theorem newline_not_mem_label (p : FilePatch) (side : String) (isThere : Bool) :
    Bytes.newline ∉ p.label side isThere := by
  rw [label, List.mem_append, not_or]
  refine ⟨p.newline_not_mem_sideName side isThere, ?_⟩
  split_ifs
  · decide
  · exact List.not_mem_nil

theorem newline_not_mem_title (p : FilePatch) : Bytes.newline ∉ p.title := by
  simp only [title, List.mem_append, not_or]
  exact ⟨by decide, newline_not_mem_writeName _, by decide, newline_not_mem_writeName _⟩

theorem isTitle_title (p : FilePatch) : isTitle p.title = true :=
  isPrefixOf_ofAscii_append "diff --git"
    (0x20 :: (p.name "a/" ++ (Bytes.ofAscii " " ++ p.name "b/")))

/-- **The lines behind a title are not taken for titles**, whatever the added and removed lines
hold. -/
theorem isBody_body (p : FilePatch) : ∀ line ∈ p.body, IsBody line := by
  intro line hl
  rcases List.mem_append.mp hl with hl | hl
  · exact isBody_header p.header line hl
  · have hside : ∀ (mark side : String) (isThere : Bool) {x : UInt8},
        Bytes.newline ∉ Bytes.ofAscii mark → (Bytes.ofAscii mark).head? = some x → x ≠ 0x64 →
        IsBody (Bytes.ofAscii mark ++ p.label side isThere) := by
      intro mark side isThere x hn hx hd
      refine isBody_of_head ?_ (head?_ofAscii_append hx _) hd
      rw [List.mem_append, not_or]
      exact ⟨hn, p.newline_not_mem_label side isThere⟩
    unfold contentText at hl
    split at hl
    · cases hl
    · rw [List.mem_singleton.mp hl]
      refine isBody_of_head ?_ (head?_ofAscii_append (x := 0x42) (by decide) _) (by decide)
      simp only [List.mem_append, not_or]
      exact ⟨by decide, p.newline_not_mem_sideName _ _, by decide, p.newline_not_mem_sideName _ _,
        by decide⟩
    · rcases List.mem_cons.mp hl with rfl | hl
      · exact hside "--- " "a/" _ (x := 0x2D) (by decide) (by decide) (by decide)
      · rcases List.mem_cons.mp hl with rfl | hl
        · exact hside "+++ " "b/" _ (x := 0x2B) (by decide) (by decide) (by decide)
        · obtain ⟨h, -, hl⟩ := List.mem_flatMap.mp hl
          exact isBody_hunk h line hl

end FilePatch

end HouseRules.Diff
