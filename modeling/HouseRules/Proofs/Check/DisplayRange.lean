import HouseRules.Proofs.Check.MarkedLine
import HouseRules.Proofs.Text.Boundary

/-! # The range to show

In any byte string the start moves by the size of a character whose encoding stands in the range,
so it stays in the range (`skipBlanks_le`), though with bytes that are no text the character need
not stand at the start. In a text it does: what the start moves over is white space, and it stops
in front of a character that is none or that the range cuts (`skipBlanks_text`). -/

namespace HouseRules.CommittedTodos

open Bytes Utf8

/-! ### In any byte string -/

/-- A character that is read in a range fits in it. -/
theorem size_le_of_leadingBlank? {content : Bytes} {start stop : Nat} {c : Char}
    (h : leadingBlank? content (start : Int) (stop : Int) = some c) :
    start + c.utf8Size ≤ stop := by
  unfold leadingBlank? at h
  split at h
  · rename_i d ds hdec
    obtain ⟨front, back, hbytes⟩ := exists_of_decodeIgnoringList hdec
    have hd : d = c := by
      split at h
      · exact Option.some.inj h
      · cases h
    have hlen := congrArg List.length hbytes
    rw [slice_natCast, List.length_drop, List.length_take, List.length_append, List.length_append,
      String.length_utf8EncodeChar, hd] at hlen
    have := c.utf8Size_pos
    omega
  · cases h

theorem skipBlanks_le {content : Bytes} {start stop : Int} (hpos : 0 ≤ start)
    (hle : start ≤ stop) :
    start ≤ skipBlanks content start stop ∧ skipBlanks content start stop ≤ stop := by
  fun_induction skipBlanks content start stop with
  | case1 start hlt c hc ih =>
    obtain ⟨i, rfl⟩ := Int.eq_ofNat_of_zero_le hpos
    obtain ⟨j, rfl⟩ := Int.eq_ofNat_of_zero_le (Int.le_trans hpos hle)
    have hsize := size_le_of_leadingBlank? hc
    have := ih (by omega) (by omega)
    omega
  | case2 => omega
  | case3 => omega

/-! ### In a text -/

section Text

variable {pre post : List Char} {c : Char} {stop : Nat}

theorem slice_text (h : (encodeList pre).length ≤ stop) :
    (encodeList (pre ++ post)).slice ((encodeList pre).length : Int) (stop : Int) =
      (encodeList post).take (stop - (encodeList pre).length) := by
  have hstop : stop = (encodeList pre).length + (stop - (encodeList pre).length) := by omega
  conv_lhs => rw [hstop]
  rw [slice_natCast, encodeList_append, List.take_length_add_append, List.drop_left]

/-- A character that stands at the start of a range is read there. -/
theorem leadingBlank?_text (h : (encodeList pre).length + c.utf8Size ≤ stop) :
    leadingBlank? (encodeList (pre ++ c :: post)) ((encodeList pre).length : Int) (stop : Int) =
      if Text.isBlank c then some c else none := by
  refine leadingBlank?_of_slice
    (r := (encodeList post).take (stop - (encodeList pre).length - c.utf8Size)) ?_
  rw [slice_text (by omega), encodeList_cons, List.take_append, String.length_utf8EncodeChar,
    List.take_of_length_le (by rw [String.length_utf8EncodeChar]; omega)]

/-- A character that the range cuts is not read. -/
theorem leadingBlank?_cut (hle : (encodeList pre).length ≤ stop)
    (h : stop < (encodeList pre).length + c.utf8Size) :
    leadingBlank? (encodeList (pre ++ c :: post)) ((encodeList pre).length : Int) (stop : Int) =
      none := by
  have hlt : stop - (encodeList pre).length < (String.utf8EncodeChar c).length := by
    rw [String.length_utf8EncodeChar]
    omega
  rw [leadingBlank?, slice_text hle, encodeList_cons, List.take_append_of_le_length hlt.le,
    decodeIgnoringList_take_encodeChar hlt]

end Text

/-- **The start moves over white space** up to a character that is none, a character that the range
cuts, or the end of the range. -/
theorem skipBlanks_text (stop : Nat) : ∀ (post pre : List Char),
    stop ≤ (encodeList (pre ++ post)).length → ∃ ws rest, post = ws ++ rest ∧
      (∀ w ∈ ws, Text.isBlank w = true) ∧
      skipBlanks (encodeList (pre ++ post)) ((encodeList pre).length : Int) (stop : Int) =
        ((encodeList (pre ++ ws)).length : Int) ∧
      (stop ≤ (encodeList (pre ++ ws)).length ∨ ∃ c r, rest = c :: r ∧
        (Text.isBlank c = false ∨ stop < (encodeList (pre ++ ws)).length + c.utf8Size))
  | [], pre, hstop => by
    rw [List.append_nil] at hstop ⊢
    refine ⟨[], [], rfl, by simp, ?_, Or.inl (by rwa [List.append_nil])⟩
    rw [skipBlanks, if_neg (by omega), List.append_nil]
  | c :: post, pre, hstop => by
    by_cases hlt : (encodeList pre).length < stop
    · rw [skipBlanks, if_pos (by omega)]
      by_cases hfits : (encodeList pre).length + c.utf8Size ≤ stop
      · rw [leadingBlank?_text hfits]
        by_cases hc : Text.isBlank c = true
        · have hsplit : pre ++ c :: post = (pre ++ [c]) ++ post := by simp
          have hnext : ((encodeList pre).length : Int) + c.utf8Size =
              ((encodeList (pre ++ [c])).length : Int) := by
            rw [encodeList_append, encodeList_cons, encodeList_nil, List.append_nil,
              List.length_append, String.length_utf8EncodeChar, Int.natCast_add]
          rw [hsplit] at hstop
          obtain ⟨ws, rest, rfl, hws, hskip, hend⟩ := skipBlanks_text stop post (pre ++ [c]) hstop
          have happend : pre ++ [c] ++ ws = pre ++ c :: ws := by simp
          rw [happend] at hskip hend
          rw [if_pos hc, hsplit]
          refine ⟨c :: ws, rest, rfl, List.forall_mem_cons.mpr ⟨hc, hws⟩, ?_, hend⟩
          change skipBlanks _ (((encodeList pre).length : Int) + c.utf8Size) _ = _
          rw [hnext, hskip]
        · rw [if_neg hc]
          rw [Bool.not_eq_true] at hc
          exact ⟨[], c :: post, rfl, by simp, by rw [List.append_nil],
            Or.inr ⟨c, post, rfl, Or.inl hc⟩⟩
      · rw [leadingBlank?_cut hlt.le (by omega)]
        refine ⟨[], c :: post, rfl, by simp, by rw [List.append_nil], Or.inr ⟨c, post, rfl, ?_⟩⟩
        rw [List.append_nil]
        exact Or.inr (by omega)
    · rw [skipBlanks, if_neg (by omega)]
      refine ⟨[], c :: post, rfl, by simp, by rw [List.append_nil], Or.inl ?_⟩
      rw [List.append_nil]
      omega

/-! ### The range -/

/-- **The range to show** leaves the last byte out and starts in the range given. In a text, if the
range given starts between two characters, so does the range to show, and what it leaves out at the
start is white space, up to a character that is none or that is cut with the last byte. -/
theorem displayRange_trims {content : Bytes} {s t : Nat} (hst : s < t) (ht : t ≤ content.length) :
    ∃ s' : Nat, displayRange content ⟨s, t⟩ = ⟨s', ((t - 1 : Nat) : Int)⟩ ∧ s ≤ s' ∧ s' ≤ t - 1 ∧
      (IsBoundary content s → IsBoundary content s' ∧
        (∃ ws, (content.take s').drop s = encodeList ws ∧ ∀ w ∈ ws, Text.isBlank w = true) ∧
        (s' = t - 1 ∨ ∃ c r, content.drop s' = String.utf8EncodeChar c ++ r ∧
          (Text.isBlank c = false ∨ t - 1 < s' + (String.utf8EncodeChar c).length))) := by
  have hstop : ((t : Nat) : Int) - 1 = ((t - 1 : Nat) : Int) := by omega
  obtain ⟨hlow, hhigh⟩ : (s : Int) ≤ skipBlanks content (s : Int) ((t - 1 : Nat) : Int) ∧
      skipBlanks content (s : Int) ((t - 1 : Nat) : Int) ≤ ((t - 1 : Nat) : Int) :=
    skipBlanks_le (by omega) (by omega)
  obtain ⟨s', hs'⟩ := Int.eq_ofNat_of_zero_le (Int.le_trans (Int.natCast_nonneg s) hlow)
  rw [hs'] at hlow hhigh
  refine ⟨s', ?_, by omega, by omega, ?_⟩
  · rw [displayRange]
    simp only [hstop]
    rw [hs']
  · rintro ⟨pre, post, rfl, rfl⟩
    obtain ⟨ws, rest, rfl, hws, hskip, hend⟩ := skipBlanks_text (t - 1) post pre (by omega)
    rw [hs'] at hskip
    have hstart : s' = (encodeList (pre ++ ws)).length := by omega
    have hwhole : encodeList (pre ++ (ws ++ rest)) = encodeList (pre ++ ws) ++ encodeList rest := by
      rw [← List.append_assoc, encodeList_append]
    refine ⟨⟨pre ++ ws, rest, by rw [List.append_assoc], hstart⟩, ⟨ws, ?_, hws⟩, ?_⟩
    · rw [hwhole, hstart, List.take_left, encodeList_append, List.drop_left]
    · rcases hend with hend | ⟨c, r, rfl, hc⟩
      · exact Or.inl (by omega)
      · refine Or.inr ⟨c, encodeList r, ?_, ?_⟩
        · rw [hwhole, hstart, List.drop_left, encodeList_cons]
        · rw [String.length_utf8EncodeChar, hstart]
          exact hc

/-- A range whose white space is of two kinds and whose last character is cut. -/
theorem displayRange_trims_cut :
    let content := encode "a \u00a0\u2003€"
    IsBoundary content 1 ∧ 1 < 9 ∧ 9 ≤ content.length ∧
      ∃ s' : Nat, displayRange content ⟨1, 9⟩ = ⟨s', 8⟩ ∧ IsBoundary content s' ∧
        (∃ ws, (content.take s').drop 1 = encodeList ws ∧ ∀ w ∈ ws, Text.isBlank w = true) ∧
        (s' = 8 ∨ ∃ c r, content.drop s' = String.utf8EncodeChar c ++ r ∧
          (Text.isBlank c = false ∨ 8 < s' + (String.utf8EncodeChar c).length)) := by
  intro content
  have hboundary : IsBoundary content 1 := ⟨['a'], [' ', '\u00a0', '\u2003', '€'], rfl, by decide⟩
  have hlen : 9 ≤ content.length := by decide +kernel
  obtain ⟨s', hrange, -, -, htext⟩ := displayRange_trims (by decide : 1 < 9) hlen
  exact ⟨hboundary, by decide, hlen, s', hrange, htext hboundary⟩

end HouseRules.CommittedTodos
