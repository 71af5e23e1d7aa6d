import HouseRules.Files.Glob
import HouseRules.Proofs.Text.Search
import Mathlib.Data.List.Forall2

/-! # Where patterns of paths lead

The names of a pattern are gone through one by one, and each leads from the paths found so far to
paths below them (`mem_expand_iff`, `exists_of_mem_expand`). A name of a directory is read as a
pattern, too, when it stands in front of one. It leads back to the directory if it fits itself
(`mem_expand_names`), which every name without an opening bracket does (`fits_self`); and if no name
is two stars it leads there only then (`forall_fits_of_mem_expand`). -/

namespace HouseRules

namespace FileTree

variable {t : FileTree} {here there : Location} {a : Anchor} {ns l : List String} {e : Entry}

theorem follow_append (t : FileTree) (ns ms : List String) (here : Location) :
    t.follow here (ns ++ ms) = (t.follow here ns).bind fun there => t.follow there ms := by
  induction ns generalizing here with
  | nil => rfl
  | cons n ns ih =>
    rw [List.cons_append, follow, follow]
    by_cases hdir : t.entry? here = some .directory
    · rw [if_pos hdir, if_pos hdir]
      by_cases hnext : (t.entry? (if n = ".." then here.dropLast else here ++ [n])).isSome = true
      · rw [if_pos hnext, if_pos hnext, ih]
      · rw [if_neg hnext, if_neg hnext]
        rfl
    · rw [if_neg hdir, if_neg hdir]
      rfl

/-- Names without double dots lead downwards. -/
theorem follow_eq (hl : ".." ∉ l) (h : t.follow here l = some there) : there = here ++ l := by
  induction l generalizing here with
  | nil => simpa [follow] using h.symm
  | cons n l ih =>
    rw [List.mem_cons, not_or] at hl
    have hn : ¬ n = ".." := fun hn => hl.1 hn.symm
    simp only [follow, if_neg hn] at h
    split_ifs at h
    have hthere := ih hl.2 h
    rw [hthere, List.append_assoc, List.singleton_append]

theorem find?_append (h : t.find? ⟨a, ns ++ l⟩ = some e) : ∃ here there,
    t.follow [] ns = some here ∧ t.follow here l = some there ∧ t.entry? there = some e := by
  simp only [find?, follow_append] at h
  obtain ⟨there, hthere, he⟩ := Option.bind_eq_some_iff.mp h
  obtain ⟨here, hhere, hfollow⟩ := Option.bind_eq_some_iff.mp hthere
  exact ⟨here, there, hhere, hfollow, he⟩

/-- What lies on the way to an entry is a directory. -/
theorem isDirectory_of_find? {b : Anchor} {n : String} (h : t.find? ⟨a, ns ++ n :: l⟩ = some e) :
    t.isDirectory ⟨b, ns⟩ = true := by
  obtain ⟨here, there, hhere, hfollow, -⟩ := find?_append h
  rw [follow] at hfollow
  have hentry : t.entry? here = some .directory := by
    by_contra hne
    rw [if_neg hne] at hfollow
    cases hfollow
  rw [isDirectory, find?, hhere]
  simp [hentry]

theorem isDirectory_of_append {b : Anchor} (h : t.isDirectory ⟨a, ns ++ l⟩ = true) :
    t.isDirectory ⟨b, ns⟩ = true := by
  rw [isDirectory, beq_iff_eq] at h
  cases l with
  | nil =>
    rw [List.append_nil] at h
    rw [isDirectory, beq_iff_eq]
    exact h
  | cons n l => exact isDirectory_of_find? h

theorem mem_of_lookup : ∀ {entries : List (Location × Entry)},
    entries.lookup l = some e → (l, e) ∈ entries
  | [], h => by cases h
  | (k, v) :: entries, h => by
    rw [List.lookup_cons] at h
    by_cases hk : l = k
    · rw [beq_iff_eq.mpr hk] at h
      cases h
      rw [hk]
      exact List.mem_cons_self
    · rw [beq_eq_false_iff_ne.mpr hk] at h
      exact List.mem_cons_of_mem _ (mem_of_lookup h)

/-- **An entry is listed below each directory** on the way to it. -/
theorem mem_below {p : Path} (hl : ".." ∉ l) (hne : l ≠ [])
    (h : t.find? ⟨a, p.names ++ l⟩ = some e) : (l, e) ∈ t.below p := by
  obtain ⟨here, there, hhere, hfollow, he⟩ := find?_append h
  have hthere := follow_eq hl hfollow
  obtain ⟨n, r, rfl⟩ := List.exists_cons_of_ne_nil hne
  have hlookup : t.entries.lookup (here ++ n :: r) = some e := by
    rw [hthere, entry?, if_neg (by simp)] at he
    exact he
  rw [below, hhere]
  refine List.mem_filterMap.mpr ⟨(here ++ n :: r, e), mem_of_lookup hlookup, ?_⟩
  simp only [Search.after?_self_append]

theorem find?_of_isDirectory {p : Path} (h : t.isDirectory p = true) :
    t.find? p = some .directory := by
  rw [isDirectory, beq_iff_eq] at h
  exact h

end FileTree

namespace Glob

/-! ### Names that fit themselves -/

theorem covers_any {is : List Item} {cs : List Char} (h : covers is cs = true) :
    covers (.any :: is) cs = true := by
  cases cs with
  | nil =>
    rw [covers, h]
    rfl
  | cons c cs =>
    rw [covers, if_pos rfl, h]
    rfl

theorem covers_any_append {is : List Item} {cs : List Char} (h : covers is cs = true) :
    ∀ front : List Char, covers (.any :: is) (front ++ cs) = true
  | [] => covers_any h
  | c :: front => by
    have ih := covers_any_append h front
    rw [List.cons_append, covers, if_pos rfl, ih, Bool.or_true]

theorem covers_items_self : ∀ {cs : List Char}, '[' ∉ cs → covers (items cs) cs = true
  | [], _ => by
    rw [items, covers]
    rfl
  | c :: cs, h => by
    rw [List.mem_cons, not_or] at h
    have ih := covers_items_self h.2
    have hbracket : ¬ c = '[' := fun hc => h.1 hc.symm
    rw [items]
    split_ifs with hstar hone
    · exact covers_any_append ih [c]
    · rw [covers, if_neg (by decide), ih]
      rfl
    · rw [covers, if_neg (by simp), ih]
      simp [Item.admits]

theorem fits_self_iff (name : String) :
    fits name name = true ↔ covers (items name.toList) name.toList = true := by
  rw [fits]
  cases isHidden name <;> simp

/-- **A name without an opening bracket fits itself.** -/
theorem fits_self {name : String} (h : '[' ∉ name.toList) : fits name name = true :=
  (fits_self_iff name).mpr (covers_items_self h)

/-! ### Steps -/

variable {t : FileTree} {p q : Path} {n : String} {onlyDirectories : Bool}

/-- A name of a pattern leads downwards. -/
theorem exists_of_mem_step (h : q ∈ step t onlyDirectories n p) :
    ∃ l, q = ⟨p.anchor, p.names ++ l⟩ := by
  have hself : p = ⟨p.anchor, p.names ++ []⟩ := by rw [List.append_nil]
  simp only [step] at h
  split_ifs at h
  · rcases List.mem_cons.mp h with rfl | h
    · exact ⟨[], hself⟩
    · obtain ⟨⟨l, e⟩, -, hq⟩ := List.mem_filterMap.mp h
      simp only [Option.ite_none_right_eq_some, Option.some.injEq] at hq
      exact ⟨l, hq.2.symm⟩
  · obtain ⟨⟨l, e⟩, -, hq⟩ := List.mem_filterMap.mp h
    simp only [Option.ite_none_right_eq_some, Option.some.injEq] at hq
    exact ⟨l, hq.2.symm⟩
  · obtain ⟨⟨l, e⟩, -, hq⟩ := List.mem_filterMap.mp h
    simp only at hq
    split at hq
    · simp only [Option.ite_none_right_eq_some, Option.some.injEq] at hq
      exact ⟨_, hq.2.symm⟩
    · cases hq
  · exact ⟨[n], List.mem_singleton.mp h⟩
  · cases h

/-- The name leads to the entry: it fits its name, or it is its name. -/
def Leads (n m : String) : Prop := if isPattern n then fits n m = true else n = m

theorem fits_of_leads_self (h : Leads n n) : fits n n = true := by
  unfold Leads at h
  split_ifs at h with hpattern
  · exact h
  · refine fits_self fun hmem => hpattern ?_
    exact List.any_eq_true.mpr ⟨'[', hmem, by decide⟩

theorem leads_of_mem_step (hn : n ≠ "**") (h : q ∈ step t onlyDirectories n p) :
    ∃ m, q = p.child m ∧ Leads n m := by
  simp only [step, if_neg hn] at h
  split_ifs at h with hpattern hsome
  · obtain ⟨⟨l, e⟩, -, hq⟩ := List.mem_filterMap.mp h
    simp only at hq
    split at hq
    · rename_i m
      simp only [Option.ite_none_right_eq_some, Option.some.injEq, Bool.and_eq_true] at hq
      refine ⟨m, hq.2.symm, ?_⟩
      rw [Leads, if_pos hpattern]
      exact hq.1.2
    · cases hq
  · refine ⟨n, List.mem_singleton.mp h, ?_⟩
    rw [Leads, if_neg hpattern]
  · cases h

/-- **A name of a directory leads to it** if it fits itself. -/
theorem child_mem_step (hdir : t.isDirectory (p.child n) = true) (hn : fits n n = true) :
    p.child n ∈ step t onlyDirectories n p := by
  have hfind := FileTree.find?_of_isDirectory hdir
  have hbelow : n ≠ ".." → ([n], Entry.directory) ∈ t.below p := fun hne =>
    FileTree.mem_below (by simpa using hne.symm) (by simp) hfind
  simp only [step]
  split_ifs with hstars htop hpattern hsome
  · subst hstars
    refine List.mem_cons_of_mem _ (List.mem_filterMap.mpr ⟨_, hbelow (by decide), ?_⟩)
    have hvisible : isHidden "**" = false := by decide
    simp [hvisible, Path.child]
  · exact absurd (FileTree.isDirectory_of_append hdir) htop
  · have hne : n ≠ ".." := by
      rintro rfl
      exact absurd hpattern (by decide)
    refine List.mem_filterMap.mpr ⟨_, hbelow hne, ?_⟩
    simp [hn]
  · exact List.mem_singleton_self _
  · refine absurd ?_ hsome
    rw [FileTree.leadsSomewhere, hfind]
    rfl

/-! ### Several names -/

theorem mem_expand_iff : ∀ {ns : List String} {ps : List Path},
    q ∈ expand t ns ps ↔ ∃ p ∈ ps, q ∈ expand t ns [p]
  | [], ps => by simp [expand]
  | n :: ns, ps => by
    rw [expand, mem_expand_iff]
    constructor
    · rintro ⟨p', hp', hq⟩
      obtain ⟨p, hp, hstep⟩ := List.mem_flatMap.mp hp'
      refine ⟨p, hp, ?_⟩
      rw [expand, List.flatMap_singleton]
      exact mem_expand_iff.mpr ⟨p', hstep, hq⟩
    · rintro ⟨p, hp, hq⟩
      rw [expand, List.flatMap_singleton] at hq
      obtain ⟨p', hstep, hq⟩ := mem_expand_iff.mp hq
      exact ⟨p', List.mem_flatMap.mpr ⟨p, hp, hstep⟩, hq⟩

theorem mem_expand_cons_iff {ns : List String} : q ∈ expand t (n :: ns) [p] ↔
    ∃ p' ∈ step t (!ns.isEmpty) n p, q ∈ expand t ns [p'] := by
  rw [expand, List.flatMap_singleton, mem_expand_iff]

theorem exists_of_mem_expand : ∀ {ns : List String} {p : Path}, q ∈ expand t ns [p] →
    ∃ l, q = ⟨p.anchor, p.names ++ l⟩
  | [], p, h => by
    rw [List.mem_singleton.mp h]
    exact ⟨[], by rw [List.append_nil]⟩
  | n :: ns, p, h => by
    obtain ⟨p', hstep, hq⟩ := mem_expand_cons_iff.mp h
    obtain ⟨l, rfl⟩ := exists_of_mem_step hstep
    obtain ⟨l', rfl⟩ := exists_of_mem_expand hq
    exact ⟨l ++ l', by rw [List.append_assoc]⟩

/-- **The names of a directory lead to it** if each fits itself. -/
theorem mem_expand_names {r : List String} : ∀ {ns : List String} {p : Path},
    (∀ n ∈ ns, fits n n = true) → t.isDirectory ⟨p.anchor, p.names ++ ns⟩ = true →
    q ∈ expand t r [⟨p.anchor, p.names ++ ns⟩] → q ∈ expand t (ns ++ r) [p]
  | [], p, _, _, hq => by
    rw [List.append_nil] at hq
    exact hq
  | n :: ns, p, hns, hdir, hq => by
    have hsplit : p.names ++ n :: ns = (p.child n).names ++ ns := by
      rw [Path.child, List.append_assoc, List.singleton_append]
    rw [hsplit] at hdir hq
    have hchild : t.isDirectory (p.child n) = true := FileTree.isDirectory_of_append hdir
    have hrest := mem_expand_names (p := p.child n)
      (fun m hm => hns m (List.mem_cons_of_mem n hm)) hdir hq
    rw [List.cons_append]
    exact mem_expand_cons_iff.mpr
      ⟨p.child n, child_mem_step hchild (hns n List.mem_cons_self), hrest⟩

/-- The names of a pattern lead on one by one, unless one is two stars. -/
theorem exists_leads_of_mem_expand {r : List String} : ∀ {ns : List String} {p : Path},
    "**" ∉ ns → q ∈ expand t (ns ++ r) [p] →
    ∃ ms l, q.names = p.names ++ (ms ++ l) ∧ List.Forall₂ Leads ns ms
  | [], p, _, hq => by
    obtain ⟨l, rfl⟩ := exists_of_mem_expand hq
    exact ⟨[], l, rfl, .nil⟩
  | n :: ns, p, hns, hq => by
    rw [List.mem_cons, not_or] at hns
    rw [List.cons_append] at hq
    obtain ⟨p', hstep, hq⟩ := mem_expand_cons_iff.mp hq
    obtain ⟨m, rfl, hm⟩ := leads_of_mem_step (fun hn => hns.1 hn.symm) hstep
    obtain ⟨ms, l, hnames, hms⟩ := exists_leads_of_mem_expand hns.2 hq
    refine ⟨m :: ms, l, ?_, .cons hm hms⟩
    rw [hnames, Path.child, List.append_assoc, List.singleton_append, List.cons_append]

/-- **A directory is led to only by names that fit themselves**, unless one is two stars. -/
theorem forall_fits_of_mem_expand {a : Anchor} {ns r : List String} (hstars : "**" ∉ ns)
    (hq : q ∈ expand t (ns ++ r) [⟨a, []⟩]) (hbelow : ns <+: q.names) :
    ∀ n ∈ ns, fits n n = true := by
  obtain ⟨ms, l, hnames, hms⟩ := exists_leads_of_mem_expand hstars hq
  have hlen : ns.length = ms.length := hms.length_eq
  have heq : ns = ms := by
    rw [hnames, List.nil_append] at hbelow
    obtain ⟨l', hl'⟩ := hbelow
    exact (List.append_inj hl' hlen).1
  rw [← heq, List.forall₂_same] at hms
  exact fun n hn => fits_of_leads_self (hms n hn)

end Glob

end HouseRules
