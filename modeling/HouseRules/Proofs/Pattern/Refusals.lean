import HouseRules.Pattern.Reader
import HouseRules.Proofs.Text.Search

/-! # Why a pattern is refused

Most texts that are no patterns are malformed. Three faults are of another kind, and each can be seen
in the text: a count between braces that is out of bounds (`LargeCount`) or has too many digits
(`LongCount`), and groups that set the flags for both alphabets (`FlagGroup`).

The reader is followed from token to token: `After cs used s` says that in the text `cs` the
characters `used` stand right before those that are still to be read, and that the flags read so far
stand in groups of the text. Every step of the reader keeps this (`Keeps`), or it ends with a fault
that the text shows (`Blames`). -/

namespace HouseRules.Pattern

open Text (numberOf isHex isOctal maxDigits)

/-! ### Faults in the text -/

/-- A group of the text sets the flag for the whole pattern. -/
def FlagGroup (cs : List Char) (c : Char) : Prop :=
  ∃ letters, c ∈ letters ∧ (∀ d ∈ letters, isFlag d = true) ∧
    '(' :: '?' :: letters ++ [')'] <:+: cs

/-- The digits are a count, or one of two, between braces of the text. -/
def Counts (cs ds : List Char) : Prop :=
  ∃ counts : List (List Char), counts.length ≤ 2 ∧ (∀ es ∈ counts, ∀ d ∈ es, d.isDigit = true) ∧
    ds ∈ counts ∧ '\x7b' :: Search.join [','] counts ++ ['\x7d'] <:+: cs

/-- A count of the text is out of bounds. -/
def LargeCount (cs : List Char) : Prop := ∃ ds, Counts cs ds ∧ countBound ≤ numberOf 10 ds

/-- A count of the text has the given number of digits, which is more than are read as a number. -/
def LongCount (cs : List Char) (digits : Nat) : Prop :=
  ∃ ds, Counts cs ds ∧ ds.length = digits ∧ maxDigits < digits

/-- The text shows the fault, if it is more than malformed. Reading does not look at the room that
there is. -/
def Blames (cs : List Char) : Error → Prop
  | .malformed .. => True
  | .countTooLarge => LargeCount cs
  | .tooManyDigits digits => LongCount cs digits
  | .twoAlphabets => FlagGroup cs 'a' ∧ FlagGroup cs 'u'
  | .noRoom => False

/-! ### Positions in the text -/

/-- The characters that are still to be read. -/
def Progress.text (s : Progress) : List Char := s.rest.flatMap Tok.chars

/-- The characters `used` have just been read, and the flags read so far stand in groups. -/
structure After (cs used : List Char) (s : Progress) : Prop where
  passed : used ++ s.text <:+ cs
  flags : ∀ c ∈ s.flags, FlagGroup cs c
  late : ∀ e, s.late = some e → Blames cs e

variable {α β : Type} {cs used : List Char} {s : Progress} {P P' : Progress → Prop}
  {Q Q' : α → Progress → Prop} {R : β → Progress → Prop}

/-- From a state with the property `P` the computation leads to a result and a state with the
property `Q`, or to a fault that the text shows. -/
def Meets (cs : List Char) (P : Progress → Prop) (x : Read α) (Q : α → Progress → Prop) : Prop :=
  ∀ s, P s → match x.run s with
    | .ok (a, s') => Q a s'
    | .error e => Blames cs e

/-- The computation goes on in the text, or it ends with a fault that the text shows. -/
def Keeps (cs : List Char) (x : Read α) : Prop := Meets cs (After cs []) x fun _ => After cs []

theorem meets_pure {a : α} (h : ∀ s, P s → Q a s) : Meets cs P (pure a) Q := h

theorem Meets.bind {x : Read α} {f : α → Read β} (hx : Meets cs P x Q)
    (hf : ∀ a, Meets cs (Q a) (f a) R) : Meets cs P (x >>= f) R := by
  intro s hs
  have hrun := hx s hs
  rw [StateT.run_bind]
  cases hstep : x.run s with
  | error e =>
    rw [hstep] at hrun
    exact hrun
  | ok r =>
    rw [hstep] at hrun
    exact hf r.1 r.2 hrun

theorem keeps_pure (a : α) : Keeps cs (pure a) := meets_pure fun _ hs => hs

theorem Keeps.bind {x : Read α} {f : α → Read β} (hx : Keeps cs x) (hf : ∀ a, Keeps cs (f a)) :
    Keeps cs (x >>= f) :=
  Meets.bind hx hf

/-- The last step of a computation often only wraps a result. -/
theorem Keeps.wrap {x : Read α} {f : α → β} (hx : Keeps cs x) :
    Keeps cs (x >>= fun a => pure (f a)) :=
  hx.bind fun a => keeps_pure (f a)

/-- The contents of a group are read on in the text. -/
structure Inner.Keeps (cs : List Char) (inner : Inner) : Prop where
  alternatives : ∀ c, Pattern.Keeps cs (inner.alternatives c)
  single : ∀ c, Pattern.Keeps cs (inner.single c)

section Groups

variable {inner : Inner} (hinner : inner.Keeps cs) (c : Scope)

include hinner

end Groups

/-! ### Sequences -/

end HouseRules.Pattern
