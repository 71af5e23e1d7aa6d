import HouseRules.Files.Tree

/-! # Patterns of paths

In a pattern a star stands for any characters of a name, a question mark for one, and a set in
square brackets for one of its characters. A name of two stars stands for any number of directories,
none included. A name that starts with a dot is hidden: it is matched only by a pattern that starts
with a dot, and never by two stars. -/

namespace HouseRules.Glob

/-- An item of a pattern of names. -/
inductive Item where
  /-- Any characters. -/
  | any
  /-- One character. -/
  | one
  /-- The given character. -/
  | char (c : Char)
  /-- One character in, or outside, the given ranges. -/
  | set (negated : Bool) (ranges : List (Char × Char))
  deriving DecidableEq, Repr

/-- The ranges that the inside of square brackets writes. -/
def rangesOf : List Char → List (Char × Char)
  | [] => []
  | lo :: '-' :: hi :: r => (lo, hi) :: rangesOf r
  | c :: r => (c, c) :: rangesOf r

/-- The inside of a set and what follows it, behind the opening bracket. A closing bracket that comes
first belongs to the set; without a second one there is no set. -/
def setBody? (cs : List Char) : Option (Bool × List Char × List Char) :=
  let negated := cs.head? = some '!'
  let cs := if negated then cs.drop 1 else cs
  let first := if cs.head? = some ']' then cs.take 1 else []
  let more := cs.drop first.length
  let rest := more.dropWhile (· != ']')
  if rest.isEmpty then none
  else some (negated, first ++ more.takeWhile (· != ']'), rest.drop 1)

theorem length_of_setBody? {cs inside rest : List Char} {negated : Bool}
    (h : setBody? cs = some (negated, inside, rest)) : rest.length ≤ cs.length := by
  have dropWhile_le (p : Char → Bool) (l : List Char) : (l.dropWhile p).length ≤ l.length :=
    (List.dropWhile_suffix p).length_le
  unfold setBody? at h
  extract_lets negated' tail first more behind at h
  split at h
  · cases h
  · cases h
    calc (behind.drop 1).length ≤ behind.length := by simp
      _ ≤ more.length := dropWhile_le _ _
      _ ≤ tail.length := by simp [more]
      _ ≤ cs.length := by simp only [tail]; split <;> simp

/-- The items of a pattern of names. -/
def items : List Char → List Item
  | [] => []
  | c :: r =>
    if c = '*' then .any :: items r
    else if c = '?' then .one :: items r
    else if c = '[' then
      match h : setBody? r with
      | some (negated, inside, rest) =>
        have : rest.length ≤ r.length := length_of_setBody? h
        .set negated (rangesOf inside) :: items rest
      | none => .char '[' :: items r
    else .char c :: items r
termination_by cs => cs.length

/-- The item stands for the character. -/
def Item.admits : Item → Char → Bool
  | any, _ => true
  | one, _ => true
  | char d, c => c == d
  | set negated ranges, c => (ranges.any fun (lo, hi) => lo ≤ c && c ≤ hi) != negated

/-- The items stand for the whole name. -/
def covers : List Item → List Char → Bool
  | [], cs => cs.isEmpty
  | i :: r, [] => i == .any && covers r []
  | i :: r, c :: cs =>
    if i = .any then covers r (c :: cs) || covers (i :: r) cs
    else i.admits c && covers r cs
termination_by is cs => is.length + cs.length

/-- The name is hidden. -/
def isHidden (name : String) : Bool := name.toList.head? == some '.'

/-- The pattern stands for the name. -/
def fits (pattern name : String) : Bool :=
  (isHidden pattern || !isHidden name) && covers (items pattern.toList) name.toList

/-- The text holds a character with a meaning in patterns. -/
def isPattern (s : String) : Bool := s.toList.any fun c => c == '*' || c == '?' || c == '['

/-- The locations below a path that a name of a pattern stands for. Two stars stand for the path
itself, too, if it is a directory. -/
def step (t : FileTree) (onlyDirectories : Bool) (name : String) (p : Path) : List Path :=
  let wanted := fun (e : Entry) => !onlyDirectories || e = .directory
  if name = "**" then
    let inner := (t.below p).filterMap fun (l, e) =>
      if wanted e && l.all (!isHidden ·) then some ⟨p.anchor, p.names ++ l⟩ else none
    if t.isDirectory p then p :: inner else inner
  else if isPattern name then
    (t.below p).filterMap fun (l, e) =>
      match l with
      | [n] => if wanted e && fits name n then some (p.child n) else none
      | _ => none
  else if t.leadsSomewhere (p.child name) then [p.child name]
  else []

/-- The paths that the names of a pattern stand for, from given paths on. -/
def expand (t : FileTree) : List String → List Path → List Path
  | [], ps => ps
  | n :: r, ps => expand t r (ps.flatMap (step t (!r.isEmpty) n))

/-- The paths that a pattern stands for, in order. -/
def paths (t : FileTree) (pattern : Path) : List Path :=
  (expand t pattern.names [⟨pattern.anchor, []⟩]).mergeSort Path.le

end HouseRules.Glob
