import HouseRules.Text.Search

/-! # Paths

A path is an anchor and a list of names. Empty names and single dots are dropped when a path is
read; double dots are kept. Paths are compared by their components in code point order, so that a
directory's files stand together. -/

namespace HouseRules

/-- Where a path starts. -/
inductive Anchor where
  /-- At the working directory. -/
  | relative
  /-- At the root. -/
  | root
  /-- At the root, written with exactly two slashes. -/
  | doubleRoot
deriving DecidableEq, Repr

/-- The written form of an anchor. -/
def Anchor.text : Anchor → String
  | relative => ""
  | root => "/"
  | doubleRoot => "//"

/-- A path. -/
structure Path where
  /-- Where it starts. -/
  anchor : Anchor
  /-- The names on the way. -/
  names : List String
deriving DecidableEq, Repr

namespace Path

/-- The names between the slashes of a text. -/
def splitNames (s : String) : List String :=
  ((Search.pieces '/' s.toList).map String.ofList).filter fun n => n ≠ "" && n ≠ "."

/-- The anchor of a text. -/
def anchorOf (s : String) : Anchor :=
  match s.toList with
  | '/' :: '/' :: '/' :: _ => .root
  | '/' :: '/' :: _ => .doubleRoot
  | '/' :: _ => .root
  | _ => .relative

/-- The path that a text writes. -/
def ofString (s : String) : Path := ⟨anchorOf s, splitNames s⟩

/-- The names joined by slashes. -/
def joinNames (names : List String) : String := "/".intercalate names

/-- The written form of a path. -/
def toString (p : Path) : String :=
  if p.anchor = .relative ∧ p.names = [] then "." else p.anchor.text ++ joinNames p.names

/-- The path does not depend on the working directory. -/
def isAbsolute (p : Path) : Bool := p.anchor ≠ .relative

/-- The path `q` as seen from `p`. -/
def append (p q : Path) : Path := if q.isAbsolute then q else ⟨p.anchor, p.names ++ q.names⟩

instance : Append Path := ⟨append⟩

/-- The path of an entry of a directory. -/
def child (p : Path) (name : String) : Path := ⟨p.anchor, p.names ++ [name]⟩

/-- The components of a path: its anchor, if it has one, and its names. -/
def components (p : Path) : List String :=
  if p.isAbsolute then p.anchor.text :: p.names else p.names

/-- What remains of a path below `base`. -/
def relativeTo? (p base : Path) : Option Path :=
  if p.anchor = base.anchor then (Search.after? base.names p.names).map (⟨.relative, ·⟩) else none

/-- The path below `base`, or the whole path if it lies elsewhere. -/
def shortenedBy (p base : Path) : Path := (p.relativeTo? base).getD p

/-- The order of two lists of names. -/
def namesLe : List String → List String → Bool
  | [], _ => true
  | _ :: _, [] => false
  | a :: as, b :: bs => if a = b then namesLe as bs else decide (a < b)

/-- The order of two paths, component by component. -/
def le (p q : Path) : Bool := namesLe p.components q.components

end Path
end HouseRules
