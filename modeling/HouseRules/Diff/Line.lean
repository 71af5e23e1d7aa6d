import HouseRules.History.Commit
import HouseRules.Text.Utf8

/-! # Lines of a blob

A blob is cut after each line feed. The lines are numbered from one, and a number denotes a change
when its line exists and is not empty. -/

namespace HouseRules.Diff

/-- The range of line `number` of a blob of length `size` whose lines start at `starts`. -/
def lineRange? (starts : List Nat) (size : Nat) (number : Int) : Option (Nat × Nat) :=
  if number < 1 then none
  else match starts[(number - 1).toNat]? with
    | none => none
    | some start =>
      let stop := starts[number.toNat]?.getD size
      if start = stop then none else some (start, stop)

/-- The change that adds the bytes from `start` to `stop` of a blob. -/
def changeAt (id : String) (blob : Bytes) (start stop : Nat) : Change where
  content := Utf8.decodeLossy ((blob.take stop).drop start)
  range := ⟨start, stop⟩
  blob := id

/-- The changes that add the numbered lines of a blob, in the order of the numbers. -/
def changesForLines (id : String) (blob : Bytes) (numbers : List Int) : List Change :=
  let starts := Bytes.lineStarts blob
  numbers.filterMap fun number =>
    (lineRange? starts blob.length number).map fun (start, stop) => changeAt id blob start stop

end HouseRules.Diff
