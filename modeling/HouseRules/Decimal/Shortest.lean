/-! # The shortest decimal of a binary number

A floating-point number stands for all reals that are rounded to it. Among the decimals in that
interval one with the fewest digits is chosen, and of several of these the one nearest to the number
itself. -/

namespace HouseRules

/-- A decimal: `digits` times ten to the power of `exponent`. -/
structure Decimal where
  /-- The digits, as a number. -/
  digits : Nat
  /-- The power of ten. -/
  exponent : Int
  deriving DecidableEq, Repr

namespace Decimal

/-- A positive binary number: `mantissa` times two to the power of `exponent`. -/
structure Binary where
  /-- The mantissa. -/
  mantissa : Nat
  /-- The power of two. -/
  exponent : Int
  /-- The number below is only half as far away as the number above. -/
  nearBelow : Bool
  deriving DecidableEq, Repr

/-- The size of a finite floating-point number, without its sign. -/
def Binary.ofFloat (x : Float) : Binary :=
  let bits : Nat := x.toBits.toNat
  let fraction : Nat := bits % Nat.pow 2 52
  let power : Nat := bits / Nat.pow 2 52 % Nat.pow 2 11
  if power = 0 then ⟨fraction, -1074, false⟩
  else ⟨fraction + Nat.pow 2 52, (power : Int) - 1075, fraction = 0 && 1 < power⟩

/-- A ratio of natural numbers. -/
structure Ratio where
  /-- The numerator. -/
  num : Nat
  /-- The denominator. -/
  den : Nat
  deriving DecidableEq, Repr

/-- A power with an integer exponent. -/
def Ratio.pow (base : Nat) (e : Int) : Ratio :=
  if 0 ≤ e then ⟨base.pow e.toNat, 1⟩ else ⟨1, base.pow (-e).toNat⟩

/-- A multiple of a ratio. -/
def Ratio.times (n : Nat) (r : Ratio) : Ratio := ⟨n * r.num, r.den⟩

/-- One ratio is less than another. -/
def Ratio.less (a b : Ratio) : Bool := a.num * b.den < b.num * a.den

/-- The distance of two ratios. -/
def Ratio.distance (a b : Ratio) : Ratio :=
  let x := a.num * b.den
  let y := b.num * a.den
  ⟨(x - y) + (y - x), a.den * b.den⟩

/-- The quarter of the last place of a number, in which the ends of its interval are counted. -/
def Binary.quarter (b : Binary) : Ratio := Ratio.pow 2 (b.exponent - 2)

/-- The number itself. -/
def Binary.ratio (b : Binary) : Ratio := b.quarter.times (4 * b.mantissa)

/-- A real is rounded to the number. The ends of the interval belong to an even mantissa. -/
def Binary.contains (b : Binary) (r : Ratio) : Bool :=
  let low := b.quarter.times (4 * b.mantissa - if b.nearBelow then 1 else 2)
  let high := b.quarter.times (4 * b.mantissa + 2)
  if b.mantissa % 2 = 0 then !r.less low && !high.less r else low.less r && r.less high

/-- The least power of ten, from `k` on upwards or downwards, that is greater than a ratio. -/
def powerAbove (r : Ratio) : Nat → Int → Int
  | 0, k => k
  | n + 1, k =>
    if !r.less (Ratio.pow 10 k) then powerAbove r n (k + 1)
    else if r.less (Ratio.pow 10 (k - 1)) then powerAbove r n (k - 1)
    else k

/-- The best decimal with `count` digits, if one of that length is in the interval. -/
def withDigits? (b : Binary) (power : Int) (count : Nat) : Option Decimal :=
  let step := Ratio.pow 10 (power - count)
  let value := b.ratio
  let below := value.num * step.den / (value.den * step.num)
  let candidate := fun n => if b.contains (step.times n) then some n else none
  let distance := fun n => (step.times n).distance value
  let best := match candidate below, candidate (below + 1) with
    | some x, some y =>
      if (distance x).less (distance y) then some x
      else if (distance y).less (distance x) then some y
      else some (if x % 2 = 0 then x else y)
    | some x, none => some x
    | none, y => y
  best.map fun n => ⟨n, power - count⟩

/-- The shortest decimal of a positive number. -/
def shortest (b : Binary) : Decimal :=
  let power := powerAbove b.ratio 800 0
  ((List.range 17).findSome? fun i => withDigits? b power (i + 1)).getD ⟨b.mantissa, 0⟩

/-- How a number with a fraction is written: by its digits and the point if its power of ten lies in
a range, with the power otherwise. -/
structure Layout where
  /-- The least power of the first digit that is written by digits alone. -/
  least : Int
  /-- The least greater power that is not. -/
  bound : Int

/-- Powers from a ten-thousandth up to ten to the sixteenth are written out. -/
def layout : Layout := ⟨-4, 16⟩

/-- A digit string with a point behind its first `n` digits, filled up by zeros. -/
def placePoint (ds : List Char) (n : Int) : String :=
  if n ≤ 0 then "0." ++ String.ofList (List.replicate (-n).toNat '0' ++ ds)
  else
    let filled := ds ++ List.replicate (n.toNat - ds.length) '0'
    let fraction := filled.drop n.toNat
    String.ofList (filled.take n.toNat) ++ "." ++
      (if fraction.isEmpty then "0" else String.ofList fraction)

/-- The digits without zeros at the end. -/
def significant (n : Nat) : List Char :=
  ((toString n).toList.reverse.dropWhile (· == '0')).reverse

/-- A positive decimal in writing. -/
def written (f : Layout) (d : Decimal) : String :=
  let all := (toString d.digits).toList
  let ds := significant d.digits
  let point := (all.length : Int) + d.exponent
  let power := point - 1
  if f.least ≤ power && power < f.bound then placePoint ds point
  else
    let size := toString power.natAbs
    let mantissa := match ds with
      | [] => "0"
      | [c] => String.ofList [c]
      | c :: r => String.ofList (c :: '.' :: r)
    mantissa ++ "e" ++ (if power < 0 then "-" else "+") ++
      (if size.length < 2 then "0" ++ size else size)

/-- A floating-point number in writing. -/
def text (x : Float) : String :=
  if x.isNaN then "nan"
  else
    let sign := if x.toBits.toNat / Nat.pow 2 63 = 1 then "-" else ""
    if x.isInf then sign ++ "inf"
    else
      let b := Binary.ofFloat x
      sign ++ if b.mantissa = 0 then "0.0" else written layout (shortest b)

end Decimal
end HouseRules
