import HouseRules.Pattern.Expr

/-! # Matching

A match is sought by backtracking: the matcher of an expression gets the rest of the work as a
function and calls it with each place it can reach, in the order of preference, until one succeeds.
The matcher is a recursion on the expression; repetitions run on a count of rounds that is bounded
by the text, since a round that does not move is the last. -/

namespace HouseRules.Pattern

/-- The range that each group has captured, the latest first. -/
abbrev Captures := List (Nat × Nat × Nat)

/-- A place in the text together with what has been captured on the way. -/
structure Place where
  /-- The position. -/
  pos : Nat
  /-- The captured ranges. -/
  captures : Captures
deriving Repr

/-- The range that a group has captured. -/
def Place.captured? (p : Place) (index : Nat) : Option (Nat × Nat) :=
  (p.captures.find? (·.1 == index)).map (·.2)

/-- The rest of the work. -/
abbrev Rest := Place → Option Place

/-- A matcher: tries the rest at every place that it reaches. -/
abbrev Step := Place → Rest → Option Place

/-- One character that satisfies the test. -/
def charStep (text : Array Char) (test : Char → Bool) : Step := fun p rest =>
  match text[p.pos]? with
  | some c => if test c then rest { p with pos := p.pos + 1 } else none
  | none => none

/-- The character at a position is a word character. -/
def wordAt (text : Array Char) (m : Mode) (i : Nat) : Bool :=
  (text[i]?).any (m.inClass .word)

/-- The position stands between a word character and another. -/
def atBoundary (text : Array Char) (m : Mode) (i : Nat) : Bool :=
  (i != 0 && wordAt text m (i - 1)) != wordAt text m i

/-- The condition holds at a position. -/
def holdsAt (text : Array Char) (m : Mode) (i : Nat) : Position → Bool
  | .lineStart => i == 0 || (m.multiline && text[i - 1]? == some '\n')
  | .lineEnd =>
    i == text.size || (text[i]? == some '\n' && (m.multiline || i + 1 == text.size))
  | .textStart => i == 0
  | .textEnd => i == text.size
  | .boundary => !text.isEmpty && atBoundary text m i
  | .noBoundary => !text.isEmpty && !atBoundary text m i

/-- The text at a position continues with the characters `cs`. -/
def continuesWith (text : Array Char) (m : Mode) (i : Nat) : List Char → Bool
  | [] => true
  | c :: cs => (text[i]?).any (m.sameChar c) && continuesWith text m (i + 1) cs

/-- The step `n` times. -/
def exactly (step : Step) : Nat → Step
  | 0, p, rest => rest p
  | n + 1, p, rest => step p fun q => exactly step n q rest

/-- Further rounds of a step, as many as possible first. `budget` is the number of rounds that the
bound of the repetition leaves. A round from the place where the last one started is not made. -/
def mostRounds (step : Step) : (fuel : Nat) → (budget : Option Nat) → (last : Option Nat) → Step
  | 0, _, _, p, rest => rest p
  | fuel + 1, budget, last, p, rest =>
    if budget == some 0 || last == some p.pos then rest p
    else
      match step p fun q => mostRounds step fuel (budget.map (· - 1)) (some p.pos) q rest with
      | some q => some q
      | none => rest p

/-- Further rounds of a step, as few as possible first. -/
def fewestRounds (step : Step) : (fuel : Nat) → (budget : Option Nat) → (last : Option Nat) → Step
  | 0, _, _, p, rest => rest p
  | fuel + 1, budget, last, p, rest =>
    match rest p with
    | some q => some q
    | none =>
      if budget == some 0 || last == some p.pos then none
      else step p fun q => fewestRounds step fuel (budget.map (· - 1)) (some p.pos) q rest

/-- The step `n` times, each time with its first match. -/
def firstExactly (step : Step) : Nat → Place → Option Place
  | 0, p => some p
  | n + 1, p =>
    match step p some with
    | some q => firstExactly step n q
    | none => none

/-- Further rounds of a step, each with its first match, as many as there are. -/
def allRounds (step : Step) : (fuel : Nat) → (budget : Option Nat) → Place → Place
  | 0, _, p => p
  | fuel + 1, budget, p =>
    if budget == some 0 then p
    else match step p some with
      | some q => if q.pos == p.pos then q else allRounds step fuel (budget.map (· - 1)) q
      | none => p

/-- Rounds enough for any repetition over a text. -/
def roundsFor (text : Array Char) : Nat := 2 * text.size + 2

/-- A repeated step. -/
def repStep (text : Array Char) (greed : Greed) (lo : Nat) (hi : Option Nat) (step : Step) : Step :=
  fun p rest =>
    let budget := hi.map (· - lo)
    match greed with
    | .greedy => exactly step lo p fun q => mostRounds step (roundsFor text) budget none q rest
    | .lazy => exactly step lo p fun q => fewestRounds step (roundsFor text) budget none q rest
    | .possessive =>
      match firstExactly step lo p with
      | some q => rest (allRounds step (roundsFor text) budget q)
      | none => none

/-- The matcher of an expression. -/
def Expr.step (text : Array Char) : Expr → Step
  | empty => fun p rest => rest p
  | seq a b => fun p rest => a.step text p fun q => b.step text q rest
  | alt a b => fun p rest =>
    match a.step text p rest with
    | some q => some q
    | none => b.step text p rest
  | oneOf m negated items => charStep text fun c => m.inSet items c != negated
  | any m => charStep text fun c => m.dotAll || c != '\n'
  | here m position => fun p rest => if holdsAt text m p.pos position then rest p else none
  | rep greed lo hi body => repStep text greed lo hi fun p rest => body.step text p rest
  | group none body => fun p rest => body.step text p rest
  | group (some i) body => fun p rest =>
    body.step text p fun q => rest { q with captures := (i, p.pos, q.pos) :: q.captures }
  | backref m i => fun p rest =>
    match p.captured? i with
    | none => none
    | some (lo, hi) =>
      if continuesWith text m p.pos (text.extract lo hi).toList then
        rest { p with pos := p.pos + (hi - lo) }
      else none
  | ifGroup i yes no => fun p rest =>
    if (p.captured? i).isSome then yes.step text p rest else no.step text p rest
  | look behind negated body => fun p rest =>
    let found :=
      match behind with
      | none => body.step text p some
      | some n => if n ≤ p.pos then body.step text { p with pos := p.pos - n } some else none
    match found, negated with
    | some q, false => rest { p with captures := q.captures }
    | none, true => rest p
    | _, _ => none
  | atomic body => fun p rest =>
    match body.step text p some with
    | some q => rest q
    | none => none

/-- The expression matches at one of the positions. -/
def Expr.foundAt (e : Expr) (text : Array Char) (starts : List Nat) : Bool :=
  starts.any fun i => (e.step text ⟨i, []⟩ some).isSome

/-- The expression matches somewhere in the text. -/
def Expr.found (e : Expr) (text : String) : Bool :=
  let chars := text.toList.toArray
  e.foundAt chars (List.range (chars.size + 1))

end HouseRules.Pattern
