/-! # Searching in lists

Texts and byte strings are searched for fixed words: whether a word occurs, what lies between the
occurrences of a separator, and what remains when a class of elements is cut off either end. -/

namespace HouseRules.Search

variable {α : Type}

/-- The word occurs somewhere in the list. -/
def occurs [BEq α] (word : List α) : List α → Bool
  | [] => word.isEmpty
  | x :: r => word.isPrefixOf (x :: r) || occurs word r

/-- The position of the last occurrence of the word. -/
def lastIndexOf? [BEq α] (word : List α) : List α → Option Nat
  | [] => if word.isEmpty then some 0 else none
  | x :: r =>
    match lastIndexOf? word r with
    | some i => some (i + 1)
    | none => if word.isPrefixOf (x :: r) then some 0 else none

/-- The pieces between the occurrences of a separator, at least one. -/
def pieces [BEq α] (sep : α) : List α → List (List α)
  | [] => [[]]
  | x :: r =>
    match pieces sep r with
    | [] => [[x]]
    | p :: ps => if x == sep then [] :: p :: ps else (x :: p) :: ps

/-- The list without its longest tail of elements that satisfy `p`. -/
def dropEndWhile (p : α → Bool) (l : List α) : List α :=
  (l.reverse.dropWhile p).reverse

/-- The list without its longest head and its longest tail of elements that satisfy `p`. -/
def trim (p : α → Bool) (l : List α) : List α := dropEndWhile p (l.dropWhile p)

/-- The rest of the list after a leading word, if the list starts with it. -/
def after? [BEq α] (word l : List α) : Option (List α) :=
  if word.isPrefixOf l then some (l.drop word.length) else none

/-- The pieces joined again, with the separator between neighbours. -/
def join (sep : List α) : List (List α) → List α
  | [] => []
  | [p] => p
  | p :: q :: r => p ++ sep ++ join sep (q :: r)

theorem pieces_ne_nil [BEq α] (sep : α) (l : List α) : pieces sep l ≠ [] := by
  cases l with
  | nil => simp [pieces]
  | cons x r =>
    unfold pieces
    split
    · simp
    · split <;> simp

end HouseRules.Search
