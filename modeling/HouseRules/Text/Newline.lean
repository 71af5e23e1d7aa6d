/-! # Ends of lines

In a text file a line ends with a line feed, a carriage return, or both in this order. Read as text,
each of them is one line feed. -/

namespace HouseRules.Text

/-- Every end of a line as a line feed. -/
def unifyNewlines : List Char → List Char
  | [] => []
  | '\r' :: '\n' :: r => '\n' :: unifyNewlines r
  | c :: r => (if c = '\r' then '\n' else c) :: unifyNewlines r

theorem not_mem_unifyNewlines (cs : List Char) : '\r' ∉ unifyNewlines cs := by
  fun_induction unifyNewlines cs with
  | case1 => simp
  | case2 r ih => simp [ih]
  | case3 c r _ ih =>
    by_cases h : c = '\r'
    · simp [h, ih]
    · simp [h, ih, Ne.symm h]

end HouseRules.Text
