import HouseRules.Check.Finding

/-! # Running checks

Every check looks at every context, the contexts one after the other and for each of them the
checks in their order. The report lists all findings and sums them up by check. -/

namespace HouseRules

/-- The result of running checks. -/
structure Report where
  /-- The findings. -/
  findings : List Finding
  /-- The findings in one line. -/
  summary : String
deriving DecidableEq, Repr

/-- Something was found. -/
def Report.hasFindings (r : Report) : Bool := !r.findings.isEmpty

/-- Counts one more finding of a check. -/
def tally (counts : List (String × Nat)) (id : String) : List (String × Nat) :=
  match counts with
  | [] => [(id, 1)]
  | (k, n) :: r => if k = id then (k, n + 1) :: r else (k, n) :: tally r id

/-- The number of findings of each check, in the order of their first findings. -/
def countsOf (fs : List Finding) : List (String × Nat) :=
  fs.foldl (fun counts f => tally counts f.checkId) []

/-- The findings in one line. -/
def summaryOf (fs : List Finding) : String :=
  if fs.isEmpty then "No issues found."
  else
    let parts := (countsOf fs).map fun (id, n) => s!"{n} {id}"
    let issues := if fs.length = 1 then "issue" else "issues"
    s!"Found {fs.length} {issues}: " ++ ", ".intercalate parts ++ "."

/-- The report on findings. -/
def Report.ofFindings (fs : List Finding) : Report := ⟨fs, summaryOf fs⟩

namespace Engine

variable {m : Type → Type} [Monad m]

/-- Runs checks on a context. -/
def runOn (checks : List (Check m)) (filters : List Filter) (context : Context) :
    m (List Finding) :=
  match checks with
  | [] => pure []
  | c :: cs => do
    let here ← c.execute context filters
    let there ← runOn cs filters context
    return here ++ there

/-- Runs checks on contexts. -/
def findings (checks : List (Check m)) (filters : List Filter) (contexts : List Context) :
    m (List Finding) :=
  match contexts with
  | [] => pure []
  | x :: xs => do
    let here ← runOn checks filters x
    let there ← findings checks filters xs
    return here ++ there

/-- Runs checks on contexts and reports. -/
def run (checks : List (Check m)) (contexts : List Context) (filters : List Filter) : m Report := do
  return Report.ofFindings (← findings checks filters contexts)

end Engine
end HouseRules
