import HouseRules.CSharp.Token

/-! # Token trees

The brackets of a text group its tokens: a group is what stands between an opening bracket and the
closing bracket that belongs to it. A closing bracket that closes nothing is dropped, and a bracket
that is never closed groups everything up to the end. -/

namespace HouseRules.CSharp

/-- A token or a group of them. -/
inductive TokenTree where
  /-- A token that is not a bracket. -/
  | leaf (t : Token)
  /-- What stands between two brackets, with the bytes from the first to the second. -/
  | group (b : Bracket) (start stop : Nat) (body : List TokenTree)

namespace TokenTree

/-- The offset of the first byte. -/
def start : TokenTree → Nat
  | leaf t => t.start
  | group _ s _ _ => s

/-- The offset after the last byte. -/
def stop : TokenTree → Nat
  | leaf t => t.stop
  | group _ _ s _ => s

/-- The text of a keyword or identifier. -/
def word? : TokenTree → Option String
  | leaf t => if t.kind = .word then some t.text else none
  | group .. => none

/-- The tree is the given mark. -/
def isMark (text : String) : TokenTree → Bool
  | leaf t => t.kind = .mark && t.text = text
  | group .. => false

/-- The tree is a group in the given brackets. -/
def isGroup (b : Bracket) : TokenTree → Bool
  | leaf _ => false
  | group b' .. => b' = b

/-- A group that is still open: its bracket, its first byte and what it holds, last first. -/
structure Open where
  /-- The bracket. -/
  bracket : Bracket
  /-- The offset of the bracket. -/
  start : Nat
  /-- What the group holds so far, last first. -/
  body : List TokenTree

/-- What has been grouped so far. -/
structure Grouping where
  /-- The open groups, innermost first. -/
  opens : List Open := []
  /-- The trees outside all groups, last first. -/
  done : List TokenTree := []

/-- One more tree in the innermost open group. -/
def Grouping.push (g : Grouping) (t : TokenTree) : Grouping :=
  match g.opens with
  | [] => { g with done := t :: g.done }
  | o :: os => { g with opens := { o with body := t :: o.body } :: os }

/-- The innermost group ends. -/
def Grouping.close (g : Grouping) (stop : Nat) : Grouping :=
  match g.opens with
  | [] => g
  | o :: os => Grouping.push { g with opens := os } (group o.bracket o.start stop o.body.reverse)

/-- One more token. -/
def Grouping.add (g : Grouping) (t : Token) : Grouping :=
  match t.kind with
  | .opening b => { g with opens := ⟨b, t.start, []⟩ :: g.opens }
  | .closing _ => g.close t.stop
  | _ => g.push (leaf t)

/-- The trees when no token is left. -/
def Grouping.finish (g : Grouping) (stop : Nat) : List TokenTree :=
  (g.opens.foldl (fun g _ => g.close stop) g).done.reverse

/-- The trees of some tokens. -/
def ofTokens (ts : List Token) : List TokenTree :=
  (ts.foldl Grouping.add {}).finish ((ts.getLast?.map Token.stop).getD 0)

end TokenTree
end HouseRules.CSharp
