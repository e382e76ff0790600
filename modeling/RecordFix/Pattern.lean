import RecordFix.Text.Ranges

/-!
# Regular expressions

The abstract syntax of patterns.
-/

namespace RecordFix.Pattern

open RecordFix.Text

/-- A condition on the place between two characters. Words are those of all scripts or of ASCII alone. -/
inductive Look where
  | startText
  | endText
  | startLine (crlf : Bool)
  | endLine (crlf : Bool)
  | boundary (unicode : Bool)
  | notBoundary (unicode : Bool)
  | wordStart (unicode : Bool)
  | wordEnd (unicode : Bool)
  | wordStartHalf (unicode : Bool)
  | wordEndHalf (unicode : Bool)
  deriving DecidableEq

inductive Regex where
  | empty
  | one (set : Ranges)
  | look (condition : Look)
  | seq (first second : Regex)
  | alt (first second : Regex)
  | iterate (min : Nat) (max : Option Nat) (greedy : Bool) (body : Regex)
  | capture (index : Nat) (body : Regex)

namespace Regex

def isEmpty : Regex → Bool
  | empty => true
  | _ => false

def concatAll : List Regex → Regex
  | [] => empty
  | [r] => r
  | r :: rs => seq r (concatAll rs)

/-- One expression after the other. -/
def concat (rs : List Regex) : Regex := concatAll (rs.filter (!·.isEmpty))

def set? : Regex → Option Ranges
  | one s => some s
  | _ => none

def choiceAll : List Regex → Regex
  | [] => empty
  | [r] => r
  | r :: rs => alt r (choiceAll rs)

/-- One of several expressions, the earlier ones preferred. Expressions for one character make one set. -/
def choice (rs : List Regex) : Regex :=
  match rs.mapM set? with
  | some (s :: ss) => one (Ranges.unionAll (s :: ss))
  | _ => choiceAll rs

/-- The expression takes no character. -/
def takesNothing : Regex → Bool
  | empty => true
  | one _ => false
  | look _ => true
  | seq a b => a.takesNothing && b.takesNothing
  | alt a b => a.takesNothing && b.takesNothing
  | iterate _ _ _ a => a.takesNothing
  | capture _ a => a.takesNothing

/-- At least `min` times, and at most `max` times if there is a bound. What takes no character need not be done
twice. -/
def repeated (min : Nat) (max : Option Nat) (greedy : Bool) (body : Regex) : Regex :=
  let (min, max) := if body.takesNothing then (Nat.min min 1, some ((max.map (Nat.min · 1)).getD 1)) else (min, max)
  match min, max with
  | 0, some 0 => empty
  | 1, some 1 => body
  | min, max => iterate min max greedy body

/-- The numbers of the groups. -/
def groups : Regex → List Nat
  | empty => []
  | one _ => []
  | look _ => []
  | seq a b => a.groups ++ b.groups
  | alt a b => a.groups ++ b.groups
  | iterate _ _ _ a => a.groups
  | capture i a => i :: a.groups

end Regex

end RecordFix.Pattern
