import RecordFix.Pattern.Match
import RecordFix.Pattern.Parser
import RecordFix.Text.Integer

/-!
# Searching and replacing

The uses of a pattern on a text: tests, the groups of the first match, the pieces between matches, and replacement
of all matches by a template, in which `$name`, `$7` and the same in braces stand for groups and `$$` for a dollar
sign.
-/

namespace RecordFix.Pattern

open RecordFix.Text

def firstMatch? (p : Pattern) (text : String) : Option Match :=
  p.program.search? text.toList.toArray 0

/-- Whether the pattern matches somewhere in the text. -/
def isMatch (p : Pattern) (text : String) : Bool := (p.firstMatch? text).isSome

/-- The number of the group with this name. -/
def groupIndex? (p : Pattern) (name : String) : Option Nat :=
  (p.groupNames.idxOf? (some name)).map (· + 1)

/-- The text of the group with this name, if the group took part in the match. -/
def namedGroup? (p : Pattern) (m : Match) (name : String) : Option String :=
  (p.groupIndex? name).bind m.group?

/-- The pieces of a text from a place on that lie between matches, and after the last of them. -/
def piecesBetween (text : Array Char) : Nat → List Match → List (List Char)
  | place, [] => [charsBetween text place text.size]
  | place, m :: ms => charsBetween text place m.start :: piecesBetween text m.stop ms

/-- The pieces of a text between the matches. -/
def split (p : Pattern) (text : String) : List String :=
  let chars := text.toList.toArray
  (piecesBetween chars 0 (p.program.allMatches chars)).map String.ofList

/-! ### Templates -/

/-- A part of a template: text, or a group given by number or name. -/
inductive Piece where
  | text (s : List Char)
  | number (n : Nat)
  | name (s : String)

private def isReferenceChar (c : Char) : Bool := isAsciiWord c

private def reference (label : List Char) : Piece :=
  match parseNat64 (String.ofList label) with
  | .ok n => .number n
  | .error _ => .name (String.ofList label)

/-- The reference after a dollar sign, and what follows it. -/
private def readReference? (cs : List Char) : Option (Piece × List Char) :=
  match cs with
  | '\x7b' :: cs =>
    match cs.dropWhile (· != '\x7d') with
    | [] => none
    | _ :: rest => some (reference (cs.takeWhile (· != '\x7d')), rest)
  | cs =>
    let label := cs.takeWhile isReferenceChar
    if label.isEmpty then none else some (reference label, cs.dropWhile isReferenceChar)

private def readTemplate : Nat → List Char → List Piece
  | 0, cs => [.text cs]
  | _ + 1, [] => []
  | fuel + 1, '$' :: '$' :: cs => .text ['$'] :: readTemplate fuel cs
  | fuel + 1, '$' :: cs =>
    match readReference? cs with
    | some (piece, rest) => piece :: readTemplate fuel rest
    | none => .text ['$'] :: readTemplate fuel cs
  | fuel + 1, c :: cs => .text [c] :: readTemplate fuel cs

def template (text : String) : List Piece :=
  readTemplate (text.toList.length + 1) text.toList

private def fill (p : Pattern) (m : Match) : Piece → List Char
  | .text s => s
  | .number n => ((m.group? n).getD "").toList
  | .name s => ((p.namedGroup? m s).getD "").toList

/-- Replaces all matches in a text. -/
def replaceAll (p : Pattern) (replacement text : String) : String :=
  let chars := text.toList.toArray
  let ms := p.program.allMatches chars
  let pieces := template replacement
  let replaced := ms.map fun m => pieces.flatMap (p.fill m)
  String.ofList ((piecesBetween chars 0 ms).zipWithAll (fun piece? r? => piece?.getD [] ++ r?.getD []) replaced).flatten

end RecordFix.Pattern
