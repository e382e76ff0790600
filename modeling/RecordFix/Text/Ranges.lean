/-!
# Sets of characters

A set of characters is kept as an ascending list of ranges of code points that neither overlap nor touch. A table is
written as text, each range as `lo-hi` or a single code, in hexadecimal. Union, intersection and difference merge the
lists.
-/

namespace RecordFix.Text

/-- The value of a hexadecimal digit. -/
def hexDigit? (c : Char) : Option Nat :=
  if '0' ≤ c && c ≤ '9' then some (c.toNat - '0'.toNat)
  else if 'a' ≤ c && c ≤ 'f' then some (c.toNat - 'a'.toNat + 10)
  else if 'A' ≤ c && c ≤ 'F' then some (c.toNat - 'A'.toNat + 10)
  else none

/-- The value of the hexadecimal digits of a text. -/
def hexValue (s : String) : Nat :=
  s.toList.foldl (fun n c => 16 * n + (hexDigit? c).getD 0) 0

/-- The pieces of a text between spaces and line feeds. -/
def words (s : String) : List String :=
  ((s.splitOn "\n").flatMap (·.splitOn " ")).filter (!·.isEmpty)

/-- The greatest code point. -/
def lastCode : Nat := 0x10FFFF

/-- Ranges of code points, ascending. -/
structure Ranges where
  bounds : List (Nat × Nat)
  deriving DecidableEq, Inhabited

namespace Ranges

private def parseRange (entry : String) : Nat × Nat :=
  match entry.splitOn "-" with
  | [lo, hi] => (hexValue lo, hexValue hi)
  | _ => (hexValue entry, hexValue entry)

/-- Reads a table. -/
def parse (text : String) : Ranges :=
  ⟨(words text).map parseRange⟩

/-- Searches an ascending list of ranges. -/
def search (n : Nat) : List (Nat × Nat) → Bool
  | [] => false
  | (lo, hi) :: rest => if n < lo then false else n ≤ hi || search n rest

def containsCode (r : Ranges) (n : Nat) : Bool := search n r.bounds

def contains (r : Ranges) (c : Char) : Bool := r.containsCode c.toNat

/-! ### Making sets -/

def empty : Ranges := ⟨[]⟩

def all : Ranges := ⟨[(0, lastCode)]⟩

/-- The code points between two characters, both among them. -/
def between (lo hi : Char) : Ranges := ⟨[(lo.toNat, hi.toNat)]⟩

def single (c : Char) : Ranges := between c c

/-- Joins ranges that overlap or touch, where the lower ends ascend. -/
def coalesce : List (Nat × Nat) → List (Nat × Nat)
  | [] => []
  | [r] => [r]
  | (a, b) :: (c, d) :: rest =>
    if c ≤ b + 1 then coalesce ((a, max b d) :: rest) else (a, b) :: coalesce ((c, d) :: rest)
termination_by rs => rs.length

/-- The set of some code points. -/
def ofCodes (codes : List Nat) : Ranges :=
  ⟨coalesce ((codes.mergeSort fun m n => m ≤ n).map fun n => (n, n))⟩

/-! ### Combining sets -/

def union (r s : Ranges) : Ranges :=
  ⟨coalesce (r.bounds.merge s.bounds fun x y => x.1 ≤ y.1)⟩

/-- The gaps between ascending ranges, from `lo` on. -/
def gaps (lo : Nat) : List (Nat × Nat) → List (Nat × Nat)
  | [] => if lo ≤ lastCode then [(lo, lastCode)] else []
  | (a, b) :: rest => if lo < a then (lo, a - 1) :: gaps (b + 1) rest else gaps (b + 1) rest

def compl (r : Ranges) : Ranges := ⟨gaps 0 r.bounds⟩

def inter (r s : Ranges) : Ranges := (r.compl.union s.compl).compl

def diff (r s : Ranges) : Ranges := (r.compl.union s).compl

instance : Union Ranges := ⟨union⟩

instance : Inter Ranges := ⟨inter⟩

instance : SDiff Ranges := ⟨diff⟩

def symmDiff (r s : Ranges) : Ranges := (r \ s) ∪ (s \ r)

def unionAll (rs : List Ranges) : Ranges := rs.foldr union empty

end Ranges

end RecordFix.Text
