/-!
# Locations of files

A location is a path of components between slashes. Empty components and single dots do not count, except a dot at
the beginning of a relative path.
-/

namespace RecordFix.Location

private def splitSlashes : List Char → List (List Char)
  | [] => [[]]
  | c :: cs =>
    match splitSlashes cs with
    | [] => [[]]
    | piece :: rest => if c == '/' then [] :: piece :: rest else (c :: piece) :: rest

/-- The pieces of a location between its slashes. -/
def pieces (path : String) : List String := (splitSlashes path.toList).map String.ofList

def isAbsolute (path : String) : Bool := path.toList.head? == some '/'

/-- The pieces that count, each with its position. -/
private def countedPieces (path : String) : List (Nat × String) :=
  ((pieces path).zipIdx.map fun (s, i) => (i, s)).filter fun (i, s) =>
    !s.isEmpty && (s != "." || (i == 0 && !isAbsolute path))

/-- The components of a location; two locations with the same components are the same. -/
def components (path : String) : List String :=
  (if isAbsolute path then ["/"] else []) ++ (countedPieces path).map (·.2)

/-- The location without its last component, as it is written. -/
def parent? (path : String) : Option String :=
  match (countedPieces path).reverse with
  | [] => none
  | [_] => some (if isAbsolute path then "/" else "")
  | _ :: (i, _) :: _ => some ("/".intercalate ((pieces path).take (i + 1)))

/-- A location inside a directory; an absolute one stands for itself. -/
def join (directory path : String) : String :=
  if isAbsolute path || directory.isEmpty then path
  else if directory.toList.getLast? == some '/' then directory ++ path
  else directory ++ "/" ++ path

/-- The part of the last component after its last dot, unless that is its first character. -/
def extension? (path : String) : Option String :=
  match (components path).getLast? with
  | none => none
  | some name =>
    if name == ".." || name == "/" || name == "." then none
    else
      let cs := name.toList.reverse
      match cs.dropWhile (· != '.') with
      | '.' :: _ :: _ => some (String.ofList (cs.takeWhile (· != '.')).reverse)
      | _ => none

end RecordFix.Location
