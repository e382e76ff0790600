/-!
# Rows of separated values

A text is cut into rows of fields. A field that begins with a quote goes on to the next single quote, whatever is in
it, and a doubled quote stands for one; after the closing quote, and in a field that does not begin with one,
characters stand for themselves. Lines end with a line feed, a carriage return or both, and empty lines do not count.
-/

namespace RecordFix.Csv

/-- Where the reader stands: before a row, before a field, in a plain or a quoted field, or after a quote in the
latter. -/
inductive Place where
  | row
  | field
  | plain
  | quoted
  | closed
  deriving DecidableEq, Repr

/-- What becomes of a character: it is dropped, kept in the field, or ends the field or the row. -/
inductive Act where
  | drop
  | keep
  | endField
  | endRow
  deriving DecidableEq, Repr

private def isLineEnd (c : Char) : Bool := c == '\n' || c == '\r'

/-- A character outside quotes. -/
private def plainStep (separator c : Char) : Place × Act :=
  if c == separator then (.field, .endField) else if isLineEnd c then (.row, .endRow) else (.plain, .keep)

/-- Where a character leads, and what becomes of it. -/
def step (separator : Char) (place : Place) (c : Char) : Place × Act :=
  match place with
  | .row => if isLineEnd c then (.row, .drop) else if c == '"' then (.quoted, .drop) else plainStep separator c
  | .field => if c == '"' then (.quoted, .drop) else plainStep separator c
  | .plain => plainStep separator c
  | .quoted => if c == '"' then (.closed, .drop) else (.quoted, .keep)
  | .closed => if c == '"' then (.quoted, .keep) else plainStep separator c

/-- Reads on from a place; `field` holds the characters of the field at hand, `row` the fields before it, both latest
first. -/
def readFrom (separator : Char) (place : Place) (field : List Char) (row : List String) :
    List Char → List (List String)
  | [] =>
    match place with
    | .row => []
    | _ => [(String.ofList field.reverse :: row).reverse]
  | c :: cs =>
    match step separator place c with
    | (place, .drop) => readFrom separator place field row cs
    | (place, .keep) => readFrom separator place (c :: field) row cs
    | (place, .endField) => readFrom separator place [] (String.ofList field.reverse :: row) cs
    | (place, .endRow) => (String.ofList field.reverse :: row).reverse :: readFrom separator place [] [] cs

/-- The rows of a text; a byte order mark in front does not count. -/
def rows (separator : Char) (text : String) : List (List String) :=
  match text.toList with
  | '\ufeff' :: cs => readFrom separator .row [] [] cs
  | cs => readFrom separator .row [] [] cs

end RecordFix.Csv
