import Backlog.Text
/-!
Tables of code points written as texts: numbers in base 16 with a blank between two, rows of numbers
with a semicolon between two.
-/
namespace Backlog.Http.Domain
set_option autoImplicit false

/-- The characters of a row. What is no number is left out. -/
def row (t : Text) : Text :=
  (t.splitOn ' ').filterMap fun digits => (Text.numeral? 16 digits).map Char.ofNat

/-- The rows of a table, each as its first character and the characters after it. -/
def rows (lines : List String) : List (Char × Text) :=
  (lines.flatMap fun line => line.toList.splitOn ';').filterMap fun t =>
    match row t with
    | c :: image => some (c, image)
    | [] => none

end Backlog.Http.Domain
