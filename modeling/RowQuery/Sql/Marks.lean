/-
  RowQuery — marks for lists of values.

  A mark is a `?` in the code of a statement; the `k`-th mark stands for the `k`-th
  value. Databases bind single values only, so a mark whose value is a list becomes a
  mark for each item, in parentheses; an empty list leaves empty parentheses. Marks
  without a value stay, and values without a mark stay at the end.
-/
import RowQuery.Scalar
import RowQuery.Sql.Code

namespace RowQuery

namespace Sql

/-- So many marks with commas between them. -/
def markList (n : Nat) : List Char := [',', ' '].intercalate (List.replicate n ['?'])

/-- The text of a mark for a value, and what is bound for it. -/
def expandMark : Scalar → List Char × List Scalar
  | .list items => ('(' :: markList items.length ++ [')'], items)
  | value => (['?'], [value])

/-- The text and the values of a flagged text after expansion. -/
def expandFlagged : List (Char × Bool) → List Scalar → List Char × List Scalar
  | [], values => ([], values)
  | (c, code) :: cs, values =>
    if code && c = '?' then
      match values with
      | value :: values =>
        let (text, bound) := expandFlagged cs values
        ((expandMark value).1 ++ text, (expandMark value).2 ++ bound)
      | [] =>
        let (text, bound) := expandFlagged cs []
        ('?' :: text, bound)
    else
      let (text, bound) := expandFlagged cs values
      (c :: text, bound)

/-- A statement's text and values with every list of values spread over marks of its own. -/
def expand (sql : String) (values : List Scalar) : String × List Scalar :=
  let (text, bound) := expandFlagged (flagged sql.toList) values
  (String.ofList text, bound)

end Sql

end RowQuery
