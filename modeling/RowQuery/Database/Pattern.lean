/-
  RowQuery — patterns of texts.

  In a pattern `%` stands for any text and `_` for any character; any other character
  stands for itself, a letter from A to Z in either case.
-/
import RowQuery.Text.Ending

namespace RowQuery

namespace Database

/-- Whether a text matches a pattern. -/
def matchesPattern : List Char → List Char → Bool
  | [], cs => cs.isEmpty
  | '%' :: ps, cs => anyEnding (matchesPattern ps) cs
  | _ :: _, [] => false
  | p :: ps, c :: cs => (p = '_' || p.toLower = c.toLower) && matchesPattern ps cs

end Database

end RowQuery
