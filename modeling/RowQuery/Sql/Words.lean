/-
  RowQuery — the words of a statement, and what they tell about its answer.

  Words are the longest stretches of letters, digits and underscores in the code of a
  statement, in ASCII lower case; opaque text separates words like a blank.

  * `returnsRows`: the first word is a reading one, or a later one is `returning`;
  * `isInsert`: the first word is `insert`.
-/
import RowQuery.Sql.Code
import RowQuery.Text.Alphanumeric

namespace RowQuery

namespace Sql

/-- Whether a character can be part of a word. -/
def isWordChar (c : Char) : Bool := isAlphanumeric c || c = '_'

/-- A word that has ended, if it has characters. -/
def finished (word : List Char) : List (List Char) := if word.isEmpty then [] else [word]

/-- The words of a text, where `word` is the part before it of a word that has not ended. -/
def splitWords (word : List Char) : List Char → List (List Char)
  | [] => finished word
  | c :: cs =>
    if isWordChar c then splitWords (word ++ [c]) cs else finished word ++ splitWords [] cs

/-- The code of a statement in lower case, with a blank for each opaque character. -/
def codeText (cs : List Char) : List Char :=
  (flagged cs).map fun c => if c.2 then c.1.toLower else ' '

/-- The words of a statement. -/
def words (sql : String) : List String :=
  (splitWords [] (codeText sql.toList)).map String.ofList

/-- The first words of statements that read. -/
def readingWords : List String := ["select", "with", "pragma", "values"]

/-- Whether a statement answers with rows. -/
def returnsRows (sql : String) : Bool :=
  match words sql with
  | [] => false
  | first :: later => readingWords.contains first || later.contains "returning"

/-- Whether a statement inserts. -/
def isInsert (sql : String) : Bool := (words sql).head? = some "insert"

end Sql

end RowQuery
