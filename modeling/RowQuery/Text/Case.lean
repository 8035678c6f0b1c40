/-
  RowQuery — ASCII case.

  Names of operators, keywords, columns and types are compared without regard to the
  case of the letters A to Z; all other characters stay as they are.
-/

namespace RowQuery

/-- A text with the letters A to Z in lower case. -/
def asciiLower (s : String) : String := String.ofList (s.toList.map Char.toLower)

theorem toList_asciiLower (s : String) : (asciiLower s).toList = s.toList.map Char.toLower :=
  String.toList_ofList

/-- A text with the letters a to z in upper case. -/
def asciiUpper (s : String) : String := String.ofList (s.toList.map Char.toUpper)

end RowQuery
