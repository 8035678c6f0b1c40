/-
  RowQuery — the endings of a text.

  * `anyEnding p cs`: some ending of `cs`, from the whole of it to the empty one, is
    accepted by `p`;
  * `occursIn part s`: `part` occurs in `s`.
-/

namespace RowQuery

/-- Whether some ending of a text is accepted. -/
def anyEnding (p : List Char → Bool) : List Char → Bool
  | [] => p []
  | c :: cs => p (c :: cs) || anyEnding p cs

/-- Whether a text occurs in another. -/
def occursIn (part s : String) : Bool := anyEnding part.toList.isPrefixOf s.toList

end RowQuery
