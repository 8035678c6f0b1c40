/-
  RowQuery — the tokens of a statement, as a database reads it.

  White space and comments separate tokens and are kept as the gap before the next one,
  so that the text of an expression can be given back. A word is a name or a keyword; a
  quote inside quotes of its kind is written twice; a mark without a number has the
  number after that of the mark before it.
-/
import RowQuery.Database.Numeral
import RowQuery.Database.Refusal
import RowQuery.Sql.Code
import RowQuery.Text.Case

namespace RowQuery

namespace Database

/-- What a token is. -/
inductive TokenKind where
  | word
  /-- A name in quotes; one in double quotes may stand for a text. -/
  | name (s : String) (maybeText : Bool)
  | text (s : String)
  | blob (bytes : List UInt8)
  | number (l : Literal)
  | mark (n : Nat)
  | symbol
  | illegal
deriving DecidableEq, Repr

/-- A token of a statement. -/
structure Token where
  /-- What stands between the token before it and this one. -/
  gap : List Char
  /-- The token as it is spelled. -/
  spelling : String
  kind : TokenKind
deriving DecidableEq, Repr

namespace Token

/-- Whether a token is a given keyword. -/
def isWord (t : Token) (keyword : String) : Bool :=
  t.kind = .word && asciiLower t.spelling = keyword

/-- Whether a token is a given symbol. -/
def isSymbol (t : Token) (s : String) : Bool := t.kind = .symbol && t.spelling = s

/-! ## Stretches of characters -/

/-- Whether a word can begin with a character. -/
def beginsWord (c : Char) : Bool := c.isAlpha || c = '_' || 0x80 ≤ c.toNat

/-- Whether a word can go on with a character. -/
def continuesWord (c : Char) : Bool := beginsWord c || c.isDigit || c = '$'

/-- What stands before the closing quote, and the text after it. -/
def quoted? (q : Char) : List Char → Option (List Char × List Char)
  | [] => none
  | [c] => if c = q then some ([], []) else none
  | c :: d :: cs =>
    if c = q then
      if d = q then (quoted? q cs).map fun (inside, after) => (q :: inside, after)
      else some ([], d :: cs)
    else (quoted? q (d :: cs)).map fun (inside, after) => (c :: inside, after)

/-- The bytes of pairs of hexadecimal digits. -/
def bytes? : List Char → Option (List UInt8)
  | [] => some []
  | [_] => none
  | a :: b :: cs => do
    let high ← hexValue? a
    let low ← hexValue? b
    return (high * 16 + low).toUInt8 :: (← bytes? cs)

/-- The bytes after an opening quote, and the text after the closing one. -/
def blob (cs : List Char) : TokenKind × List Char :=
  let digits := cs.takeWhile (· ≠ '\x27')
  match cs.dropWhile (· ≠ '\x27'), bytes? digits with
  | _ :: after, some bytes => (.blob bytes, after)
  | rest, _ => (.illegal, rest.drop 1)

/-- A number, which no word may follow without a blank. -/
def number (cs : List Char) : TokenKind × List Char :=
  match Numeral.unsigned? false cs with
  | some (l, c :: after) =>
    if continuesWord c then (.illegal, after.dropWhile continuesWord)
    else (.number l, c :: after)
  | some (l, []) => (.number l, [])
  | none => (.illegal, cs.drop 1)

/-- A mark, after the one of number `marks`. -/
def mark (marks : Nat) (cs : List Char) : TokenKind × List Char :=
  match digits? cs with
  | some (ds, after) => (.mark (digitsValue 0 ds), after)
  | none => (.mark (marks + 1), cs)

/-- The symbols of two characters. -/
def pairs : List (Char × Char) :=
  [('<', '='), ('<', '>'), ('<', '<'), ('>', '='), ('>', '>'), ('=', '='), ('!', '='), ('|', '|')]

/-- The symbols of one character. -/
def singles : List Char :=
  ['<', '>', '=', '|', '&', '~', '(', ')', ',', ';', '+', '-', '*', '/', '%', '.']

/-- A symbol, or a character that begins no token. -/
def symbol (c : Char) (cs : List Char) : TokenKind × List Char :=
  if cs.head?.any fun d => pairs.contains (c, d) then (.symbol, cs.drop 1)
  else if singles.contains c then (.symbol, cs)
  else (.illegal, cs)

/-- What begins with a character, `none` for a gap, and the text after it. -/
def start (marks : Nat) (c : Char) (cs : List Char) : Option TokenKind × List Char :=
  if Numeral.isBlank c || c = '\ufeff' then (none, cs)
  else if c = '-' && cs.head? = some '-' then (none, Sql.fromLineFeed cs)
  else if c = '/' && cs.head? = some '*' && 1 < cs.length then (none, Sql.afterBlock (cs.drop 1))
  else if Sql.isQuote c then
    match quoted? c cs with
    | some (inside, after) =>
      let s := String.ofList inside
      (some (if c = '\x27' then .text s else .name s (c = '\x22')), after)
    | none => (some .illegal, [])
  else if c = '[' then
    match cs.dropWhile (· ≠ ']') with
    | _ :: after => (some (.name (String.ofList (cs.takeWhile (· ≠ ']'))) false), after)
    | [] => (some .illegal, [])
  else if (c = 'x' || c = 'X') && cs.head? = some '\x27' then
    (blob (cs.drop 1)).map some id
  else if c.isDigit || (c = '.' && cs.head?.any Char.isDigit) then (number (c :: cs)).map some id
  else if c = '?' then (mark marks cs).map some id
  else if beginsWord c then (some .word, cs.dropWhile continuesWord)
  else (symbol c cs).map some id

/-! ## All tokens -/

/-- The number of the last mark, after a token. -/
def lastMark (marks : Nat) : TokenKind → Nat
  | .mark n => max marks n
  | _ => marks

/-- The tokens of a text, after a gap and so many marks. -/
def scan (marks : Nat) (gap : List Char) : List Char → List Token
  | [] => []
  | c :: cs =>
    let begun := start marks c cs
    let size := cs.length - begun.2.length
    let spelling := c :: cs.take size
    match begun.1 with
    | none => scan marks (gap ++ spelling) (cs.drop size)
    | some kind =>
      ⟨gap, String.ofList spelling, kind⟩ :: scan (lastMark marks kind) [] (cs.drop size)
termination_by cs => cs.length
decreasing_by all_goals simp only [List.length_drop, List.length_cons]; omega

/-- The tokens of a statement. -/
def ofStatement (sql : String) : List Token := scan 0 [] sql.toList

/-- The text of tokens, without the gap before the first. -/
def span : List Token → String
  | [] => ""
  | t :: ts => t.spelling ++ String.ofList (ts.flatMap fun t => t.gap ++ t.spelling.toList)

/-- Why a statement cannot go on with these tokens. -/
def refusal : List Token → Refusal
  | [] => .incompleteInput
  | t :: _ => if t.kind = .illegal then .unrecognized t.spelling else .unexpected t.spelling

end Token

end Database

end RowQuery
