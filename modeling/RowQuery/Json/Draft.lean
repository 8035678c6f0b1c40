/-
  RowQuery — drafts: what can be read of a JSON text up to its first defect.

  A draft keeps everything before the defect in place: the containers that were open
  there are marked as not closed, and a value that was due there is `broken`. So a
  reader that walks a draft from left to right meets a value of the wrong kind before
  or after a defect of the text, as they come in the text.

  * `Draft.ofLexemes` builds a draft lexeme by lexeme, with the open containers on a
    stack; `Draft.ofText` adds whether the text ended after its value;
  * `Draft.tree?` is the tree of a draft without defects, at most `depth` containers
    deep, a repeated key keeping its first place and taking its last value;
  * `Draft.scannable` asks less: only that the text of a value is well formed;
  * `Json.ofText?` reads a whole text as a tree, at most `maxDepth` containers deep.
-/
import RowQuery.Json.Basic
import RowQuery.Json.Lexeme
import RowQuery.OrderedMap

namespace RowQuery

/-- What can be read of a value up to the first defect of its text. -/
inductive Draft where
  | null
  | bool (b : Bool)
  | num (l : Literal)
  | str (text : Option String)
  | arr (items : List Draft) (closed : Bool)
  | obj (members : List (Option String × Draft)) (closed : Bool)
  | broken

namespace Draft

/-! ## Building -/

/-- A container that is open, with what it holds so far, last first; an object also
    with the key whose value is due. -/
inductive Frame where
  | arr (done : List Draft)
  | obj (done : List (Option String × Draft)) (key : Option String)

/-- The container of a frame, given the value that was due, the last one in it. -/
def Frame.close (closed : Bool) (d : Draft) : Frame → Draft
  | .arr done => .arr (d :: done).reverse closed
  | .obj done key => .obj ((key, d) :: done).reverse closed

/-- The draft of a text that ends in a defect, where `d` was read in the innermost of
    the open containers. -/
def abandon (d : Draft) (open_ : List Frame) : Draft := open_.foldl (fun d f => f.close false d) d

/-- What may come next. -/
inductive Due where
  /-- A value. -/
  | value
  /-- The first item of an array, or its end. -/
  | firstItem
  /-- A key of an object with these members; its end too if `orEnd`. -/
  | key (done : List (Option String × Draft)) (orEnd : Bool)
  /-- The colon after a key. -/
  | colon (done : List (Option String × Draft)) (key : Option String)
  /-- A comma after this value, or the end of its container, or of the text. -/
  | after (d : Draft)

/-- The draft when the text has a defect where `due` was expected. -/
def Due.abandon (open_ : List Frame) : Due → Draft
  | value => Draft.abandon broken open_
  | firstItem => Draft.abandon (arr [broken] false) open_
  | key done _ => Draft.abandon (obj done.reverse false) open_
  | colon done k => Draft.abandon (obj ((k, broken) :: done).reverse false) open_
  | after d => Draft.abandon d open_

/-- A value that is one lexeme. -/
def ofLexeme? : Lexeme → Option Draft
  | .null => some null
  | .bool b => some (bool b)
  | .num l => some (num l)
  | .str s => some (str s)
  | _ => none

/-- What is due after a lexeme that begins a value, and the containers open then. -/
def begin? (open_ : List Frame) (l : Lexeme) : Option (Due × List Frame) :=
  match l with
  | .openArr => some (.firstItem, open_)
  | .openObj => some (.key [] true, open_)
  | l => (ofLexeme? l).map fun d => (.after d, open_)

/-- What is due after a lexeme, and the containers open then; `none` at a defect. -/
def step? (open_ : List Frame) (due : Due) (l : Lexeme) : Option (Due × List Frame) :=
  match due, l with
  | .value, l => begin? open_ l
  | .firstItem, .closeArr => some (.after (arr [] true), open_)
  | .firstItem, l => begin? (.arr [] :: open_) l
  | .key done true, .closeObj => some (.after (obj done.reverse true), open_)
  | .key done _, .str k => some (.colon done k, open_)
  | .key .., _ => none
  | .colon done k, .colon => some (.value, .obj done k :: open_)
  | .colon .., _ => none
  | .after d, l =>
    match open_, l with
    | .arr done :: outer, .comma => some (.value, .arr (d :: done) :: outer)
    | .arr done :: outer, .closeArr => some (.after ((Frame.arr done).close true d), outer)
    | .obj done k :: outer, .comma => some (.key ((k, d) :: done) false, outer)
    | .obj done k :: outer, .closeObj => some (.after ((Frame.obj done k).close true d), outer)
    | _, _ => none

/-- The draft of lexemes, and whether they ended right after its value. -/
def build (open_ : List Frame) (due : Due) : List Lexeme → Draft × Bool
  | [] =>
    match due, open_ with
    | .after d, [] => (d, true)
    | due, open_ => (due.abandon open_, false)
  | l :: ls =>
    match step? open_ due l with
    | some (due, open_) => build open_ due ls
    | none => (due.abandon open_, false)

/-- The draft of lexemes, and whether they ended right after its value. -/
def ofLexemes (ls : List Lexeme) : Draft × Bool := build [] .value ls

/-- The draft of a text, and whether the text ended right after its value. -/
def ofText (s : String) : Draft × Bool := ofLexemes (Lexeme.scan s.toList)

/-! ## Reading -/

mutual

/-- The tree of a draft without defects, at most `depth` containers deep. -/
def tree? (depth : Nat) : Draft → Option Json
  | null => some .null
  | bool b => some (.bool b)
  | num l => (Number.ofLiteral? l).map .num
  | str s => s.map .str
  | arr items closed =>
    match depth with
    | 0 => none
    | depth + 1 => if closed then (itemTrees? depth items).map .arr else none
  | obj members closed =>
    match depth with
    | 0 => none
    | depth + 1 =>
      if closed then (memberTrees? depth members).map fun ms => .obj (mergeEntries ms) else none
  | broken => none

/-- The trees of items. -/
def itemTrees? (depth : Nat) : List Draft → Option (List Json)
  | [] => some []
  | d :: ds => do return (← tree? depth d) :: (← itemTrees? depth ds)

/-- The keys and trees of members, repeated keys included. -/
def memberTrees? (depth : Nat) : List (Option String × Draft) → Option (List (String × Json))
  | [] => some []
  | (k, d) :: ms => do return ((← k), (← tree? depth d)) :: (← memberTrees? depth ms)

end

mutual

/-- Whether a draft has no defects that show without using its numbers and strings. -/
def scannable : Draft → Bool
  | arr items closed => closed && scannableItems items
  | obj members closed => closed && scannableMembers members
  | broken => false
  | _ => true

/-- Whether all of these drafts can be scanned. -/
def scannableItems : List Draft → Bool
  | [] => true
  | d :: ds => d.scannable && scannableItems ds

/-- Whether the values of all of these members can be scanned. -/
def scannableMembers : List (Option String × Draft) → Bool
  | [] => true
  | (_, d) :: ms => d.scannable && scannableMembers ms

end

end Draft

namespace Json

/-- How many containers may be inside one another. -/
def maxDepth : Nat := 127

/-- The tree of a text at most `depth` containers deep. -/
def ofTextWithin? (depth : Nat) (s : String) : Option Json :=
  match Draft.ofText s with
  | (d, true) => d.tree? depth
  | (_, false) => none

/-- The tree of a text. -/
def ofText? (s : String) : Option Json := ofTextWithin? maxDepth s

end Json

end RowQuery
