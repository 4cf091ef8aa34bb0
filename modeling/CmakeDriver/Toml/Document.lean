import CmakeDriver.Toml.Key
import CmakeDriver.Toml.Node
import CmakeDriver.Toml.Number

/-!
# Documents

A document is lines of three kinds: headers, which open a table, keys with a value, which bind in
the table opened last, and empty lines; each may end in a comment. `parse?` reads a document into
the entries of its root table, and answers nothing for a text that is no document.

Out of scope: why a text is no document, and where in it. All such texts are alike, those that are
nested too deep among them.
-/

namespace CmakeDriver

namespace Toml

/-- Values are nested at most so deep. -/
def maxNesting : Nat := 79

/-- The entries of an inline table, from its paths and values in order. -/
def inlineEntries? (pairs : List ((List String × String) × Value)) : Option Entries := do
  let items ← pairs.foldlM (fun (items : Items) p => items.insert p.1.1 p.1.2 p.2) []
  pure (Items.entries items)

namespace Reader

/-- Takes the elements of an array behind its bracket, the last one first in `sofar`. -/
def arrayTurn (element : Reader Value) (sofar : List Value) :
    Reader (Turn (List Value) Value) := do
  blanksLinesComments
  match ← optional (char ']') with
  | some _ => pure (.done (.array sofar.reverse))
  | none => do
    let v ← element
    blanksLinesComments
    match ← optional (char ',') with
    | some _ => pure (.again (v :: sofar))
    | none => do
      char ']'
      pure (.done (.array (v :: sofar).reverse))

/-- Takes a key with its value. -/
def pair (value : Reader Value) : Reader ((List String × String) × Value) := do
  let p ← path
  char '='
  blanks
  let v ← value
  pure (p, v)

/-- Takes a pair of an inline table and what follows it, the last pair first in `sofar`. -/
def inlineTurn (value : Reader Value) (sofar : List ((List String × String) × Value)) :
    Reader (Turn (List ((List String × String) × Value)) Value) := do
  let p ← pair value
  blanks
  match ← optional (char ',') with
  | some _ => pure (.again (p :: sofar))
  | none => do
    char '\x7d'
    let entries ← ofOption (inlineEntries? (p :: sofar).reverse)
    pure (.done (.table entries))

/-- Takes the rest of an inline table behind its brace. -/
def inlineTable (value : Reader Value) : Reader Value := do
  blanks
  match ← optional (char '\x7d') with
  | some _ => pure (.table [])
  | none => loop (inlineTurn value) []

/-- Takes a value that is neither an array nor an inline table. -/
def scalar : Reader Value := do
  match ← peek with
  | none => fail
  | some c =>
    if c = doubleQuote then do
      let s ← basicString
      pure (.text s)
    else if c = singleQuote then do
      let s ← literalString
      pure (.text s)
    else if c = 't' then do
      literal ['t', 'r', 'u', 'e']
      pure (.boolean true)
    else if c = 'f' then do
      literal ['f', 'a', 'l', 's', 'e']
      pure (.boolean false)
    else if c = 'i' ∨ c = 'n' then specialFloat false
    else if c = '+' ∨ c = '-' ∨ c.isDigit then numberOrDate
    else fail

/-- Takes a value that holds at most so many arrays and inline tables within one another. -/
def value : (nesting : Nat) → Reader Value
  | 0 => scalar
  | nesting + 1 => do
    let c ← peek
    if c = some '[' then do
      char '['
      loop (arrayTurn (value nesting)) []
    else if c = some '\x7b' then do
      char '\x7b'
      inlineTable (value nesting)
    else scalar

end Reader

/-- A document that is being read: its root table and the header opened last. -/
structure Draft where
  root : Items := []
  current : List String := []

namespace Draft

/-- Opens the table of a header. -/
def openTable (d : Draft) (p : List String × String) : Option Draft :=
  (d.root.openTable p.1 p.2).map fun root => { root, current := p.1 ++ [p.2] }

/-- Opens a new element of an array of tables. -/
def openElement (d : Draft) (p : List String × String) : Option Draft :=
  (d.root.openElement p.1 p.2).map fun root => { root, current := p.1 ++ [p.2] }

/-- Binds a key in the table opened last. -/
def bind (d : Draft) (p : List String × String) (v : Value) : Option Draft :=
  (d.root.update false (fun _ items => items.insert p.1 p.2 v) d.current .header).map
    fun root => { d with root }

end Draft

namespace Reader

/-- Takes a header and the rest of its line. -/
def header (d : Draft) : Reader Draft := do
  if ← sees ['[', '['] then do
    literal ['[', '[']
    let p ← path
    literal [']', ']']
    lineRest
    ofOption (d.openElement p)
  else do
    char '['
    let p ← path
    char ']'
    lineRest
    ofOption (d.openTable p)

/-- Takes a key with its value and the rest of the line. -/
def binding (d : Draft) : Reader Draft := do
  let (p, v) ← pair (value maxNesting)
  lineRest
  ofOption (d.bind p v)

/-- Takes one line of a document. -/
def documentTurn (d : Draft) : Reader (Turn Draft Draft) := do
  blanks
  match ← peek with
  | none => pure (.done d)
  | some c =>
    if c = '#' then do
      comment
      lineEndOrEnd
      pure (.again d)
    else if c = '\n' ∨ c = '\r' then do
      lineEnd
      pure (.again d)
    else if c = '[' then do
      let d ← header d
      pure (.again d)
    else do
      let d ← binding d
      pure (.again d)

/-- Takes the lines of a document. -/
def readDocument (d : Draft) : Reader Draft :=
  loop documentTurn d

end Reader

/-- The mark that may stand in front of a document. -/
def byteOrderMark : Char := '\uFEFF'

/-- A text without the mark in front of it. -/
def withoutMark : List Char → List Char
  | [] => []
  | c :: rest => if c = byteOrderMark then rest else c :: rest

/-- The entries of the document that a text is. -/
def parse? (text : String) : Option Entries :=
  (Reader.readDocument {} (withoutMark text.toList)).map fun p => Items.entries p.1.root

end Toml

end CmakeDriver
