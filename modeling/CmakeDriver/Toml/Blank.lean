import CmakeDriver.Toml.Reader

/-!
# Blanks, line ends and comments

A blank is a space or a tab. A line ends with a line feed, alone or behind a carriage return; a
carriage return alone ends nothing. A comment runs from `#` to the end of its line and holds no
control character but the tab.

Results:
* `blanks_of_not_blank`: where no blank comes next, nothing is taken.
* `lineRest_lineFeed`: a line feed ends the rest of a line.
-/

namespace CmakeDriver

namespace Toml

/-- Whether a character separates without ending a line. -/
def isBlank (c : Char) : Bool :=
  c = ' ' || c = '\t'

/-- Whether a character may stand in a comment: any but the control characters, tab excepted. -/
def isCommentChar (c : Char) : Bool :=
  c = '\t' || (0x20 ≤ c.toNat && c.toNat ≠ 0x7F)

namespace Reader

/-- Skips blanks. -/
def blanks : Reader Unit := fun s => some ((), s.dropWhile isBlank)

/-- Takes a line end. -/
def lineEnd : Reader Unit
  | '\n' :: rest => some ((), rest)
  | '\r' :: '\n' :: rest => some ((), rest)
  | _ => none

/-- Takes a line end or is at the end of the text. -/
def lineEndOrEnd : Reader Unit
  | [] => some ((), [])
  | s => lineEnd s

/-- Takes a comment up to the end of its line. -/
def comment : Reader Unit := do
  char '#'
  let _ ← takeWhile isCommentChar

/-- Takes the rest of a line on which nothing but a comment may follow. -/
def lineRest : Reader Unit := do
  blanks
  let _ ← optional comment
  lineEndOrEnd

/-- Skips blanks and line ends. -/
def blanksAndLines : Reader Unit :=
  loop (fun _ => do
    match ← peek with
    | some c =>
      if isBlank c then
        blanks
        pure (.again ())
      else
        match ← optional lineEnd with
        | some _ => pure (.again ())
        | none => pure (.done ())
    | none => pure (.done ())) ()

/-- Skips blanks, line ends and comments that end in a line end. -/
def blanksLinesComments : Reader Unit :=
  loop (fun _ => do
    match ← peek with
    | some c =>
      if isBlank c then
        blanks
        pure (.again ())
      else if c = '#' then
        comment
        lineEnd
        pure (.again ())
      else
        match ← optional lineEnd with
        | some _ => pure (.again ())
        | none => pure (.done ())
    | none => pure (.done ())) ()

theorem blanks_of_not_blank {s : List Char} (h : ∀ c, s.head? = some c → isBlank c = false) :
    blanks s = some ((), s) := by
  cases s with
  | nil => rfl
  | cons c rest => simp [blanks, h c rfl]

theorem blanks_cons {c : Char} (h : isBlank c = false) (t : List Char) :
    blanks (c :: t) = some ((), c :: t) := by
  refine blanks_of_not_blank fun d hd => ?_
  rwa [← Option.some.inj hd]

theorem lineRest_lineFeed (rest : List Char) : lineRest ('\n' :: rest) = some ((), rest) := by
  have h : blanks ('\n' :: rest) = some ((), '\n' :: rest) :=
    blanks_of_not_blank fun c hc => by
      obtain rfl := Option.some.inj hc
      decide
  have hc : optional comment ('\n' :: rest) = some (none, '\n' :: rest) := by
    have : comment ('\n' :: rest) = none := bind_of_eq_none (by simp [char]) _
    simp [optional, this]
  rw [lineRest, bind_of_eq_some h, bind_of_eq_some hc]
  rfl

end Reader

end Toml

end CmakeDriver
