import CmakeDriver.World.FileTree

/-!
# Scripts

A file that may be run and is no program is a script if it begins with `#!` and the path of its
interpreter. Blanks may stand around the path; all that follows them on the line is one argument.
Only the first `headSize` bytes of a file are looked at: an argument may be cut off there, the path
of the interpreter may not.

A text without such a line can still be handed to the shell. Of its commands only those that need no
other program are carried out; all others are not found.

Out of scope: the rest of the shell's language. Variables, redirections, pipes and blanks between
quotes are not understood, but read as words.
-/

namespace CmakeDriver

namespace Script

/-! ## The interpreter line -/

/-- So many bytes of a file are looked at to find its interpreter. -/
def headSize : Nat := 256

/-- The two bytes at the front of an interpreter line. -/
def mark : Bytes := [0x23, 0x21]

/-- Whether a byte is a blank: a space or a tab. -/
def isGap (b : UInt8) : Bool := b = 0x20 || b = 0x09

/-- Bytes without the blanks at their end. -/
def withoutGapAtEnd (b : Bytes) : Bytes :=
  (b.reverse.dropWhile isGap).reverse

/-- An interpreter: its path, and the argument that it gets before the path of the script. -/
structure Interpreter where
  path : Path
  argument : Option Bytes := none
  deriving DecidableEq, Repr

/-- The interpreter that a line names. The path ends at a blank or a NUL; behind a NUL there is no
argument, and an argument ends at a NUL. -/
def ofLine? (line : Bytes) : Option Interpreter :=
  match line.dropWhile isGap with
  | [] => none
  | body =>
    let ends (b : UInt8) : Bool := isGap b || b = 0
    let path := body.takeWhile fun b => !ends b
    match body.dropWhile fun b => !ends b with
    | [] => some { path }
    | sep :: rest =>
      if sep = 0 then some { path }
      else
        match rest.dropWhile isGap with
        | [] => some { path }
        | argument => some { path, argument := some (argument.takeWhile (· ≠ 0)) }

/-- The interpreter that a file names. A line that a short file leaves unfinished is ended by a
NUL. -/
def interpreter? (content : Bytes) : Option Interpreter :=
  let head := content.take headSize
  if mark.isPrefixOf head then
    let line := head.drop mark.length
    if line.contains 0x0A then ofLine? (withoutGapAtEnd (line.takeWhile (· ≠ 0x0A)))
    else if content.length < headSize then ofLine? (line ++ [0])
    else if (line.dropWhile isGap).any (fun b => isGap b || b = 0) then
      ofLine? (withoutGapAtEnd line.dropLast)
    else none
  else none

/-! ## The shell -/

/-- What the shell has done so far. -/
structure Shell where
  /-- The exit code of the last command. -/
  status : UInt8 := 0
  stdout : String := ""
  stderr : String := ""

/-- The words of a line, up to a comment. Quotes only hold a word together, so they are left out of
words without blanks. -/
def words (line : List Char) : List String :=
  let step (c : Char) (state : List Char × List (List Char)) : List Char × List (List Char) :=
    if c = ' ' ∨ c = '\t' then ([], state.1 :: state.2) else (c :: state.1, state.2)
  let (first, rest) := line.foldr step ([], [])
  let found := ((first :: rest).filter (· ≠ [])).takeWhile fun w => w.head? ≠ some '#'
  found.map fun w => String.ofList (w.filter fun c => c ≠ '\x27' ∧ c ≠ '\x22')

/-- The lines of a text. -/
def lines : List Char → List (List Char)
  | [] => [[]]
  | c :: rest =>
    if c = '\n' then [] :: lines rest
    else
      match lines rest with
      | [] => [[c]]
      | line :: others => (c :: line) :: others

/-- Carries out lines of the script `name`, the first of which has the number `n`. -/
def obey (name : String) : (n : Nat) → Shell → List (List Char) → Shell
  | _, s, [] => s
  | n, s, line :: rest =>
    match words line with
    | [] => obey name (n + 1) s rest
    | "exit" :: [] => s
    | "exit" :: code :: _ => { s with status := UInt8.ofNat ((code.toNat?).getD 2) }
    | ":" :: _ | "true" :: _ => obey name (n + 1) { s with status := 0 } rest
    | "false" :: _ => obey name (n + 1) { s with status := 1 } rest
    | "echo" :: said =>
      obey name (n + 1)
        { s with status := 0, stdout := s.stdout ++ " ".intercalate said ++ "\n" } rest
    | command :: _ =>
      let complaint := name ++ ": " ++ toString n ++ ": " ++ command ++ ": not found\n"
      obey name (n + 1) { s with status := 127, stderr := s.stderr ++ complaint } rest

/-- What the shell does with the text of the file at a path. -/
def runShell (p : Path) (content : Bytes) : Program :=
  let s := obey (Bytes.decodeLossy p) 1 {} (lines (Bytes.decodeLossy content).toList)
  { ending := .exited s.status, stdout := s.stdout, stderr := s.stderr }

end Script

end CmakeDriver
