import CmakeDriver.World.Fault
import CmakeDriver.World.Path

/-!
# The file tree

A tree is a list of what stands at which location: directories, symbolic links, plain files and
programs. `FileTree.locate` follows a path step by step. Links are followed, at most `maxLinks` of
them in one lookup. A step through something that is no directory fails, even the steps `.` and
`..` and the empty step behind a trailing slash. `FileTree.settle` tells where an entry is put: it
follows links too, but goes on where nothing is yet.

Out of scope: owners and groups, a directory that may not be searched, devices, pipes and sockets,
and a file system that fails. A file may be read by everyone, and may be run by everyone or no one.

Results:
* `locate_nil`, `locate_of_long`: the empty path and an over-long one name nothing.
* `holds_iff`: a path exists exactly when it has no NUL and its lookup succeeds.
* `read_eq_error_of_nul`: a path with a NUL is refused before the lookup.
-/

namespace CmakeDriver

/-- How a program ends. -/
inductive Ending where
  | exited (code : UInt8)
  | killed (signal : Nat)
  deriving DecidableEq, Repr, Inhabited

/-- What a program does when it runs: it writes these texts and ends. -/
structure Program where
  ending : Ending := .exited 0
  stdout : String := ""
  stderr : String := ""
  deriving DecidableEq, Repr, Inhabited

/-- What can stand at a location. -/
inductive Entry where
  | directory
  | link (target : Path)
  | file (content : Bytes) (executable : Bool)
  | program (program : Program) (executable : Bool)
  deriving DecidableEq, Repr, Inhabited

/-- Whether an entry is a link. -/
def Entry.isLink : Entry → Bool
  | .link _ => true
  | _ => false

/-- A place in the tree: the names on the way to it, the last name first. -/
abbrev Location := List Bytes

/-- The files of a world. The root directory is always there. -/
structure FileTree where
  entries : List (Location × Entry)
  deriving Repr, Inhabited

namespace FileTree

/-- At most this many links are followed in one lookup. -/
def maxLinks : Nat := 40

/-- A name has at most this many bytes. -/
def maxName : Nat := 255

/-- A path has fewer bytes than this. -/
def pathLimit : Nat := 4096

/-- What stands at a location. -/
def get? (t : FileTree) (l : Location) : Option Entry :=
  match l with
  | [] => some .directory
  | l => t.entries.lookup l

/-! ## Following a path -/

/-- Follows steps from the directory at `dir`. Where a link is met, `follow` is asked to go on from
a directory with the steps of the link's target and those that remain. -/
def descend (t : FileTree) (follow : Location → List Bytes → Except OsFault Location)
    (dir : Location) : List Bytes → Except OsFault Location
  | [] => .ok dir
  | step :: rest =>
    if step = [] ∨ step = Path.here then descend t follow dir rest
    else if step = Path.up then descend t follow dir.tail rest
    else if maxName < step.length then .error .nameTooLong
    else
      match t.get? (step :: dir) with
      | none => .error .notFound
      | some .directory => descend t follow (step :: dir) rest
      | some (.link target) =>
        follow (if Path.isAbsolute target then [] else dir) (Path.steps target ++ rest)
      | some _ => if rest = [] then .ok (step :: dir) else .error .notADirectory

/-- Follows steps from a directory through at most `links` links. -/
def walk (t : FileTree) : (links : Nat) → Location → List Bytes → Except OsFault Location
  | 0 => t.descend fun _ _ => .error .tooManyLinks
  | links + 1 => t.descend (t.walk links)

/-- The location that a path names, seen from the directory `cwd`. -/
def locate (t : FileTree) (cwd : Location) (p : Path) : Except OsFault Location :=
  if p = [] then .error .notFound
  else if pathLimit ≤ p.length then .error .nameTooLong
  else t.walk maxLinks (if Path.isAbsolute p then [] else cwd) (Path.steps p)

theorem locate_nil (t : FileTree) (cwd : Location) : t.locate cwd [] = .error .notFound := rfl

theorem locate_of_long (t : FileTree) (cwd : Location) {p : Path} (h : pathLimit ≤ p.length) :
    t.locate cwd p = .error .nameTooLong := by
  have hp : p ≠ [] := by rintro rfl; exact absurd h (by decide)
  simp [locate, hp, h]

/-! ## Asking and reading -/

/-- What a path names. -/
def find (t : FileTree) (cwd : Location) (p : Path) : Except OsFault Entry := do
  let l ← t.locate cwd p
  match t.get? l with
  | some e => .ok e
  | none => .error .notFound

/-- Whether a path names anything. Every fault counts as absence. -/
def holds (t : FileTree) (cwd : Location) (p : Path) : Bool :=
  !p.contains 0 && (t.find cwd p).isOk

theorem holds_iff (t : FileTree) (cwd : Location) (p : Path) :
    t.holds cwd p = true ↔ 0 ∉ p ∧ ∃ e, t.find cwd p = .ok e := by
  unfold holds
  cases h : t.find cwd p <;> simp [Except.isOk, Except.toBool]

/-- Whether a path names a file that may be run. -/
def holdsRunnable (t : FileTree) (cwd : Location) (p : Path) : Bool :=
  !p.contains 0 &&
    match t.find cwd p with
    | .ok (.file _ executable) => executable
    | .ok (.program _ executable) => executable
    | _ => false

/-- The bytes of the file that a path names. A program's bytes are not modelled: it reads as
empty. -/
def read (t : FileTree) (cwd : Location) (p : Path) : Except IoFault Bytes :=
  if p.contains 0 then .error .nulInPath
  else
    match t.find cwd p with
    | .error e => .error (.os e)
    | .ok (.file content _) => .ok content
    | .ok (.program _ _) => .ok []
    | .ok _ => .error (.os .isADirectory)

theorem read_eq_error_of_nul (t : FileTree) (cwd : Location) {p : Path} (h : 0 ∈ p) :
    t.read cwd p = .error .nulInPath := by
  simp [read, h]

/-- The text of the file that a path names. -/
def readText (t : FileTree) (cwd : Location) (p : Path) : Except IoFault String := do
  match Bytes.decode? (← t.read cwd p) with
  | some s => .ok s
  | none => .error .notText

/-! ## Changing the tree -/

/-- Follows steps to the place of an entry. A link on the way is handed to `follow` with the steps
that remain; one at the end only if `throughLast` is set. -/
def settleFrom (t : FileTree) (follow : Location → List Bytes → Location) (throughLast : Bool)
    (dir : Location) : List Bytes → Location
  | [] => dir
  | step :: rest =>
    if step = Path.up then settleFrom t follow throughLast dir.tail rest
    else
      match t.get? (step :: dir) with
      | some (.link target) =>
        if throughLast || rest ≠ [] then
          follow (if Path.isAbsolute target then [] else dir) (Path.movingSteps target ++ rest)
        else step :: dir
      | _ => settleFrom t follow throughLast (step :: dir) rest

/-- Follows steps to the place of an entry through at most `links` links. -/
def settleWithin (t : FileTree) (throughLast : Bool) :
    (links : Nat) → Location → List Bytes → Location
  | 0 => t.settleFrom (fun dir _ => dir) throughLast
  | links + 1 => t.settleFrom (t.settleWithin throughLast links) throughLast

/-- The place of an entry with this path, seen from the directory `cwd`. If a link stands there, it
is the place that the link leads to, or the link's own if `throughLast` is not set. -/
def settle (t : FileTree) (cwd : Location) (p : Path) (throughLast : Bool) : Location :=
  t.settleWithin throughLast maxLinks (if Path.isAbsolute p then [] else cwd) (Path.movingSteps p)

/-- The tree with this entry at a location, in place of the one that stood there. -/
def put (t : FileTree) (l : Location) (e : Entry) : FileTree where
  entries := (l, e) :: t.entries.filter fun x => x.1 ≠ l

/-- The tree with directories wherever the way to `l` has nothing yet. -/
def makeParents (t : FileTree) : Location → FileTree
  | [] => t
  | _ :: dir =>
    let t := makeParents t dir
    match t.get? dir with
    | some _ => t
    | none => t.put dir .directory

/-- The tree with an entry at a location and directories on the way to it. -/
def write (t : FileTree) (l : Location) (e : Entry) : FileTree :=
  (t.makeParents l).put l e

/-- The tree without a location and all that is below it. -/
def remove (t : FileTree) (l : Location) : FileTree where
  entries := t.entries.filter fun x => !l.isSuffixOf x.1

end FileTree

end CmakeDriver
