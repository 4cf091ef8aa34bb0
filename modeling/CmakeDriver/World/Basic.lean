import CmakeDriver.World.Environment
import CmakeDriver.World.FileTree

/-!
# Worlds

A world is what a run sees and does not change: the files, the current directory and the ambient
environment.

Results:
* `isAbsolute_absolute`: a path made absolute is absolute.
-/

namespace CmakeDriver

/-- The surroundings of a run. -/
structure World where
  tree : FileTree
  /-- The location of the current directory. -/
  cwd : Location := []
  /-- The ambient environment. -/
  environment : Environment := ∅

namespace World

/-- The path of a location from the root directory. -/
def pathOf (l : Location) : Path :=
  match l with
  | [] => [Bytes.slash]
  | l => l.reverse.flatMap fun name => Bytes.slash :: name

/-- The place of an entry with this path, behind the links on the way and the one at the end. -/
def locationOf (w : World) (p : Path) : Location :=
  w.tree.settle w.cwd p true

/-- The world with an entry at a path, and directories on the way to it. Links are followed, but a
link is put in the place of another one. -/
def write (w : World) (p : Path) (e : Entry) : World :=
  { w with tree := w.tree.write (w.tree.settle w.cwd p !e.isLink) e }

/-- The world without what is at a path and below. Of a link at the end only the link goes. -/
def remove (w : World) (p : Path) : World :=
  { w with tree := w.tree.remove (w.tree.settle w.cwd p false) }

/-- The path as seen from the root directory, its steps unchanged. -/
def absolute (w : World) (p : Path) : Path :=
  Path.join (pathOf w.cwd) p

/-- Whether a path names anything. -/
def holds (w : World) (p : Path) : Bool :=
  w.tree.holds w.cwd p

/-- Whether a path names a file that may be run. -/
def holdsRunnable (w : World) (p : Path) : Bool :=
  w.tree.holdsRunnable w.cwd p

/-- The text of the file that a path names. -/
def readText (w : World) (p : Path) : Except IoFault String :=
  w.tree.readText w.cwd p

theorem isAbsolute_pathOf (l : Location) : Path.isAbsolute (pathOf l) = true := by
  cases l with
  | nil => rfl
  | cons name dir =>
    simp only [pathOf, List.reverse_cons, List.flatMap_append]
    cases h : dir.reverse.flatMap (fun name => Bytes.slash :: name) with
    | nil => simp [Path.isAbsolute]
    | cons b rest =>
      cases hr : dir.reverse with
      | nil => simp [hr] at h
      | cons first others =>
        simp only [hr, List.flatMap_cons, List.cons_append, List.cons.injEq] at h
        simp [Path.isAbsolute, h.1]

theorem isAbsolute_absolute (w : World) (p : Path) :
    Path.isAbsolute (w.absolute p) = true :=
  Path.isAbsolute_join (isAbsolute_pathOf w.cwd)

end World

end CmakeDriver
