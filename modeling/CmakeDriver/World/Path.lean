import CmakeDriver.Text.Bytes

/-!
# Paths

A path is a byte string. Its steps are what stands between its slashes; an empty step and the step
`.` stay where they are, `..` goes to the parent. A path that begins with a slash starts at the
root directory, any other at the current one.

Results:
* `join_of_isAbsolute`: joining an absolute path replaces the base.
* `isAbsolute_join`: a path joined to an absolute base is absolute.
* `movingSteps_not_here`: no moving step stays where it is.
-/

namespace CmakeDriver

/-- A path as programs write it. -/
abbrev Path := Bytes

namespace Path

open Bytes

/-- Whether the path starts at the root directory. -/
def isAbsolute (p : Path) : Bool :=
  p.head? == some slash

/-- Whether the path has more than one step or is absolute. -/
def hasSlash (p : Path) : Bool :=
  p.contains slash

/-- The steps of a path, from left to right. -/
def steps (p : Path) : List Bytes :=
  split slash p

/-- Whether the path ends in a slash. -/
def endsInSlash (p : Path) : Bool :=
  p.getLast? == some slash

/-- `p` taken from the directory `base`: with one slash between them, unless `base` is empty or
ends in one. An absolute `p` stands alone. -/
def join (base p : Path) : Path :=
  if isAbsolute p then p
  else if base = [] ∨ endsInSlash base then base ++ p
  else base ++ slash :: p

theorem join_of_isAbsolute {base p : Path} (h : isAbsolute p = true) : join base p = p := by
  simp [join, h]

theorem isAbsolute_join {base p : Path} (h : isAbsolute base = true) :
    isAbsolute (join base p) = true := by
  cases base with
  | nil => simp [isAbsolute] at h
  | cons b base =>
    unfold join
    split
    · assumption
    · split <;> simpa [isAbsolute] using h

/-- The step that stays where it is. -/
def here : Bytes := [0x2E]

/-- The step to the parent directory. -/
def up : Bytes := [0x2E, 0x2E]

/-- The step that stands for the home directory at the front of a search path entry. -/
def home : Bytes := [0x7E]

/-- The steps of a path that go anywhere: neither empty nor `.`. -/
def movingSteps (p : Path) : List Bytes :=
  (steps p).filter fun step => step ≠ [] ∧ step ≠ here

theorem movingSteps_not_here {p : Path} {step : Bytes} (h : step ∈ movingSteps p) :
    step ≠ [] ∧ step ≠ here := by
  simpa using (List.mem_filter.1 h).2

end Path

end CmakeDriver
