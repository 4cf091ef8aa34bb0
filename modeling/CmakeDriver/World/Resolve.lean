import CmakeDriver.World.Basic

/-!
# Resolving a program name

Resolving answers where a program would be found, without starting it. A name with a slash is made
absolute. Any other name is joined to the directories of the search path, in which an entry whose
first step is `~` begins in the home directory. The answer is the first of these paths that names a
file that may be run.

Results:
* `resolve_eq_some`: what resolving answers names a file that may be run.
* `candidates_of_hasSlash`: a name with a slash has one candidate.
-/

namespace CmakeDriver

namespace World

/-- An entry of the search path with a first step `~` replaced by the home directory; nothing if
that is needed and not known. An empty home directory counts as unknown. -/
def expandHome (environment : Environment) (directory : Path) : Option Path :=
  if (Path.steps directory).head? = some Path.home then
    ((environment.lookup Environment.homeName).filter (· ≠ [])).map fun home =>
      (Path.movingSteps directory).tail.foldl Path.join home
  else some directory

/-- The paths at which a program name is sought, in order. -/
def candidates (w : World) (name : Path) : List Path :=
  if Path.hasSlash name then [w.absolute name]
  else
    match w.environment.searchPath? with
    | none => []
    | some directories =>
      directories.filterMap fun d => (expandHome w.environment d).map (Path.join · name)

/-- The path at which a program is found, if there is one. -/
def resolve (w : World) (name : Path) : Option Path :=
  (w.candidates name).find? w.holdsRunnable

theorem candidates_of_hasSlash (w : World) {name : Path} (h : Path.hasSlash name = true) :
    w.candidates name = [w.absolute name] := by
  simp [candidates, h]

theorem resolve_eq_some {w : World} {name p : Path} (h : w.resolve name = some p) :
    p ∈ w.candidates name ∧ w.holdsRunnable p = true :=
  ⟨List.mem_of_find?_eq_some h, List.find?_some h⟩

end World

end CmakeDriver
