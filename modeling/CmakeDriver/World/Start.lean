import CmakeDriver.World.Basic
import CmakeDriver.World.Script

/-!
# Starting a program

A program name with a slash is a path. Any other name is sought in the directories of the search
path, from the left: a directory that lacks the file is passed over, one in which it may not be run
is remembered, and any other fault ends the search. Where the environment has no search path, the
directories of `defaultSearchPath` are taken.

A script starts its interpreter. A text that names none cannot be run, unless the search takes it to
the shell.

Out of scope: limits of the host on the size of the arguments and of the environment. Here every
program takes as many of them as it is given, each as long as it is, so a start fails only for what
was said above.

Results:
* `attempt_of_program`: a program that may be run is started by its own path.
* `seek_eq_ok_iff`: the search ends at the first candidate that can be started, provided that every
  candidate before it fails with a fault that the search passes over.
* `findProgram_of_hasSlash`: a name with a slash is not sought.
* `tried_eq_self`: all directories are tried if none has an over-long name.
-/

namespace CmakeDriver

/-- What a start comes to. -/
structure Image where
  program : Program
  /-- The path by which the program is started and its arguments; nothing for the shell, which is no
  program of the world. -/
  call : Option (Path × List Bytes)

namespace World

/-! ## Starting the file at a path -/

/-- At most this many files are opened one for another in one start: a program takes two of them, a
script takes one and its interpreter the rest. -/
def maxOpened : Nat := 6

/-- What can be started. -/
inductive Startable where
  | program (program : Program)
  | text (content : Bytes)

/-- What may be run at a path. -/
def startable (w : World) (p : Path) : Except OsFault Startable :=
  match w.tree.find w.cwd p with
  | .error e => .error e
  | .ok (.program program true) => .ok (.program program)
  | .ok (.file content true) => .ok (.text content)
  | .ok _ => .error .permissionDenied

/-- What may be run at the path in an interpreter line. There the empty path is the current
directory, which is nothing that may be run. -/
def startableInterpreter (w : World) (p : Path) : Except OsFault Startable :=
  if p = [] then .error .permissionDenied else w.startable p

/-- What it comes to if what was found at a path is started with these arguments and at most `room`
files are opened. The interpreter of a script gets the argument in the script's line, the path of
the script and the script's arguments. -/
def image (w : World) : (room : Nat) → Startable → Path → List Bytes → Except OsFault Image
  | 0, _, _, _ => .error .tooManyLinks
  | room + 1, .program program, p, args =>
    if room = 0 then .error .tooManyLinks else .ok { program, call := some (p, args) }
  | room + 1, .text content, p, args =>
    match Script.interpreter? content with
    | none => .error .notRunnable
    | some i =>
      match w.startableInterpreter i.path with
      | .error e => .error e
      | .ok found => w.image room found i.path (i.argument.toList ++ p :: args)

/-- What the shell makes of the file at a path. -/
def shellImage (w : World) (p : Path) : Image where
  program := Script.runShell p ((w.tree.read w.cwd p).toOption.getD [])
  call := none

/-- Starts the file at a path, or hands it to the shell if it cannot be run and that is wanted. -/
def attempt (w : World) (shell : Bool) (p : Path) (args : List Bytes) : Except OsFault Image :=
  match w.startable p with
  | .error e => .error e
  | .ok found =>
    match w.image maxOpened found p args with
    | .error .notRunnable => if shell then .ok (w.shellImage p) else .error .notRunnable
    | r => r

theorem image_of_program (w : World) {room : Nat} (h : 2 ≤ room) (program : Program) (p : Path)
    (args : List Bytes) :
    w.image room (.program program) p args = .ok { program, call := some (p, args) } := by
  obtain ⟨room, rfl⟩ := Nat.exists_eq_add_of_le h
  rw [Nat.add_comm, image, if_neg (Nat.succ_ne_zero room)]

theorem attempt_of_program (w : World) (shell : Bool) {p : Path} {program : Program}
    (h : w.tree.find w.cwd p = .ok (.program program true)) (args : List Bytes) :
    w.attempt shell p args = .ok { program, call := some (p, args) } := by
  have hs : w.startable p = .ok (.program program) := by simp [startable, h]
  rw [attempt, hs]
  simp only [image_of_program w (show 2 ≤ maxOpened by decide)]

/-! ## Seeking it -/

/-- The directories that are searched where the environment names none. -/
def defaultSearchPath : List Path :=
  [Bytes.ofString "/bin", Bytes.ofString "/usr/bin"]

/-- The directories of a search path that are tried. One with an over-long name counts as the
current directory, and as none at the end. -/
def tried : List Path → List Path
  | [] => []
  | [d] => if FileTree.pathLimit ≤ d.length then [] else [d]
  | d :: rest => (if FileTree.pathLimit ≤ d.length then [] else d) :: tried rest

/-- So much of a name is looked for: more than any file's name has. -/
def soughtPart (name : Path) : Path :=
  name.take (FileTree.maxName + 1)

/-- The path of a program in a directory of the search path: the directory as it is written, a
slash and the name; the name alone for an empty directory. -/
def candidate (directory name : Path) : Path :=
  if directory = [] then soughtPart name else directory ++ Bytes.slash :: soughtPart name

/-- Whether the search goes on after this fault. -/
def passesOver : OsFault → Bool
  | .notFound | .notADirectory | .permissionDenied => true
  | _ => false

/-- Tries candidates from the left. The fault at the end is `permissionDenied` if any candidate was
denied, else that of the last candidate. -/
def seek {α : Type} (start : Path → Except OsFault α) : (denied : Bool) → (last : OsFault) →
    List Path → Except OsFault α
  | denied, last, [] => .error (if denied then .permissionDenied else last)
  | denied, _, p :: rest =>
    match start p with
    | .ok found => .ok found
    | .error e =>
      if passesOver e then seek start (denied || e = .permissionDenied) e rest else .error e

/-- What the start of a program comes to. A name is sought in the search path of `environment`;
`shell` tells whether the search takes texts to the shell. -/
def findProgram (w : World) (environment : Environment) (shell : Bool) (name : Path)
    (args : List Bytes) : Except OsFault Image :=
  if name = [] then .error .notFound
  else if Path.hasSlash name then w.attempt false name args
  else
    let directories := environment.searchPath?.getD defaultSearchPath
    seek (fun p => w.attempt shell p args) false .notFound
      ((tried directories).map (candidate · name))

theorem tried_eq_self {directories : List Path}
    (h : ∀ d ∈ directories, d.length < FileTree.pathLimit) : tried directories = directories := by
  fun_induction tried directories with
  | case1 => rfl
  | case2 d hd => exact absurd (h d (by simp)) (Nat.not_lt.2 hd)
  | case3 => rfl
  | case4 d rest _ ih =>
    rw [if_neg (Nat.not_le.2 (h d List.mem_cons_self)),
      ih fun e he => h e (List.mem_cons_of_mem _ he)]

theorem findProgram_of_hasSlash (w : World) (e : Environment) (shell : Bool) {name : Path}
    (h : Path.hasSlash name = true) (args : List Bytes) :
    w.findProgram e shell name args = w.attempt false name args := by
  have hn : name ≠ [] := by rintro rfl; exact absurd h (by decide)
  simp [findProgram, hn, h]

theorem seek_eq_ok_iff {α : Type} (start : Path → Except OsFault α) (denied : Bool)
    (last : OsFault) (ps : List Path) (found : α) :
    seek start denied last ps = .ok found ↔
      ∃ before p after, ps = before ++ p :: after ∧ start p = .ok found ∧
        ∀ q ∈ before, ∃ e, start q = .error e ∧ passesOver e = true := by
  induction ps generalizing denied last with
  | nil => simp [seek]
  | cons q rest ih =>
    rw [seek]
    cases hq : start q with
    | ok here =>
      constructor
      · intro h
        obtain rfl := Except.ok.inj h
        exact ⟨[], q, rest, rfl, hq, by simp⟩
      · rintro ⟨before, p, after, hps, hp, hb⟩
        cases before with
        | nil =>
          obtain ⟨rfl, rfl⟩ := List.cons.inj hps
          rw [hq] at hp
          rw [Except.ok.inj hp]
        | cons b before =>
          obtain ⟨rfl, -⟩ := List.cons.inj hps
          obtain ⟨e, he, -⟩ := hb q (by simp)
          rw [hq] at he
          exact absurd he (by simp)
    | error e =>
      by_cases hpass : passesOver e = true
      · simp only [hpass, if_true]
        rw [ih]
        constructor
        · rintro ⟨before, p, after, rfl, hp, hb⟩
          refine ⟨q :: before, p, after, rfl, hp, fun r hr => ?_⟩
          rcases List.mem_cons.1 hr with rfl | hr
          · exact ⟨e, hq, hpass⟩
          · exact hb r hr
        · rintro ⟨before, p, after, hps, hp, hb⟩
          cases before with
          | nil =>
            obtain ⟨rfl, rfl⟩ := List.cons.inj hps
            rw [hq] at hp
            exact absurd hp (by simp)
          | cons b before =>
            obtain ⟨rfl, rfl⟩ := List.cons.inj hps
            exact ⟨before, p, after, rfl, hp, fun r hr => hb r (List.mem_cons_of_mem _ hr)⟩
      · simp only [hpass]
        constructor
        · intro h; exact absurd h (by simp)
        · rintro ⟨before, p, after, hps, hp, hb⟩
          cases before with
          | nil =>
            obtain ⟨rfl, rfl⟩ := List.cons.inj hps
            rw [hq] at hp
            exact absurd hp (by simp)
          | cons b before =>
            obtain ⟨rfl, -⟩ := List.cons.inj hps
            obtain ⟨e', he', hp'⟩ := hb q (by simp)
            rw [hq] at he'
            obtain rfl := Except.error.inj he'
            exact absurd hp' hpass

end World

end CmakeDriver
