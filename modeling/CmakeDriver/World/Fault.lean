/-!
# Faults of the operating system

What can go wrong when a file is looked up, read or started, and the text that a message shows for
it. Faults that have a number carry it in their text.

Out of scope: the faults of a host that runs short. Number 7, a command line and an environment that
are too long together or hold too long a string, depends on the size of a page and on the limit of
the stack; memory, processes and open files can run out too. No world has such a limit.

Results:
* `number_inj`: different faults have different numbers.
-/

namespace CmakeDriver

/-- A fault that the operating system reports by number. -/
inductive OsFault where
  | notFound
  | notRunnable
  | permissionDenied
  | notADirectory
  | isADirectory
  | nameTooLong
  | tooManyLinks
  deriving DecidableEq, Repr, Inhabited

namespace OsFault

/-- The number of a fault. -/
def number : OsFault → Nat
  | notFound => 2
  | notRunnable => 8
  | permissionDenied => 13
  | notADirectory => 20
  | isADirectory => 21
  | nameTooLong => 36
  | tooManyLinks => 40

/-- A fault in words. -/
def words : OsFault → String
  | notFound => "No such file or directory"
  | notRunnable => "Exec format error"
  | permissionDenied => "Permission denied"
  | notADirectory => "Not a directory"
  | isADirectory => "Is a directory"
  | nameTooLong => "File name too long"
  | tooManyLinks => "Too many levels of symbolic links"

/-- A fault as messages show it. -/
def message (e : OsFault) : String :=
  e.words ++ " (os error " ++ toString e.number ++ ")"

/-- Different faults have different numbers. -/
theorem number_inj {e f : OsFault} (h : e.number = f.number) : e = f := by
  cases e <;> cases f <;> first | rfl | exact absurd h (by decide)

end OsFault

/-- A fault met while a file is read or a program is started. -/
inductive IoFault where
  /-- The operating system refused. -/
  | os (fault : OsFault)
  /-- A program name, an argument or an environment entry holds a NUL. -/
  | nulInRequest
  /-- The path of a file to read holds a NUL. -/
  | nulInPath
  /-- A file to be read as text is not UTF-8. -/
  | notText
  /-- A fault of another kind, known by its text. -/
  | other (text : String)
  deriving DecidableEq, Repr, Inhabited

namespace IoFault

/-- A fault as messages show it. -/
def message : IoFault → String
  | os fault => fault.message
  | nulInRequest => "nul byte found in provided data"
  | nulInPath => "file name contained an unexpected NUL byte"
  | notText => "stream did not contain valid UTF-8"
  | other text => text

end IoFault

end CmakeDriver
