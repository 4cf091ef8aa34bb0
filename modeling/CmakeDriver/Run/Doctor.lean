import CmakeDriver.Report.Json
import CmakeDriver.Run.Steps

/-!
# The doctor's report

The doctor says what a configuration amounts to in a world: which executable it names and where
that is found, whether the toolchain exists, and whether the build folder has been configured. It
starts nothing.

Results:
* `events_doctor`: all that the doctor does is to print its report.
* `result_doctor`: it always succeeds.
-/

namespace CmakeDriver

/-- What the doctor found. -/
structure Diagnosis where
  cmakeBinary : String
  /-- The path at which the executable is found, if there is one. -/
  cmakeResolved : Option String
  toolchain : Option String
  toolchainExists : Bool
  buildFolder : String
  buildFolderConfigured : Bool
  deriving DecidableEq, Repr

namespace Diagnosis

/-- What a configuration amounts to in a world. -/
def of (w : World) (c : Config) : Diagnosis where
  cmakeBinary := c.cmakeBinary
  cmakeResolved := (World.cmakeOf c).resolve w
  toolchain := c.toolchain
  toolchainExists := c.toolchain.any fun t => w.holds (Bytes.ofString t)
  buildFolder := c.buildFolder
  buildFolderConfigured := w.holds (World.cachePath c.buildFolder)

/-- The fields of the report, in order. -/
def fields (d : Diagnosis) : List (String × Json.Scalar) :=
  [("cmake_binary", .text d.cmakeBinary),
    ("cmake_resolved", .ofText? d.cmakeResolved),
    ("toolchain", .ofText? d.toolchain),
    ("toolchain_exists", .boolean d.toolchainExists),
    ("build_folder", .text d.buildFolder),
    ("build_folder_configured", .boolean d.buildFolderConfigured)]

/-- The report: the fields as one object, and a line feed. -/
def report (d : Diagnosis) : String :=
  String.ofList (Json.object d.fields ++ ['\n'])

end Diagnosis

namespace World

/-- Prints the doctor's report. -/
def doctor (w : World) (c : Config) : Traced (Except Failure Unit) := do
  Traced.out (Diagnosis.of w c).report
  pure (.ok ())

theorem events_doctor (w : World) (c : Config) :
    (w.doctor c).events = [.out (Diagnosis.of w c).report] := rfl

theorem result_doctor (w : World) (c : Config) : (w.doctor c).result = .ok () := rfl

end World

end CmakeDriver
