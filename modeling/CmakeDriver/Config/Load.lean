import CmakeDriver.Config.Basic
import CmakeDriver.Toml.Document
import CmakeDriver.World.Basic

/-!
# Loading a configuration

A configuration is loaded from a file, or, where nothing exists at the path, taken to be the
default one. A file that cannot be read, is no document or has the wrong shape is a fault, which
names the path.

Results:
* `loadOrDefault_of_holds`, `loadOrDefault_of_not_holds`: the default stands in exactly where
  nothing exists at the path.
-/

namespace CmakeDriver

namespace Config

/-- Why a configuration could not be loaded. -/
inductive LoadFault where
  | unreadable (path : String) (fault : IoFault)
  | notToml (path : String)
  | shape (path : String) (fault : ShapeFault)
  deriving Repr

namespace LoadFault

/-- What was being done, and what went wrong with it. -/
def chain : LoadFault → List String
  | unreadable path fault => ["reading config " ++ path, fault.message]
  | notToml path => ["parsing " ++ path, "TOML syntax"]
  | shape path fault => ["parsing " ++ path, fault.message]

end LoadFault

/-- The configuration of a document's text, read from `path`. -/
def ofText (path text : String) : Except LoadFault Config :=
  match Toml.parse? text with
  | none => .error (.notToml path)
  | some entries => (ofEntries entries).mapError (.shape path)

/-- The configuration in the file at a path. -/
def load (w : World) (path : String) : Except LoadFault Config :=
  match w.readText (Bytes.ofString path) with
  | .error fault => .error (.unreadable path fault)
  | .ok text => ofText path text

/-- The configuration in the file at a path, or the default one if nothing exists there. -/
def loadOrDefault (w : World) (path : String) : Except LoadFault Config :=
  if w.holds (Bytes.ofString path) then load w path else .ok {}

theorem loadOrDefault_of_holds {w : World} {path : String}
    (h : w.holds (Bytes.ofString path) = true) : loadOrDefault w path = load w path := by
  simp [loadOrDefault, h]

theorem loadOrDefault_of_not_holds {w : World} {path : String}
    (h : w.holds (Bytes.ofString path) = false) : loadOrDefault w path = .ok {} := by
  simp [loadOrDefault, h]

end Config

end CmakeDriver
