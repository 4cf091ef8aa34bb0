import CmakeDriver.Text.Quoted
import CmakeDriver.Toml.Document
import CmakeDriver.World.Basic

/-!
# Scenarios

A scenario is a world written down as a TOML document, in which a run can be tried out. Its keys
are applied in order:

* `directory` names the current directory, which is made;
* `environment` binds the ambient variables to their values;
* `files` and `links` bind paths to the text of the file or the target of the link that is there;
* `programs` binds paths to the exit code of the program that is there.
-/

namespace CmakeDriver

namespace Scenario

open Toml (Value Entries)

/-- Why a text is not a scenario. -/
inductive Fault where
  | notToml
  /-- No scenario has this key. -/
  | unknownKey (key : String)
  /-- The value of this key is not of its kind. -/
  | unfitValue (key : String)
  deriving DecidableEq, Repr

/-- A fault in words. -/
def Fault.message : Fault → String
  | notToml => "the scenario is not TOML"
  | unknownKey key => "the scenario has the unknown key " ++ quoted key
  | unfitValue key => "the scenario has an unfit value for the key " ++ quoted key

/-- The world of nothing but the root directory. -/
def emptyWorld : World where
  tree := { entries := [] }

/-- The world with another current directory. -/
def enter (w : World) (p : Path) : World :=
  { w.write p .directory with cwd := w.locationOf p }

/-- The world with one more variable. -/
def addVariable (w : World) (entry : String × Value) : Option World :=
  match entry.2 with
  | .text s =>
    let environment := w.environment.set (Bytes.ofString entry.1) (Bytes.ofString s)
    some { w with environment }
  | _ => none

/-- The world with one more file. -/
def addFile (w : World) (entry : String × Value) : Option World :=
  match entry.2 with
  | .text s => some (w.write (Bytes.ofString entry.1) (.file (Bytes.ofString s) false))
  | _ => none

/-- The world with one more link. -/
def addLink (w : World) (entry : String × Value) : Option World :=
  match entry.2 with
  | .text s => some (w.write (Bytes.ofString entry.1) (.link (Bytes.ofString s)))
  | _ => none

/-- The world with one more program. -/
def addProgram (w : World) (entry : String × Value) : Option World :=
  match entry.2 with
  | .integer n =>
    if 0 ≤ n ∧ n < 256 then
      let program : Program := { ending := .exited (UInt8.ofNat n.toNat) }
      some (w.write (Bytes.ofString entry.1) (.program program true))
    else none
  | _ => none

/-- What a key adds to a world for each entry of its table. -/
def adder? (key : String) : Option (World → String × Value → Option World) :=
  if key = "environment" then some addVariable
  else if key = "files" then some addFile
  else if key = "links" then some addLink
  else if key = "programs" then some addProgram
  else none

/-- Applies one key of a scenario. -/
def apply (w : World) (entry : String × Value) : Except Fault World :=
  if entry.1 = "directory" then
    match entry.2 with
    | .text s => .ok (enter w (Bytes.ofString s))
    | _ => .error (.unfitValue entry.1)
  else
    match adder? entry.1, entry.2 with
    | none, _ => .error (.unknownKey entry.1)
    | some add, .table entries =>
      match entries.foldlM add w with
      | some w => .ok w
      | none => .error (.unfitValue entry.1)
    | some _, _ => .error (.unfitValue entry.1)

/-- The world that the entries of a document describe. -/
def ofEntries (entries : Entries) : Except Fault World :=
  entries.foldlM apply emptyWorld

/-- The world that a text describes. -/
def parse (text : String) : Except Fault World :=
  match Toml.parse? text with
  | none => .error .notToml
  | some entries => ofEntries entries

end Scenario

end CmakeDriver
