import CmakeDriver.Text.Quoted
import CmakeDriver.Toml.Value
import CmakeDriver.World.Environment

/-!
# Configurations

A configuration names the cmake executable, the configuration to build, the build folder, possibly
a toolchain, and variables for cmake's environment. It is decoded from the entries of a document
with the sections `cmake`, `project` and `env`.

The entries are decoded in order and the first fault counts. Another top-level key is a fault; other
keys inside `cmake` and `project` are passed over. The sections `cmake` and `project` may also be
arrays, whose elements stand for the keys in order. A date or time in place of a section counts as
a table with one key, its text.

Results:
* `text?_eq_ok_iff`: only text is decoded as text.
-/

namespace CmakeDriver

/-- What a driver is configured to do. -/
structure Config where
  cmakeBinary : String := "cmake"
  configuration : String := "Debug"
  buildFolder : String := "build"
  toolchain : Option String := none
  /-- The variables that are added to cmake's environment. -/
  env : TextBindings := ∅

namespace Config

open Toml (Value Entries)

/-! ## Faults -/

/-- What a document should have at some place. -/
inductive Expected where
  | text
  | cmakeSection
  | projectSection
  | bindings
  deriving DecidableEq, Repr

/-- What is expected, in words. -/
def Expected.words : Expected → String
  | text => "a string"
  | cmakeSection => "struct CmakeSection"
  | projectSection => "struct ProjectSection"
  | bindings => "a map"

/-- How many elements an array has to have to stand for what is expected, in words. -/
def Expected.lengthWords : Expected → String
  | cmakeSection => "struct CmakeSection with 1 element"
  | projectSection => "struct ProjectSection with 3 elements"
  | e => e.words

/-- Why a document is no configuration. -/
inductive ShapeFault where
  | unknownSection (name : String)
  | wrongType (found : Value) (expected : Expected)
  | tooShort (length : Nat) (expected : Expected)
  deriving Repr

/-- What stands at some place, in words. -/
def found : Value → String
  | .text s => "string " ++ quoted s
  | .integer n => "integer `" ++ toString n ++ "`"
  | .float x => "floating point `" ++ x.text ++ "`"
  | .boolean b => "boolean `" ++ toString b ++ "`"
  | .array _ => "sequence"
  | .table _ | .dateTime _ => "map"

/-- A fault in words. -/
def ShapeFault.message : ShapeFault → String
  | unknownSection name =>
    "unknown field `" ++ name ++ "`, expected one of `cmake`, `project`, `env`"
  | wrongType value expected =>
    "invalid type: " ++ found value ++ ", expected " ++ expected.words
  | tooShort length expected =>
    "invalid length " ++ toString length ++ ", expected " ++ expected.lengthWords

/-! ## Decoding -/

/-- The key under which a date or time shows its text where a table is expected. -/
def dateTimeKey : String := "$__toml_private_datetime"

/-- The entries of a value that is, or counts as, a table. -/
def entries? : Value → Option Entries
  | .table entries => some entries
  | .dateTime d => some [(dateTimeKey, .text d.text)]
  | _ => none

/-- The text that a value is. -/
def text? : Value → Except ShapeFault String
  | .text s => .ok s
  | v => .error (.wrongType v .text)

theorem text?_eq_ok_iff {v : Value} {s : String} : text? v = .ok s ↔ v = .text s := by
  cases v <;> simp [text?]

/-- Decodes an entry of the section `cmake`. -/
def readCmakeEntry (c : Config) (entry : String × Value) : Except ShapeFault Config :=
  if entry.1 = "binary" then (text? entry.2).map fun s => { c with cmakeBinary := s }
  else .ok c

/-- Decodes the section `cmake`. -/
def readCmake (c : Config) : Value → Except ShapeFault Config
  | .array [] => .error (.tooShort 0 .cmakeSection)
  | .array (binary :: _) => readCmakeEntry c ("binary", binary)
  | v =>
    match entries? v with
    | some entries => entries.foldlM readCmakeEntry c
    | none => .error (.wrongType v .cmakeSection)

/-- Decodes an entry of the section `project`. -/
def readProjectEntry (c : Config) (entry : String × Value) : Except ShapeFault Config :=
  if entry.1 = "configuration" then (text? entry.2).map fun s => { c with configuration := s }
  else if entry.1 = "build_folder" then (text? entry.2).map fun s => { c with buildFolder := s }
  else if entry.1 = "toolchain" then (text? entry.2).map fun s => { c with toolchain := some s }
  else .ok c

/-- The keys of the section `project`, in the order of its array form. -/
def projectKeys : List String := ["configuration", "build_folder", "toolchain"]

/-- Decodes the section `project`. -/
def readProject (c : Config) : Value → Except ShapeFault Config
  | .array items => do
    let c ← (projectKeys.zip items).foldlM readProjectEntry c
    if items.length < projectKeys.length then .error (.tooShort items.length .projectSection)
    else pure c
  | v =>
    match entries? v with
    | some entries => entries.foldlM readProjectEntry c
    | none => .error (.wrongType v .projectSection)

/-- Decodes a variable. -/
def readVariable (entry : String × Value) : Except ShapeFault (String × String) :=
  (text? entry.2).map fun s => (entry.1, s)

/-- Decodes the section `env`. -/
def readEnv (c : Config) (v : Value) : Except ShapeFault Config :=
  match entries? v with
  | some entries => do
    let pairs ← entries.mapM readVariable
    pure { c with env := Bindings.ofList pairs }
  | none => .error (.wrongType v .bindings)

/-- Decodes a top-level entry. -/
def readSection (c : Config) (entry : String × Value) : Except ShapeFault Config :=
  if entry.1 = "cmake" then readCmake c entry.2
  else if entry.1 = "project" then readProject c entry.2
  else if entry.1 = "env" then readEnv c entry.2
  else .error (.unknownSection entry.1)

/-- The configuration that a document's entries give. -/
def ofEntries (entries : Entries) : Except ShapeFault Config :=
  entries.foldlM readSection {}

end Config

end CmakeDriver
