import CmakeDriver.Cmake.Step
import CmakeDriver.CommandLine.Parse
import CmakeDriver.Run.Failure

/-!
# Configuring and building

A value given on the command line counts before that of the configuration. A configure step needs
a toolchain. It runs in the ambient environment, unless variables are added: then it gets the
ambient variables that are text, the configuration's on top of them, and those of the command line
on top of both. A build step always runs in the ambient environment.

Results:
* `get?_textBindings`: of the ambient variables exactly those that are text are carried over.
* `stepEnvironment_eq_none_iff`: the environment is inherited exactly when no variable is added.
-/

namespace CmakeDriver

namespace World

open CommandLine (ConfigureOptions BuildOptions)

/-- The ambient variables that are text. -/
def textBindings (w : World) : TextBindings :=
  Bindings.ofList w.environment.textPairs

/-- The environment of a configure step, unless it is inherited. -/
def stepEnvironment (w : World) (config : TextBindings) (pairs : List (String × String)) :
    Option TextBindings :=
  if config.isEmpty && pairs.isEmpty then none
  else some ((w.textBindings.setAll config.entries).setAll pairs)

/-- What a configure step is told, from the command line and the configuration. -/
def configureStep? (w : World) (c : Config) (o : ConfigureOptions) : Option ConfigureStep :=
  (o.toolchain <|> c.toolchain).map fun toolchain =>
    { configuration := o.configuration.getD c.configuration
      buildFolder := o.buildFolder.getD c.buildFolder
      toolchain
      verbose := o.verbose
      environment := w.stepEnvironment c.env o.env }

/-- What a build step is told, from the command line and the configuration. -/
def buildStep (c : Config) (o : BuildOptions) : BuildStep where
  buildFolder := o.buildFolder.getD c.buildFolder
  verbose := o.verbose

/-- The executable that a configuration names. -/
def cmakeOf (c : Config) : Cmake where
  executable := c.cmakeBinary

/-- Configures the build tree. -/
def configure (w : World) (c : Config) (o : ConfigureOptions) :
    Traced (Except Failure Unit) := do
  match w.configureStep? c o with
  | none => pure (.error .noToolchain)
  | some s =>
    Traced.note (.configureBegins s.buildFolder s.configuration s.toolchain)
    match ← (cmakeOf c).perform w.host (.configure s) with
    | .error fault => pure (.error (.configure s.buildFolder fault))
    | .ok () =>
      Traced.note (.configureDone s.buildFolder)
      pure (.ok ())

/-- The file that shows that a build tree has been configured. -/
def cacheName : String := "CMakeCache.txt"

/-- The path of that file in a build folder. -/
def cachePath (folder : String) : Path :=
  Path.join (Bytes.ofString folder) (Bytes.ofString cacheName)

/-- Builds the build tree. That it looks unconfigured is worth a warning, no more. -/
def build (w : World) (c : Config) (o : BuildOptions) : Traced (Except Failure Unit) := do
  let s := buildStep c o
  if !w.holds (cachePath s.buildFolder) then
    Traced.note (.notConfigured s.buildFolder)
  Traced.note (.buildBegins s.buildFolder)
  match ← (cmakeOf c).perform w.host (.build s) with
  | .error fault => pure (.error (.build s.buildFolder fault))
  | .ok () =>
    Traced.note (.buildDone s.buildFolder)
    pure (.ok ())

theorem get?_textBindings (w : World) {name value : String} :
    w.textBindings.get? name = some value ↔
      w.environment.get? (Bytes.ofString name) = some (Bytes.ofString value) := by
  rw [textBindings, Bindings.get?_ofList w.environment.nodup_textPairs,
    Bindings.find?_eq_some_iff w.environment.nodup_textPairs]
  exact w.environment.mem_textPairs_iff

theorem stepEnvironment_eq_none_iff (w : World) (config : TextBindings)
    (pairs : List (String × String)) :
    w.stepEnvironment config pairs = none ↔ config.isEmpty = true ∧ pairs = [] := by
  simp [stepEnvironment]

end World

end CmakeDriver
