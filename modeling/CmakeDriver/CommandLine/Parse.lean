import CmakeDriver.CommandLine.Scan

/-!
# Parsing a command line

A command line is the program's own options, then possibly a subcommand with its options. The path
of the configuration file may be given on either side of the subcommand; the one behind it counts.
`help` is followed by words: the page of the subcommand they name is the answer.

Out of scope: arguments that are not text. A command line is a list of texts.

Results:
* `ofSettings_config`: the path of the configuration is the last one given, or the default.
-/

namespace CmakeDriver

namespace CommandLine

/-- The path of the configuration file where none is given. -/
def defaultConfigPath : String := "cmakew.toml"

/-- The options of a configure command. -/
structure ConfigureOptions where
  configuration : Option String := none
  buildFolder : Option String := none
  toolchain : Option String := none
  verbose : Bool := false
  /-- The variables given, in order and with repeats. -/
  env : List (String × String) := []
  deriving DecidableEq, Repr

/-- The options of a build command. -/
structure BuildOptions where
  buildFolder : Option String := none
  verbose : Bool := false
  deriving DecidableEq, Repr

/-- What the program is told to do. -/
inductive Command where
  | configure (options : ConfigureOptions)
  | build (options : BuildOptions)
  | doctor
  deriving DecidableEq, Repr

/-- A command line that makes sense. -/
structure Invocation where
  config : String := defaultConfigPath
  command : Option Command
  deriving DecidableEq, Repr

/-- The subcommands. -/
inductive Subcommand where
  | configure
  | build
  | doctor
  deriving DecidableEq, Repr

namespace Subcommand

/-- The name of a subcommand. -/
def name : Subcommand → String
  | configure => "configure"
  | build => "build"
  | doctor => "doctor"

/-- The subcommand of a name. -/
def ofName? (word : String) : Option Subcommand :=
  [configure, build, doctor].find? fun s => s.name = word

/-- The scope of a subcommand's options. -/
def scope : Subcommand → Scope
  | configure => .configure
  | build => .build
  | doctor => .doctor

theorem ofName?_name (s : Subcommand) : ofName? s.name = some s := by
  cases s <;> decide

end Subcommand

/-! ## What settings say -/

namespace Setting

/-- The path of the configuration file that settings give. -/
def config? (settings : List Setting) : Option String :=
  settings.reverse.findSome? fun
    | config path => some path
    | _ => none

/-- The configuration that settings give. -/
def configuration? (settings : List Setting) : Option String :=
  settings.findSome? fun
    | configuration name => some name
    | _ => none

/-- The build folder that settings give. -/
def buildFolder? (settings : List Setting) : Option String :=
  settings.findSome? fun
    | buildFolder path => some path
    | _ => none

/-- The toolchain that settings give. -/
def toolchain? (settings : List Setting) : Option String :=
  settings.findSome? fun
    | toolchain path => some path
    | _ => none

/-- The variables that settings give, in order. -/
def envPairs (settings : List Setting) : List (String × String) :=
  settings.filterMap fun
    | env key value => some (key, value)
    | _ => none

end Setting

/-- The command of a subcommand with these settings. -/
def Subcommand.command (s : Subcommand) (settings : List Setting) : Command :=
  match s with
  | configure => .configure {
      configuration := Setting.configuration? settings
      buildFolder := Setting.buildFolder? settings
      toolchain := Setting.toolchain? settings
      verbose := settings.contains .verbose
      env := Setting.envPairs settings }
  | build => .build {
      buildFolder := Setting.buildFolder? settings
      verbose := settings.contains .verbose }
  | doctor => .doctor

/-- The invocation of the settings on the two sides of the subcommand. -/
def Invocation.ofSettings (outer : List Setting) (inner : Option (Subcommand × List Setting)) :
    Invocation where
  config := (Setting.config? (outer ++ (inner.map Prod.snd).getD [])).getD defaultConfigPath
  command := inner.map fun p => p.1.command p.2

theorem ofSettings_config (outer inner : List Setting) (s : Subcommand) :
    (Invocation.ofSettings outer (some (s, inner))).config =
      (Setting.config? (outer ++ inner)).getD defaultConfigPath := rfl

/-! ## Parsing -/

/-- The word that names the page of help. -/
def helpWord : String := "help"

/-- The page that a word behind `help` names. -/
def pageOf? (word : String) : Option Page :=
  if word = helpWord then some .help
  else (Subcommand.ofName? word).map fun s => s.scope.page

/-- The answer to `help` with these words behind it. No subcommand has subcommands of its own. -/
def answerHelp : List String → Refusal
  | [] => .help .top
  | word :: rest =>
    match pageOf? word, rest with
    | none, _ => .usage (.unknownSubcommand word)
    | some page, [] => .help page
    | some _, next :: _ => .usage (.unknownSubcommand next)

/-- The settings behind a subcommand. No word may follow it. -/
def parseInner (s : Subcommand) (args : List String) : Except Refusal (List Setting) := do
  let (settled, pending, stop) ← scan s.scope [] .nothing args
  match stop with
  | .finished | .escaped [] => (pending.close settled).mapError .usage
  | .escaped (text :: _) => .error (.usage (.unknownArgument text))
  | .word text _ => .error (.usage (.unknownArgument text))

/-- What a command line asks for. -/
def parse (args : List String) : Except Refusal Invocation := do
  let (settled, pending, stop) ← scan .top [] .nothing args
  match stop with
  | .finished | .escaped [] =>
    let outer ← (pending.close settled).mapError .usage
    pure (.ofSettings outer none)
  | .escaped (text :: _) =>
    if (pageOf? text).isSome then .error (.usage (.unknownArgument text))
    else .error (.usage (.unknownSubcommand text))
  | .word text rest =>
    if text = helpWord then .error (answerHelp rest)
    else
      match Subcommand.ofName? text with
      | none => .error (.usage (.unknownSubcommand text))
      | some s =>
        let inner ← parseInner s rest
        let outer ← (pending.close settled).mapError .usage
        pure (.ofSettings outer (some (s, inner)))

end CommandLine

end CmakeDriver
