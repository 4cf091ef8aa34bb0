import CmakeDriver.CommandLine.EnvPair

/-!
# Options and settings

An option is a name that the command line knows; a setting is an option with its value. Each
subcommand knows some of the options, and all know `--config`.

Results:
* `longOption?_longName`: each option is found by its name.
* `option_ofValue`: an option makes settings of itself only.
* `ofValue_eq_error`: only a variable has values that are refused.
-/

namespace CmakeDriver

namespace CommandLine

/-- The options that make a setting. -/
inductive Opt where
  | config
  | configuration
  | buildFolder
  | toolchain
  | verbose
  | env
  deriving DecidableEq, Repr, Inhabited

/-- What the command line can be in the middle of: nothing but the program's own options, or those
of a subcommand. -/
inductive Scope where
  | top
  | configure
  | build
  | doctor
  deriving DecidableEq, Repr, Inhabited

namespace Opt

/-- The name of an option behind its two dashes. -/
def longName : Opt → String
  | config => "config"
  | configuration => "configuration"
  | buildFolder => "build-folder"
  | toolchain => "toolchain"
  | verbose => "verbose"
  | env => "env"

/-- The name of an option's value, if it takes one. -/
def valueName? : Opt → Option String
  | config => some "CONFIG"
  | configuration => some "CONFIGURATION"
  | buildFolder => some "BUILD_FOLDER"
  | toolchain => some "TOOLCHAIN"
  | verbose => none
  | env => some "KEY=VALUE"

/-- Whether an option takes a value. -/
def takesValue (o : Opt) : Bool :=
  o.valueName?.isSome

/-- An option as messages show it. -/
def display (o : Opt) : String :=
  "--" ++ o.longName ++
    match o.valueName? with
    | some name => " <" ++ name ++ ">"
    | none => ""

/-- Whether an option may be given more than once. -/
def mayRepeat : Opt → Bool
  | env => true
  | _ => false

end Opt

namespace Scope

/-- The options that a scope knows. -/
def options : Scope → List Opt
  | top => [.config]
  | configure => [.configuration, .buildFolder, .toolchain, .verbose, .env, .config]
  | build => [.buildFolder, .verbose, .config]
  | doctor => [.config]

/-- Whether a scope knows an option. -/
def knows (s : Scope) (o : Opt) : Bool :=
  s.options.contains o

/-- The option that a scope knows by a name. -/
def longOption? (s : Scope) (name : String) : Option Opt :=
  s.options.find? fun o => o.longName = name

theorem longOption?_longName (s : Scope) (o : Opt) :
    s.longOption? o.longName = if s.knows o then some o else none := by
  cases s <;> cases o <;> decide

end Scope

/-- An option with its value. -/
inductive Setting where
  | config (path : String)
  | configuration (name : String)
  | buildFolder (path : String)
  | toolchain (path : String)
  | verbose
  | env (key value : String)
  deriving DecidableEq, Repr

namespace Setting

/-- The option of a setting. -/
def option : Setting → Opt
  | config _ => .config
  | configuration _ => .configuration
  | buildFolder _ => .buildFolder
  | toolchain _ => .toolchain
  | verbose => .verbose
  | env _ _ => .env

/-- The setting that an option makes of a value. A flag has no use for one. -/
def ofValue (o : Opt) (value : String) : Except EnvPair.Malformed Setting :=
  match o with
  | .config => .ok (config value)
  | .configuration => .ok (configuration value)
  | .buildFolder => .ok (buildFolder value)
  | .toolchain => .ok (toolchain value)
  | .verbose => .ok verbose
  | .env => (EnvPair.parse value).map fun p => env p.1 p.2

theorem option_ofValue {o : Opt} {value : String} {s : Setting} (h : ofValue o value = .ok s) :
    s.option = o := by
  cases o with
  | env =>
    simp only [ofValue] at h
    cases hp : EnvPair.parse value with
    | error e => rw [hp] at h; exact absurd h (by simp [Except.map])
    | ok p =>
      rw [hp] at h
      simp only [Except.map, Except.ok.injEq] at h
      rw [← h]; rfl
  | _ => simp only [ofValue, Except.ok.injEq] at h; rw [← h]; rfl

theorem ofValue_eq_error {o : Opt} {value : String} {e : EnvPair.Malformed}
    (h : ofValue o value = .error e) : o = .env := by
  cases o with
  | env => rfl
  | _ => exact absurd h (by simp [ofValue])

end Setting

end CommandLine

end CmakeDriver
