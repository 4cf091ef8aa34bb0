import CmakeDriver.CommandLine.Setting
import CmakeDriver.Text.Styled

/-!
# Usage errors and help

What the command line says when its arguments make no sense, and what it says when it is asked for
help. A usage error is shown by its headline, the part of its message before the first line feed.
Its message is styled before it is shown, so orders to a terminal in an argument end where the style
does.

Out of scope: what follows the headline of a usage error, which is the usage of the subcommand and
perhaps a tip.

Results:
* `not_mem_headline`, `not_mem_printedHeadline`: a headline is one line.
* `shows_of_mem_headline`, `shows_of_mem_printedHeadline`: without colours it holds no orders to a
  terminal, whatever the arguments hold.
-/

namespace CmakeDriver

namespace CommandLine

/-- The part of a text before its first line feed. -/
def firstLine (s : String) : String :=
  String.ofList (s.toList.takeWhile (· ≠ '\n'))

theorem not_mem_firstLine (s : String) : '\n' ∉ (firstLine s).toList := by
  intro h
  simp only [firstLine, String.toList_ofList] at h
  have hall := List.all_takeWhile (p := fun c => decide (c ≠ '\n')) (l := s.toList)
  simpa using List.all_eq_true.1 hall _ h

theorem mem_of_mem_firstLine {s : String} {c : Char} (h : c ∈ (firstLine s).toList) :
    c ∈ s.toList := by
  rw [firstLine, String.toList_ofList] at h
  exact (List.takeWhile_sublist _).mem h

/-- What the command line is made of besides settings: the questions it answers at once. -/
inductive Question where
  | help
  | version
  deriving DecidableEq, Repr

namespace Question

/-- A question as messages show it. -/
def display : Question → String
  | help => "--help"
  | version => "--version"

end Question

/-- Why arguments make no sense. -/
inductive UsageError where
  | unknownArgument (argument : String)
  | unknownSubcommand (word : String)
  | missingValue (option : Opt)
  | repeated (option : Opt)
  /-- A value is attached to an option, shown as `display`, that takes none. -/
  | unexpectedValue (display value : String)
  | invalidValue (option : Opt) (value : String) (reason : EnvPair.Malformed)
  deriving DecidableEq, Repr

namespace UsageError

/-- What a usage error says. What the arguments hold is marked as invalid, but for the text in the
reason for a refused value. -/
def sentence : UsageError → StyledText
  | unknownArgument argument =>
    [.plain "unexpected argument '", .invalid argument, .plain "' found"]
  | unknownSubcommand word => [.plain "unrecognized subcommand '", .invalid word, .plain "'"]
  | missingValue option =>
    [.plain "a value is required for '", .invalid option.display,
      .plain "' but none was supplied"]
  | repeated option =>
    [.plain "the argument '", .invalid option.display, .plain "' cannot be used multiple times"]
  | unexpectedValue display value =>
    [.plain "unexpected value '", .invalid value, .plain "' for '", .literal display,
      .plain "' found; no more were expected"]
  | invalidValue option value reason =>
    [.plain "invalid value '", .invalid value, .plain "' for '", .literal option.display,
      .plain ("': " ++ reason.message)]

/-- A usage error in words, with the hint that closes its message. -/
def message (e : UsageError) : StyledText :=
  .alarm "error:" :: .plain " " :: e.sentence
    ++ [.plain "\n\nFor more information, try '", .literal Question.help.display, .plain "'.\n"]

/-- The first line of a usage error as a text. -/
def headline (e : UsageError) : String :=
  firstLine (Terminal.plain e.message.coloured)

/-- The first line of a usage error as it is printed, with or without colours. -/
def printedHeadline (e : UsageError) (colours : Bool) : String :=
  firstLine (if colours then e.message.coloured else Terminal.filtered e.message.coloured)

theorem not_mem_headline (e : UsageError) : '\n' ∉ e.headline.toList :=
  not_mem_firstLine _

theorem not_mem_printedHeadline (e : UsageError) (colours : Bool) :
    '\n' ∉ (e.printedHeadline colours).toList :=
  not_mem_firstLine _

theorem shows_of_mem_headline {e : UsageError} {c : Char} (h : c ∈ e.headline.toList) :
    Terminal.Place.text.shows c = true :=
  Terminal.shows_of_mem_plain (mem_of_mem_firstLine h)

theorem shows_of_mem_printedHeadline {e : UsageError} {c : Char}
    (h : c ∈ (e.printedHeadline false).toList) : Terminal.Place.text.shows c = true :=
  Terminal.shows_of_mem_filtered (mem_of_mem_firstLine h)

end UsageError

/-- The pages of help. -/
inductive Page where
  | top
  | configure
  | build
  | doctor
  | help
  deriving DecidableEq, Repr

namespace Page

/-- The line of an option that is written one way: `gap` stands between it and what it is for. -/
def optionLine (option : Opt) (gap use : String) : StyledText :=
  let value :=
    match option.valueName? with
    | some name => " <" ++ name ++ ">"
    | none => ""
  [.plain "      ", .literal ("--" ++ option.longName), .plain (value ++ gap ++ use ++ "\n")]

/-- The line of a question that is also asked by a letter. -/
def questionLine (letter : String) (question : Question) (gap use : String) : StyledText :=
  [.plain "  ", .literal letter, .plain ", ", .literal question.display,
    .plain (gap ++ use ++ "\n")]

/-- What `--config` is for. -/
def configUse : String :=
  "Path to the cmakew config file. Relative paths inside it are taken relative to the current "
    ++ "directory, which is also the cmake source dir [default: cmakew.toml]"

/-- The head of a page: what a command is for, and how it is used. -/
def head (use command operands : String) : StyledText :=
  [.plain (use ++ "\n\n"), .heading "Usage:", .plain " ", .literal command,
    .plain (" " ++ operands ++ "\n\n")]

/-- A page, with the styles of its parts. -/
def content : Page → StyledText
  | top =>
    head "Configure and build CMake projects with a fixed command line" "cmakew"
        "[OPTIONS] [COMMAND]"
      ++ [.heading "Commands:", .plain "\n  ",
        .literal "configure",
        .plain "  Generate the build tree (cmake -S . -B <build-folder>)\n  ",
        .literal "build",
        .plain "      Build a configured tree (cmake --build <build-folder>)\n  ",
        .literal "doctor",
        .plain "     Report cmake, toolchain and build folder state as JSON\n  ",
        .literal "help",
        .plain "       Print this message or the help of the given subcommand(s)\n\n",
        .heading "Options:", .plain "\n"]
      ++ optionLine .config "  " configUse
      ++ questionLine "-h" .help "             " "Print help"
      ++ questionLine "-V" .version "          " "Print version"
  | configure =>
    head "Generate the build tree (cmake -S . -B <build-folder>)" "cmakew configure" "[OPTIONS]"
      ++ [.heading "Options:", .plain "\n"]
      ++ optionLine .config "                " configUse
      ++ optionLine .configuration "  " "Build type, e.g. Debug or Release"
      ++ optionLine .buildFolder "    " ""
      ++ optionLine .toolchain "          " "CMake toolchain file"
      ++ optionLine .verbose "                        "
        "Trace-level cmake logging and developer warnings"
      ++ optionLine .env "                " "Extra environment for cmake, repeatable"
      ++ questionLine "-h" .help "                           " "Print help"
  | build =>
    head "Build a configured tree (cmake --build <build-folder>)" "cmakew build" "[OPTIONS]"
      ++ [.heading "Options:", .plain "\n"]
      ++ optionLine .buildFolder "  " ""
      ++ optionLine .config "              " configUse
      ++ optionLine .verbose "                      " ""
      ++ questionLine "-h" .help "                         " "Print help"
  | doctor =>
    head "Report cmake, toolchain and build folder state as JSON" "cmakew doctor" "[OPTIONS]"
      ++ [.heading "Options:", .plain "\n"]
      ++ optionLine .config "  " configUse
      ++ questionLine "-h" .help "             " "Print help"
  | help =>
    head "Print this message or the help of the given subcommand(s)" "cmakew help" "[COMMAND]..."
      ++ [.heading "Arguments:", .plain "\n  [COMMAND]...  Print help for the subcommand(s)\n"]

/-- The text of a page. -/
def text (p : Page) : String :=
  p.content.text

/-- A page as it is printed, with or without colours. -/
def printed (p : Page) (colours : Bool) : String :=
  if colours then p.content.coloured else p.text

end Page

/-- The answer to the question for the version. -/
def versionText : String := "cmakew 0.1.0\n"

/-- What is printed when no subcommand is given. -/
def overviewText : String :=
  "cmakew: fixed-command-line cmake driver\n\n"
    ++ "Common workflows:\n"
    ++ "  cmakew configure --toolchain cmake/host.cmake   # cmake -S . -B build\n"
    ++ "  cmakew build                                    # cmake --build build\n"
    ++ "  cmakew doctor                                   # check cmake + toolchain\n\n"
    ++ "Defaults come from cmakew.toml when present.\n"
    ++ "For full help: cmakew --help or cmakew help <command>.\n"

/-- Why arguments give no command. -/
inductive Refusal where
  | help (page : Page)
  | version
  | usage (error : UsageError)
  deriving DecidableEq, Repr

end CommandLine

end CmakeDriver
