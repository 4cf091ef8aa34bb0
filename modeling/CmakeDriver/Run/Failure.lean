import CmakeDriver.Config.Load
import CmakeDriver.Execution.Basic

/-!
# Failures

Why a run failed, as a chain of messages: what was being done comes first, what lies behind it
follows. The report of a failure puts the causes below its first message, each indented as far as
its number is wide.

Results:
* `chain_ne_nil`: every failure has a message.
-/

namespace CmakeDriver

/-- Why a run failed. -/
inductive Failure where
  /-- The configuration could not be loaded. -/
  | config (fault : Config.LoadFault)
  /-- Neither the command line nor the configuration names a toolchain. -/
  | noToolchain
  | configure (folder : String) (fault : Execution.Fault)
  | build (folder : String) (fault : Execution.Fault)
  deriving Repr

namespace Failure

/-- The messages of a failure, what was being done first. -/
def chain : Failure → List String
  | config fault => fault.chain
  | noToolchain =>
    ["no toolchain file configured; pass --toolchain or set project.toolchain"]
  | configure folder fault => ("cmake configure of " ++ folder ++ " failed") :: fault.chain
  | build folder fault => ("cmake build of " ++ folder ++ " failed") :: fault.chain

theorem chain_ne_nil (f : Failure) : f.chain ≠ [] := by
  cases f with
  | config fault => cases fault <;> simp [chain, Config.LoadFault.chain]
  | _ => simp [chain]

/-- The mark that a report shows for what is wrong with a document. -/
def documentMark : String := "<toml>"

/-- The messages as a report shows them: what is wrong with a document is left at a mark. -/
def reported : Failure → List String
  | config (.notToml path) => ["parsing " ++ path, documentMark]
  | config (.shape path _) => ["parsing " ++ path, documentMark]
  | f => f.chain

/-- A text whose lines but the first are indented. -/
def indented (indent : Nat) (text : String) : String :=
  String.ofList (text.toList.flatMap fun c =>
    if c = '\n' then c :: List.replicate indent ' ' else [c])

/-- The causes of a failure as a report lists them: one alone without a number. -/
def causeLines : List String → List String
  | [] => []
  | [cause] => ["    " ++ indented 4 cause]
  | causes => causes.zipIdx.map fun (cause, n) =>
      let label := toString n
      String.ofList (List.replicate (5 - label.length) ' ') ++ label ++ ": " ++ indented 7 cause

/-- The report of a chain of messages. -/
def reportOf : List String → String
  | [] => "Error: \n"
  | [message] => "Error: " ++ message ++ "\n"
  | message :: causes =>
    "Error: " ++ message ++ "\n\nCaused by:\n" ++ "\n".intercalate (causeLines causes) ++ "\n"

/-- The report of a failure. -/
def report (f : Failure) : String :=
  reportOf f.reported

end Failure

end CmakeDriver
